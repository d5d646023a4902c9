import HelpPages.Style.Basic
import HelpPages.Proofs.Text.Pieces

/-! # Text without its escape sequences

A terminal does not show escape sequences: what it shows of a text is the text without
them (`withoutCodes`).  Removing them is a scan from the left that does not commute with
every concatenation, since a sequence may start in one text and end in the next.  It does
for texts that are complete in this sense (`Shows`): texts without an escape character,
whole sequences, and hence texts in a style.
-/
namespace HelpPages
namespace Style

/-- A digit or a semicolon, which separates the codes of an escape sequence. -/
def isParameter (c : CodePoint) : Bool := c.isDigit || c = ';'

/-- What follows the escape sequence at the start of a text, if one is there. -/
def behindSequence? : Text → Option Text
  | '\x1b' :: '[' :: rest =>
    match rest.dropWhile isParameter with
    | 'm' :: behind => some behind
    | _ => none
  | _ => none

theorem length_of_behindSequence? {t behind : Text} (h : behindSequence? t = some behind) :
    behind.length < t.length := by
  rw [behindSequence?.eq_def] at h
  split at h
  · next rest =>
    have hdrop := (List.dropWhile_suffix (l := rest) isParameter).length_le
    split at h
    · next behind' he =>
      cases h
      rw [he, List.length_cons] at hdrop
      rw [List.length_cons, List.length_cons]
      omega
    · cases h
  · cases h

/-- The text without its escape sequences. -/
def withoutCodes : Text → Text
  | [] => []
  | c :: rest =>
    match _h : behindSequence? (c :: rest) with
    | some behind => withoutCodes behind
    | none => c :: withoutCodes rest
termination_by t => t.length
decreasing_by
  · exact length_of_behindSequence? _h
  · exact Nat.lt_succ_self _

@[simp] theorem withoutCodes_nil : withoutCodes [] = [] := by
  rw [withoutCodes]

theorem withoutCodes_of_behindSequence? {t behind : Text} (h : behindSequence? t = some behind) :
    withoutCodes t = withoutCodes behind := by
  cases t with
  | nil => cases h
  | cons c rest =>
    rw [withoutCodes]
    split
    · next behind' h' => rw [h] at h'; cases h'; rfl
    · next h' => rw [h] at h'; cases h'

theorem withoutCodes_cons_of_ne {c : CodePoint} (h : c ≠ .char '\x1b') (t : Text) :
    withoutCodes (c :: t) = c :: withoutCodes t := by
  rw [withoutCodes]
  split
  · next behind hbehind =>
    rw [behindSequence?.eq_def] at hbehind
    split at hbehind
    · next he => exact absurd (List.cons.inj he).1 h
    · cases hbehind
  · rfl

/-- A coloured text shows a plain one: without escape sequences it is the plain text,
whatever follows. -/
def Shows (colored plain : Text) : Prop :=
  ∀ rest : Text, withoutCodes (colored ++ rest) = plain ++ withoutCodes rest

variable {s t u v : Text}

theorem Shows.withoutCodes_eq (h : Shows s t) : withoutCodes s = t := by
  have hend := h []
  rwa [List.append_nil, withoutCodes_nil, List.append_nil] at hend

theorem Shows.append (h : Shows s t) (h' : Shows u v) : Shows (s ++ u) (t ++ v) := by
  intro rest
  rw [List.append_assoc, h, h', List.append_assoc]

/-- A text without an escape character shows itself. -/
theorem shows_self (h : CodePoint.char '\x1b' ∉ t) : Shows t t := by
  intro rest
  induction t with
  | nil => rfl
  | cons c t ih =>
    obtain ⟨hc, ht⟩ := not_or.mp (mt List.mem_cons.mpr h)
    rw [List.cons_append, withoutCodes_cons_of_ne (Ne.symm hc), ih ht, List.cons_append]

theorem isParameter_of_mem_ofNat {n : Nat} {c : CodePoint} (h : c ∈ Integer.ofNat n) :
    isParameter c = true := by
  rw [Integer.ofNat, Text.ofChars] at h
  obtain ⟨d, hd, rfl⟩ := List.mem_map.mp h
  rw [isParameter, Bool.or_eq_true]
  exact Or.inl (Nat.isDigit_of_mem_toDigits (by decide) (by decide) hd)

/-- An escape sequence shows nothing. -/
theorem shows_sequence (codes : List Nat) : Shows (sequence codes) [] := by
  intro rest
  have hparameters : ∀ c ∈ Text.joinWith ";" (codes.map Integer.ofNat), isParameter c = true := by
    intro c hc
    rcases Text.mem_joinWith hc with hc | ⟨t, ht, hc⟩
    · rw [List.mem_singleton.mp hc]; rfl
    · obtain ⟨n, -, rfl⟩ := List.mem_map.mp ht
      exact isParameter_of_mem_ofNat hc
  -- the parameters end at the letter, whatever stands behind it
  have hbehind : behindSequence? (sequence codes ++ rest) = some rest := by
    have hsequence : sequence codes ++ rest = .char '\x1b' :: .char '[' ::
        (Text.joinWith ";" (codes.map Integer.ofNat) ++ .char 'm' :: rest) := by
      simp only [sequence, List.append_assoc]
      rfl
    have hm : ¬ isParameter (.char 'm') = true := by decide
    rw [hsequence, behindSequence?, List.dropWhile_append_of_pos hparameters,
      List.dropWhile_cons_of_neg hm]
    rfl
  rw [withoutCodes_of_behindSequence? hbehind, List.nil_append]

/-- A text in a style shows the text. -/
theorem shows_apply (style : Style) (h : CodePoint.char '\x1b' ∉ t) :
    Shows (style.apply t) t := by
  rw [apply]
  split
  · exact shows_self h
  · have hshows := ((shows_sequence style.codes).append (shows_self h)).append (shows_sequence [0])
    rwa [List.nil_append, List.append_nil] at hshows

end Style
end HelpPages
