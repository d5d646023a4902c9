import HelpPages.Text.Word
import HelpPages.Proofs.Text.Pieces
import HelpPages.Proofs.Text.Trim

/-! # Words and phrases

A phrase is a text that starts and ends with something other than a blank and keeps
to one line.  The first word of phrases with blanks between them is the first of
them, if it is a word, and the rest of the phrases stands behind it
(`cutWord_unwords`).  No word character is a blank.
-/
namespace HelpPages
namespace Text

/-- The ranges have no number in common. -/
def areDisjoint (ranges others : List (Nat × Nat)) : Bool :=
  ranges.all fun r => others.all fun o => r.2 < o.1 || o.2 < r.1

theorem not_inRanges_of_areDisjoint {ranges others : List (Nat × Nat)} {c : CodePoint}
    (disjoint : areDisjoint ranges others = true) (h : inRanges ranges c = true) :
    inRanges others c = false := by
  rw [Bool.eq_false_iff]
  intro ho
  obtain ⟨r, hr, hrc⟩ := List.any_eq_true.mp h
  obtain ⟨o, hmem, hoc⟩ := List.any_eq_true.mp ho
  have hd := List.all_eq_true.mp (List.all_eq_true.mp disjoint r hr) o hmem
  simp only [Bool.and_eq_true, decide_eq_true_eq, Bool.or_eq_true] at hrc hoc hd
  omega

theorem inRanges_of_mem {ranges : List (Nat × Nat)} {r : Nat × Nat} {c : CodePoint}
    (hr : r ∈ ranges) (low : r.1 ≤ c.toNat) (high : c.toNat ≤ r.2) : inRanges ranges c = true :=
  List.any_eq_true.mpr ⟨r, hr, by simp [low, high]⟩

theorem isBlank_eq_false_of_isAlphanum {c : CodePoint} (h : c.isAlphanum = true) :
    isBlank c = false := by
  have hranges : inRanges [(48, 57), (65, 90), (97, 122)] c = true := by
    -- half of a surrogate pair is no letter
    cases c with
    | half d => cases h
    | char c =>
      have hsome : (c.isUpper || c.isLower || c.isDigit) = true := h
      rcases Bool.or_eq_true_iff.mp hsome with hletter | hdigit
      · rcases Bool.or_eq_true_iff.mp hletter with hupper | hlower
        · obtain ⟨low, high⟩ : 'A'.val ≤ c.val ∧ c.val ≤ 'Z'.val := of_decide_eq_true hupper
          exact inRanges_of_mem (r := (65, 90)) (by decide) (UInt32.le_iff_toNat_le.mp low)
            (UInt32.le_iff_toNat_le.mp high)
        · obtain ⟨hlow, hhigh⟩ := Bool.and_eq_true_iff.mp hlower
          have low : 'a'.val ≤ c.val := of_decide_eq_true hlow
          have high : c.val ≤ 'z'.val := of_decide_eq_true hhigh
          exact inRanges_of_mem (r := (97, 122)) (by decide) (UInt32.le_iff_toNat_le.mp low)
            (UInt32.le_iff_toNat_le.mp high)
      · obtain ⟨low, high⟩ := Char.isDigit_iff_toNat.mp hdigit
        exact inRanges_of_mem (r := (48, 57)) (by decide) low high
  exact not_inRanges_of_areDisjoint (by decide) hranges

/-- No word character is a blank. -/
theorem isBlank_eq_false_of_isWordChar {c : CodePoint} (h : isWordChar c = true) :
    isBlank c = false := by
  rw [isWordChar] at h
  split at h
  · rcases Bool.or_eq_true_iff.mp h with h | h
    · exact isBlank_eq_false_of_isAlphanum h
    · rw [beq_iff_eq.mp h]; rfl
  · exact not_inRanges_of_areDisjoint (by decide +kernel) h

/-- A text that keeps to one line and has no blank at either end. -/
structure IsInline (t : Text) : Prop where
  oneLine : CodePoint.char '\n' ∉ t
  stripped : strip t = t

/-- A text that is not empty, keeps to one line and has no blank at either end. -/
structure IsPhrase (t : Text) : Prop extends IsInline t where
  nonempty : t ≠ []

instance (t : Text) : Decidable (IsInline t) :=
  decidable_of_iff (CodePoint.char '\n' ∉ t ∧ strip t = t)
    ⟨fun h => ⟨h.1, h.2⟩, fun h => ⟨h.1, h.2⟩⟩

instance (t : Text) : Decidable (IsPhrase t) :=
  decidable_of_iff (IsInline t ∧ t ≠ []) ⟨fun h => ⟨h.1, h.2⟩, fun h => ⟨h.1, h.2⟩⟩

theorem IsPhrase.of_unblank {t : Text} (nonempty : t ≠ []) (h : ∀ c ∈ t, isBlank c = false) :
    IsPhrase t where
  nonempty := nonempty
  oneLine hmem := absurd (h _ hmem) (by decide)
  stripped := trim_eq_self_iff.mpr
    ⟨fun c hc => h c (List.mem_of_mem_head? hc), fun c hc => h c (List.mem_of_mem_getLast? hc)⟩

theorem IsPhrase.head {t : Text} (h : IsPhrase t) :
    ∃ c rest, t = c :: rest ∧ isBlank c = false := by
  cases t with
  | nil => exact absurd rfl h.nonempty
  | cons c rest => exact ⟨c, rest, rfl, (trim_eq_self_iff.mp h.stripped).1 c rfl⟩

/-- Phrases with one blank between neighbours. -/
def unwords (phrases : List Text) : Text := joinWith [.char ' '] phrases

theorem cutWord_of_unblank {w : Text} (h : ∀ c ∈ w, isBlank c = false) : cutWord w = (w, []) := by
  have hw : ∀ c ∈ w, (!isBlank c) = true := fun c hc => by simp [h c hc]
  rw [cutWord, List.takeWhile_eq_self_iff.mpr hw, List.dropWhile_eq_nil_iff.mpr hw]
  rfl

/-- A word in front of phrases is cut off them. -/
theorem cutWord_unwords {w : Text} {phrases : List Text} (hw : ∀ c ∈ w, isBlank c = false)
    (h : ∀ p ∈ phrases, IsPhrase p) :
    cutWord (unwords (w :: phrases)) = (w, unwords phrases) := by
  have hword : ∀ c ∈ w, (!isBlank c) = true := fun c hc => by simp [hw c hc]
  cases phrases with
  | nil => rw [unwords, joinWith_singleton, cutWord_of_unblank hw]; rfl
  | cons p ps =>
    obtain ⟨c, rest, rfl, hc⟩ := (h p (List.mem_cons_self ..)).head
    have hbehind : isBlank (.char ' ') = true := by decide
    rw [unwords, joinWith_cons _ _ (List.cons_ne_nil _ _), List.append_assoc, cutWord,
      List.takeWhile_append_of_pos hword, List.dropWhile_append_of_pos hword]
    simp [joinWith, unwords, hbehind, hc]

theorem IsPhrase.append {s t : Text} (hs : IsPhrase s) (ht : IsPhrase t) :
    IsPhrase (s ++ .char ' ' :: t) where
  nonempty := by simp
  oneLine hmem := by
    rcases List.mem_append.mp hmem with hmem | hmem
    · exact hs.oneLine hmem
    · rcases List.mem_cons.mp hmem with he | hmem
      · exact absurd he (by decide)
      · exact ht.oneLine hmem
  stripped := by
    refine trim_eq_self_iff.mpr ⟨fun c hc => ?_, fun c hc => ?_⟩
    · rw [List.head?_append_of_ne_nil _ hs.nonempty] at hc
      exact (trim_eq_self_iff.mp hs.stripped).1 c hc
    · rw [List.getLast?_append_of_ne_nil _ (List.cons_ne_nil _ _),
        List.getLast?_cons_of_ne_nil ht.nonempty] at hc
      exact (trim_eq_self_iff.mp ht.stripped).2 c hc

/-- Phrases with blanks between them are a phrase. -/
theorem isPhrase_unwords {phrases : List Text} (hne : phrases ≠ [])
    (h : ∀ p ∈ phrases, IsPhrase p) : IsPhrase (unwords phrases) := by
  induction phrases with
  | nil => exact absurd rfl hne
  | cons p ps ih =>
    have hp : IsPhrase p := h p (List.mem_cons_self ..)
    by_cases hps : ps = []
    · rw [hps, unwords, joinWith_singleton]
      exact hp
    · rw [unwords, joinWith_cons _ _ hps, List.append_assoc]
      exact hp.append (ih hps fun q hq => h q (List.mem_cons_of_mem _ hq))

end Text
end HelpPages
