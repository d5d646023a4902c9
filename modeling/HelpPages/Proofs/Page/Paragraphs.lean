import HelpPages.Page.OfComment
import HelpPages.Proofs.Text.Words

/-! # The paragraphs of a description

A description ends where two line feeds follow each other, and what stands behind
them is the long description.  A text without such a gap is kept whole
(`splitDescription_whole`), and two texts with a gap between them come back apart
(`splitDescription_apart`).  Both are stated for texts, and the last part of the module
reads them off the lines of a text; empty lines around the others do not show
(`splitDescription_surrounded`).
-/
namespace HelpPages

open Text (isFiller)

/-- Two line feeds in a row. -/
def gap : Text := [.char '\n', .char '\n']

theorem cutAtGap_cons {c : CodePoint} {t : Text} (h : ¬ gap <+: c :: t) :
    cutAtGap (c :: t) = (c :: (cutAtGap t).1, (cutAtGap t).2) := by
  rw [cutAtGap]
  rintro rest rfl rfl
  exact h ⟨rest, rfl⟩

/-- A text without a gap has nothing behind it. -/
theorem cutAtGap_of_not_gap {t : Text} (h : ¬ gap <:+: t) : cutAtGap t = (t, none) := by
  induction t with
  | nil => rfl
  | cons c t ih =>
    rw [cutAtGap_cons fun hp => h hp.isInfix,
      ih fun hi => h (hi.trans (List.suffix_cons c t).isInfix)]

/-- A gap behind a text that neither has one nor ends with a line feed is the first. -/
theorem cutAtGap_append {t : Text} (rest : Text) (h : ¬ gap <:+: t)
    (last : t.getLast? ≠ some '\n') :
    cutAtGap (t ++ (gap ++ rest)) = (t, some (rest.dropWhile (·.is '\n'))) := by
  induction t with
  | nil => rfl
  | cons c t ih =>
    have hfirst : ¬ gap <+: c :: (t ++ (gap ++ rest)) := by
      rintro ⟨u, hu⟩
      cases t with
      | nil => injection hu with hc; exact last (congrArg some hc.symm)
      | cons d t =>
        injection hu with hc hu
        injection hu with hd
        subst hc hd
        exact h ⟨[], t, rfl⟩
    have hlast : t.getLast? ≠ some '\n' := fun he =>
      last (List.mem_getLast?_cons he)
    rw [List.cons_append, cutAtGap_cons hfirst,
      ih (fun hi => h (hi.trans (List.suffix_cons c t).isInfix)) hlast]

/-- A text without a gap is a description without more. -/
theorem splitDescription_whole {t : Text} (ht : Text.trim isFiller t = t) (h : ¬ gap <:+: t) :
    splitDescription t = (t, none) := by
  show cutAtGap (Text.trim isFiller t) = _
  rw [ht, cutAtGap_of_not_gap h]

/-- A description and a long description come back from both sides of a gap. -/
theorem splitDescription_apart {t l : Text} (n : Nat) (ht : Text.trim isFiller t = t)
    (hl : Text.trim isFiller l = l) (tne : t ≠ []) (lne : l ≠ []) (h : ¬ gap <:+: t) :
    splitDescription (t ++ (gap ++ (List.replicate n (.char '\n') ++ l))) = (t, some l) := by
  obtain ⟨hthead, htlast⟩ := Text.trim_eq_self_iff.mp ht
  obtain ⟨hlhead, hllast⟩ := Text.trim_eq_self_iff.mp hl
  have htrim : Text.trim isFiller (t ++ (gap ++ (List.replicate n (.char '\n') ++ l)))
      = t ++ (gap ++ (List.replicate n (.char '\n') ++ l)) := by
    refine Text.trim_eq_self_iff.mpr ⟨fun c hc => ?_, fun c hc => ?_⟩
    · rw [List.head?_append_of_ne_nil _ tne] at hc
      exact hthead c hc
    · rw [← List.append_assoc, ← List.append_assoc,
        List.getLast?_append_of_ne_nil _ lne] at hc
      exact hllast c hc
  have hfeed : ∀ c ∈ List.replicate n (CodePoint.char '\n'), c.is '\n' = true := fun c hc => by
    rw [List.eq_of_mem_replicate hc]; rfl
  have hlast : t.getLast? ≠ some '\n' := fun he => absurd (htlast _ he) (by decide)
  obtain ⟨c, rest, rfl⟩ := List.exists_cons_of_ne_nil lne
  have hc : ¬ c.is '\n' = true := fun hc =>
    absurd (hlhead c rfl) (by rw [CodePoint.is_iff.mp hc]; decide)
  show cutAtGap (Text.trim isFiller _) = _
  rw [htrim, cutAtGap_append _ h hlast, List.dropWhile_append_of_pos hfeed,
    List.dropWhile_cons_of_neg hc]

/-! ### Lines of a paragraph -/

namespace Text

/-- The lines of a text; an empty text has none. -/
def linesOf (t : Text) : List Text := if t = [] then [] else splitOn '\n' t

theorem joinWith_linesOf (t : Text) : joinWith [.char '\n'] (linesOf t) = t := by
  by_cases ht : t = []
  · rw [linesOf, if_pos ht, ht]; rfl
  · rw [linesOf, if_neg ht, joinWith_splitOn]

/-- Empty lines in front of some lines are as many line feeds. -/
theorem joinWith_blank_append (n : Nat) {lines : List Text} (h : lines ≠ []) :
    joinWith [.char '\n'] (List.replicate n [] ++ lines)
      = List.replicate n (.char '\n') ++ joinWith [.char '\n'] lines := by
  induction n with
  | zero => rfl
  | succ n ih =>
    rw [List.replicate_succ, List.cons_append, joinWith_cons _ _ (by simp [h]), ih]
    rfl

/-- Empty lines behind other lines are as many line feeds. -/
theorem flatMap_blank (n : Nat) :
    (List.replicate n ([] : Text)).flatMap ([CodePoint.char '\n'] ++ ·)
      = List.replicate n (.char '\n') := by
  induction n with
  | zero => rfl
  | succ n ih => rw [List.replicate_succ, List.flatMap_cons, ih]; rfl

/-- Empty lines around other lines are line feeds around their text. -/
theorem joinWith_surrounded (m n : Nat) {lines : List Text} (h : lines ≠ []) :
    joinWith [.char '\n'] (List.replicate m [] ++ lines ++ List.replicate n [])
      = List.replicate m (.char '\n') ++ joinWith [.char '\n'] lines
        ++ List.replicate n (.char '\n') := by
  have hne : List.replicate m [] ++ lines ≠ [] := fun he => h (List.append_eq_nil_iff.mp he).2
  rw [joinWith_append _ hne, joinWith_blank_append m h, flatMap_blank]

/-- Empty lines around other lines are trimmed where line feeds are. -/
theorem trim_joinWith_surrounded {p : CodePoint → Bool} (hp : p (.char '\n') = true) (m n : Nat)
    (lines : List Text) :
    trim p (joinWith [.char '\n'] (List.replicate m [] ++ lines ++ List.replicate n [])) =
      trim p (joinWith [.char '\n'] lines) := by
  have hfeeds : ∀ k, ∀ c ∈ List.replicate k (CodePoint.char '\n'), p c = true := fun k c hc => by
    rwa [List.eq_of_mem_replicate hc]
  by_cases hlines : lines = []
  · have hall : ∀ c ∈ joinWith [.char '\n'] (List.replicate (m + n) []), p c = true := by
      intro c hc
      rcases mem_joinWith hc with hc | ⟨line, hline, hc⟩
      · rwa [List.mem_singleton.mp hc]
      · rw [List.eq_of_mem_replicate hline] at hc
        cases hc
    rw [hlines, List.append_nil, ← List.replicate_add]
    exact trim_append_right (t := []) hall
  · rw [joinWith_surrounded m n hlines, trim_append_right (hfeeds n), trim_append_left (hfeeds m)]

/-- A text whose lines are all shown has no gap. -/
theorem not_gap_of_lines {t : Text} (h : ∀ line ∈ splitOn '\n' t, line ≠ []) :
    ¬ gap <:+: t := by
  rintro ⟨s, u, rfl⟩
  refine h [] ?_ rfl
  have hsplit : s ++ gap ++ u = s ++ .char '\n' :: (.char '\n' :: u) := by simp [gap]
  rw [hsplit, splitOn_append, splitOn_cons_self]
  exact List.mem_append_right _ (List.mem_cons_self ..)

/-- Lines without blanks around them make a text without blanks around it, if the first
and the last of them are shown. -/
theorem strip_of_lines {t : Text} (h : ∀ line ∈ splitOn '\n' t, strip line = line)
    (first : (splitOn '\n' t).head? ≠ some []) (last : (splitOn '\n' t).getLast? ≠ some []) :
    strip t = t := by
  refine trim_eq_self_iff.mpr ⟨fun c hc => ?_, fun c hc => ?_⟩
  · obtain ⟨line, lines, hlines⟩ := List.exists_cons_of_ne_nil (splitOn_ne_nil (.char '\n') t)
    rw [hlines] at h first
    have hne : line ≠ [] := fun he => first (by rw [he]; rfl)
    rw [← joinWith_splitOn (.char '\n') t, hlines, joinWith_cons_eq,
      List.head?_append_of_ne_nil _ hne] at hc
    exact (trim_eq_self_iff.mp (h line (List.mem_cons_self ..))).1 c hc
  · obtain hnil | ⟨lines, line, hlines⟩ := List.eq_nil_or_concat (splitOn (.char '\n') t)
    · exact absurd hnil (splitOn_ne_nil _ _)
    rw [List.concat_eq_append] at hlines
    rw [hlines] at h last
    have hne : line ≠ [] := fun he => last (by rw [he]; simp)
    have hline := (trim_eq_self_iff.mp (h line (by simp))).2 c
    rw [← joinWith_splitOn (.char '\n') t, hlines] at hc
    by_cases hn : lines = []
    · rw [hn, List.nil_append, joinWith_singleton] at hc
      exact hline hc
    · rw [joinWith_append _ hn, List.flatMap_singleton, ← List.append_assoc,
        List.getLast?_append_of_ne_nil _ hne] at hc
      exact hline hc

/-- What has no blanks around it has no filler around it. -/
theorem trim_isFiller_of_strip {t : Text} (h : strip t = t) : trim isFiller t = t := by
  have hink : ∀ c, isBlank c = false → isFiller c = false := fun c hc => by
    cases hf : isFiller c with
    | false => rfl
    | true => rw [isBlank_of_isFiller hf] at hc; exact hc
  obtain ⟨hhead, hlast⟩ := trim_eq_self_iff.mp h
  exact trim_eq_self_iff.mpr ⟨fun c hc => hink c (hhead c hc), fun c hc => hink c (hlast c hc)⟩

end Text

/-- Empty lines around lines of prose do not change their paragraphs. -/
theorem splitDescription_surrounded (m n : Nat) (prose : List Text) :
    splitDescription (Text.joinWith "\n" (List.replicate m [] ++ prose ++ List.replicate n [])) =
      splitDescription (Text.joinWith "\n" prose) :=
  congrArg cutAtGap (Text.trim_joinWith_surrounded (p := isFiller) rfl m n prose)

end HelpPages
