import HelpPages.Proofs.Page.Characters
import HelpPages.Proofs.Page.Paragraphs

/-! # Descriptions that lose nothing

The text of a page is trimmed and then cut once, at its first gap.  A text with a gap can be
written in exactly one way as a description, two or more line feeds, and a long description
behind them (`IsSplit.eq`, `exists_isSplit`), and the cut finds the two texts: all that gets
lost are the line feeds between them.  What is trimmed starts with something to show, so a
page has a long description only with a description, and a description has a first line
(`splitDescription_lossless`).
-/
namespace HelpPages

open Text (isFiller)

/-- A text is a description, as many line feeds as there are, and a long description behind
them. -/
structure IsSplit (t d : Text) (k : Nat) (l : Text) : Prop where
  text : t = d ++ (List.replicate k (.char '\n') ++ l)
  isGap : 2 ≤ k
  nonempty : d ≠ []
  gapless : ¬ gap <:+: d
  ended : d.getLast? ≠ some (.char '\n')
  behind : l ≠ []
  started : l.head? ≠ some (.char '\n')

namespace IsSplit

variable {t d d' l l' : Text} {k k' : Nat}

/-- The cut at the first gap finds every split. -/
theorem cutAtGap_eq (h : IsSplit t d k l) : cutAtGap t = (d, some l) := by
  obtain ⟨n, rfl⟩ := Nat.exists_eq_add_of_le h.isGap
  have hfeed : ∀ c ∈ List.replicate n (CodePoint.char '\n'), c.is '\n' = true := fun c hc => by
    rw [List.eq_of_mem_replicate hc]
    rfl
  have hl : l.dropWhile (·.is '\n') = l := Text.dropWhile_eq_self_iff.mpr fun c hc =>
    Bool.eq_false_iff.mpr fun he => h.started (by rwa [← CodePoint.is_iff.mp he])
  have htext : t = d ++ (gap ++ (List.replicate n (.char '\n') ++ l)) := by
    rw [h.text, List.replicate_add, List.append_assoc]
    rfl
  rw [htext, cutAtGap_append _ h.gapless h.ended, List.dropWhile_append_of_pos hfeed, hl]

/-- A text has one split at most. -/
theorem eq (h : IsSplit t d k l) (h' : IsSplit t d' k' l') : d' = d ∧ k' = k ∧ l' = l := by
  have hcut := h'.cutAtGap_eq
  rw [h.cutAtGap_eq] at hcut
  cases hcut
  refine ⟨rfl, ?_, rfl⟩
  have hlength := congrArg List.length (h'.text.symm.trans h.text)
  simp only [List.length_append, List.length_replicate] at hlength
  omega

end IsSplit

/-- In front of the first gap of a text stands a text without a gap, and behind it one that
does not start with a line feed. -/
theorem exists_first_gap {t : Text} (h : gap <:+: t) :
    ∃ (d : Text) (k : Nat) (l : Text),
      t = d ++ (List.replicate k (.char '\n') ++ l) ∧ 2 ≤ k ∧ ¬ gap <:+: d ∧
      d.getLast? ≠ some (.char '\n') ∧ l.head? ≠ some (.char '\n') := by
  induction t with
  | nil => exact absurd (List.infix_nil.mp h) (List.cons_ne_nil _ _)
  | cons c t ih =>
    by_cases hfirst : gap <+: c :: t
    · -- the run of line feeds at the start is the gap
      obtain ⟨u, hu⟩ := hfirst
      have hrun : u.takeWhile (·.is '\n') =
          List.replicate (u.takeWhile (·.is '\n')).length (.char '\n') :=
        List.eq_replicate_iff.mpr ⟨rfl, fun c hc => CodePoint.is_iff.mp (List.mem_takeWhile_imp hc)⟩
      refine ⟨[], 2 + (u.takeWhile (·.is '\n')).length, u.dropWhile (·.is '\n'), ?_,
        Nat.le_add_right _ _, ?_, nofun, fun hc => ?_⟩
      · rw [List.replicate_add, ← hrun, List.append_assoc, List.takeWhile_append_dropWhile, ← hu]
        rfl
      · exact fun hgap => List.cons_ne_nil _ _ (List.infix_nil.mp hgap)
      · exact absurd (Text.not_of_head?_dropWhile hc) (by decide)
    · have hbehind : gap <:+: t := (List.infix_cons_iff.mp h).resolve_left hfirst
      obtain ⟨d, k, l, rfl, hk, hd, hended, hl⟩ := ih hbehind
      refine ⟨c :: d, k, l, rfl, hk, fun hgap => ?_, fun hlast => ?_, hl⟩
      · rcases List.infix_cons_iff.mp hgap with hgap | hgap
        · exact hfirst (hgap.trans (List.prefix_append (c :: d) _))
        · exact hd hgap
      · by_cases hnil : d = []
        · -- a line feed in front of the gap would belong to it
          subst hnil
          cases hlast
          obtain ⟨n, rfl⟩ := Nat.exists_eq_add_of_le' (Nat.le_of_succ_le hk)
          exact hfirst ⟨List.replicate n (.char '\n') ++ l, rfl⟩
        · rw [List.getLast?_cons_of_ne_nil hnil] at hlast
          exact hended hlast

/-- A text with a gap that neither starts nor ends with a line feed has a split. -/
theorem exists_isSplit {t : Text} (h : gap <:+: t) (head : t.head? ≠ some (.char '\n'))
    (last : t.getLast? ≠ some (.char '\n')) : ∃ d k l, IsSplit t d k l := by
  obtain ⟨d, k, l, rfl, hk, hd, hended, hl⟩ := exists_first_gap h
  refine ⟨d, k, l, rfl, hk, ?_, hd, hended, ?_, hl⟩
  · rintro rfl
    obtain ⟨n, rfl⟩ := Nat.exists_eq_add_of_le' hk
    exact head rfl
  · rintro rfl
    obtain ⟨n, rfl⟩ := Nat.exists_eq_add_of_le' hk
    refine last ?_
    rw [List.append_nil, List.replicate_succ', ← List.append_assoc, List.getLast?_concat]

theorem splitDescription_of_not_gap {t : Text} (h : ¬ gap <:+: Text.trim isFiller t) :
    splitDescription t = (Text.trim isFiller t, none) :=
  cutAtGap_of_not_gap h

theorem splitDescription_of_gap {t : Text} (h : gap <:+: Text.trim isFiller t) :
    ∃ d k l, splitDescription t = (d, some l) ∧ IsSplit (Text.trim isFiller t) d k l := by
  have hfeed : isFiller (.char '\n') = true := by decide
  obtain ⟨d, k, l, hsplit⟩ := exists_isSplit h
    (fun hc => absurd (Text.not_of_head?_trim hc) (by rw [hfeed]; decide))
    (fun hc => absurd (Text.not_of_getLast?_dropEndWhile hc) (by rw [hfeed]; decide))
  exact ⟨d, k, l, hsplit.cutAtGap_eq, hsplit⟩

/-- A description does not start with filler. -/
theorem not_isFiller_of_head?_splitDescription {t : Text} {c : CodePoint}
    (h : c ∈ (splitDescription t).1.head?) : isFiller c = false := by
  by_cases hgap : gap <:+: Text.trim isFiller t
  · obtain ⟨d, k, l, hsaid, hsplit⟩ := splitDescription_of_gap hgap
    rw [hsaid] at h
    refine Text.not_of_head?_trim (t := t) ?_
    rw [hsplit.text, List.head?_append_of_ne_nil _ hsplit.nonempty]
    exact h
  · rw [splitDescription_of_not_gap hgap] at h
    exact Text.not_of_head?_trim h

/-- There is no long description without a description. -/
theorem splitDescription_ne_nil {t : Text} (h : (splitDescription t).2 ≠ none) :
    (splitDescription t).1 ≠ [] := by
  by_cases hgap : gap <:+: Text.trim isFiller t
  · obtain ⟨d, k, l, hsaid, hsplit⟩ := splitDescription_of_gap hgap
    rw [hsaid]
    exact hsplit.nonempty
  · rw [splitDescription_of_not_gap hgap] at h
    exact absurd rfl h

namespace Page

/-- The descriptions of a page are cut out of one text. -/
theorem exists_splitDescription (s : Substitution) (comment : Text) :
    ∃ prose, splitDescription prose =
      ((ofComment s comment).description, (ofComment s comment).longDescription) := by
  refine ⟨Text.joinWith "\n" ((Comment.read comment).filterMap Comment.Line.prose?), ?_⟩
  rw [ofComment, ofLines_eq]

theorem shortDescription_ne_nil {page : Page} (hne : page.description ≠ [])
    (h : ∀ c ∈ page.description.head?, isFiller c = false) : page.shortDescription ≠ [] := by
  obtain ⟨c, rest, hdescription⟩ := List.exists_cons_of_ne_nil hne
  have hc : (!c.is '\n') = true := by
    have hink := h c (by rw [hdescription]; rfl)
    rw [Bool.not_eq_true', Bool.eq_false_iff]
    intro he
    rw [CodePoint.is_iff.mp he] at hink
    cases hink
  have hshort : page.shortDescription = c :: rest.takeWhile (!·.is '\n') := by
    rw [shortDescription, hdescription]
    exact List.takeWhile_cons_of_pos hc
  rw [hshort]
  exact List.cons_ne_nil _ _

/-- **Cutting a description loses nothing and leaves no choice.**  So a page that has a
description shows a line of it in listings, and only such a page has a long description. -/
theorem splitDescription_lossless (t : Text) :
    (¬ gap <:+: Text.trim isFiller t → splitDescription t = (Text.trim isFiller t, none)) ∧
    (gap <:+: Text.trim isFiller t → ∃ d k l, splitDescription t = (d, some l) ∧
      IsSplit (Text.trim isFiller t) d k l ∧
      ∀ d' k' l', IsSplit (Text.trim isFiller t) d' k' l' → d' = d ∧ k' = k ∧ l' = l) ∧
    ∀ (s : Substitution) (comment : Text),
      ((ofComment s comment).description ≠ [] → (ofComment s comment).shortDescription ≠ []) ∧
      ((ofComment s comment).longDescription ≠ none → (ofComment s comment).description ≠ []) := by
  refine ⟨splitDescription_of_not_gap, fun hgap => ?_, fun s comment => ?_⟩
  · obtain ⟨d, k, l, hsaid, hsplit⟩ := splitDescription_of_gap hgap
    exact ⟨d, k, l, hsaid, hsplit, fun d' k' l' => hsplit.eq⟩
  · obtain ⟨prose, hprose⟩ := exists_splitDescription s comment
    have hstarted : ∀ c ∈ (splitDescription prose).1.head?, isFiller c = false := fun _ =>
      not_isFiller_of_head?_splitDescription
    have hbehind := splitDescription_ne_nil (t := prose)
    rw [hprose] at hstarted hbehind
    dsimp only at hstarted hbehind
    exact ⟨fun hne => shortDescription_ne_nil hne hstarted, hbehind⟩

/-- A text with filler around it and two gaps in it. -/
def spacedText : Text := "\n Copy files.\nBoth ways.\n\n\nRecursively.\n\nOr not. \n"

theorem splitDescription_lossless_spaced :
    gap <:+: Text.trim isFiller spacedText ∧
      (∃ d k l, splitDescription spacedText = (d, some l) ∧
        IsSplit (Text.trim isFiller spacedText) d k l ∧
        ∀ d' k' l', IsSplit (Text.trim isFiller spacedText) d' k' l' →
          d' = d ∧ k' = k ∧ l' = l) ∧
      (ofComment {} spacedText).description ≠ [] ∧
      (ofComment {} spacedText).shortDescription ≠ [] := by
  have hgap : gap <:+: Text.trim isFiller spacedText :=
    ⟨"Copy files.\nBoth ways.", "\nRecursively.\n\nOr not.", by decide +kernel⟩
  have hne : (ofComment {} spacedText).description ≠ [] := by decide +kernel
  have hlossless := splitDescription_lossless spacedText
  exact ⟨hgap, hlossless.2.1 hgap, hne, (hlossless.2.2 {} spacedText).1 hne⟩

example : (splitDescription spacedText).1 = "Copy files.\nBoth ways." ∧
    (splitDescription spacedText).2 = some ("Recursively.\n\nOr not." : Text) := by decide +kernel

end Page
end HelpPages
