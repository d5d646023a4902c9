import HelpPages.Proofs.Text.Pieces
import HelpPages.Text.Blank

/-! # Lines of a text

Lines at every line break and lines of an input are cut by one rule that differs in the
characters that end a line (`linesAt`), with a line feed and a carriage return among them in
both.  A line feed cuts a text into the lines up to it and the lines behind it
(`linesAt_append_feed`), so lines that are ended one by one come back if no other character
ends a line within them (`linesAt_flatMap_ended`).
-/
namespace HelpPages
namespace Text

/-- The lines of a text at the characters of a kind; a carriage return and a line feed are one
end, and no line follows an end at the end of the text. -/
def linesAt (p : CodePoint → Bool) : Text → List Text
  | [] => []
  | '\r' :: '\n' :: rest => [] :: linesAt p rest
  | c :: rest =>
    if p c then [] :: linesAt p rest
    else
      match linesAt p rest with
      | [] => [[c]]
      | line :: lines => (c :: line) :: lines

/-- A character that ends a line of an input. -/
def isInputBreak (c : CodePoint) : Bool := c = '\n' || c = '\r'

theorem breakLines_eq (t : Text) : breakLines t = linesAt isLineBreak t := by
  fun_induction breakLines t with
  | case1 => rfl
  | case2 rest ih => rw [linesAt, ih]
  | case3 c rest hpair hc ih => rw [linesAt, if_pos hc, ih]; exact hpair
  | case4 c rest hpair hc hrest ih => rw [linesAt, if_neg hc, ← ih, hrest]; exact hpair
  | case5 c rest hpair hc line lines hrest ih => rw [linesAt, if_neg hc, ← ih, hrest]; exact hpair

theorem isInputBreak_iff {c : CodePoint} :
    isInputBreak c = true ↔ c = .char '\n' ∨ c = .char '\r' := by
  simp only [isInputBreak, Bool.or_eq_true, decide_eq_true_eq]

theorem inputLines_eq (t : Text) : inputLines t = linesAt isInputBreak t := by
  fun_induction inputLines t with
  | case1 => rfl
  | case2 rest ih => rw [linesAt, ih]
  | case3 c rest hpair hc ih => rw [linesAt, if_pos (isInputBreak_iff.mpr hc), ih]; exact hpair
  | case4 c rest hpair hc hrest ih =>
    rw [linesAt, if_neg (mt isInputBreak_iff.mp hc), ← ih, hrest]; exact hpair
  | case5 c rest hpair hc line lines hrest ih =>
    rw [linesAt, if_neg (mt isInputBreak_iff.mp hc), ← ih, hrest]; exact hpair

variable {p : CodePoint → Bool}

theorem linesAt_ne_nil {t : Text} (h : t ≠ []) : linesAt p t ≠ [] := by
  fun_cases linesAt p t with
  | case1 => exact absurd rfl h
  | _ => exact List.cons_ne_nil _ _

/-- A line has characters of the text, and none that ends a line. -/
theorem of_mem_linesAt {line t : Text} (h : line ∈ linesAt p t) :
    line ⊆ t ∧ ∀ c ∈ line, p c = false := by
  fun_induction linesAt p t generalizing line with
  | case1 => cases h
  | case2 rest ih =>
    rcases List.mem_cons.mp h with rfl | h
    · exact ⟨List.nil_subset _, nofun⟩
    · obtain ⟨hsubset, hfree⟩ := ih h
      exact ⟨List.subset_cons_of_subset _ (List.subset_cons_of_subset _ hsubset), hfree⟩
  | case3 c rest _ hc ih =>
    rcases List.mem_cons.mp h with rfl | h
    · exact ⟨List.nil_subset _, nofun⟩
    · obtain ⟨hsubset, hfree⟩ := ih h
      exact ⟨List.subset_cons_of_subset _ hsubset, hfree⟩
  | case4 c rest _ hc hnil ih =>
    rw [List.mem_singleton.mp h]
    exact ⟨List.cons_subset_cons _ (List.nil_subset _),
      List.forall_mem_singleton.mpr (Bool.eq_false_iff.mpr hc)⟩
  | case5 c rest _ hc first others hlines ih =>
    rw [hlines] at ih
    rcases List.mem_cons.mp h with rfl | h
    · obtain ⟨hsubset, hfree⟩ := ih (List.mem_cons_self ..)
      exact ⟨List.cons_subset_cons _ hsubset,
        List.forall_mem_cons.mpr ⟨Bool.eq_false_iff.mpr hc, hfree⟩⟩
    · obtain ⟨hsubset, hfree⟩ := ih (List.mem_cons_of_mem _ h)
      exact ⟨List.subset_cons_of_subset _ hsubset, hfree⟩

/-- The first character of a text that does not start with a carriage return and a line feed. -/
theorem linesAt_cons {c : CodePoint} {rest : Text}
    (hpair : ∀ more, c = .char '\r' → rest = .char '\n' :: more → False) :
    linesAt p (c :: rest) =
      if p c then [] :: linesAt p rest
      else
        match linesAt p rest with
        | [] => [[c]]
        | line :: lines => (c :: line) :: lines := by
  rw [linesAt]
  exact hpair

/-- Behind a line feed the lines start anew. -/
theorem linesAt_append_feed (feed : p '\n' = true) (s t : Text) :
    linesAt p (s ++ .char '\n' :: t) = linesAt p (s ++ [.char '\n']) ++ linesAt p t := by
  have hnil : ∀ u : Text, linesAt p (.char '\n' :: u) = [] :: linesAt p u := fun u => by
    rw [linesAt_cons (fun _ he => absurd he (by decide)), if_pos feed]
  have hcons : ∀ (c : CodePoint) (rest : Text),
      (∀ more, c = .char '\r' → rest = .char '\n' :: more → False) →
      linesAt p (rest ++ .char '\n' :: t) =
        linesAt p (rest ++ [.char '\n']) ++ linesAt p t →
      linesAt p (c :: rest ++ .char '\n' :: t) =
        linesAt p (c :: rest ++ [.char '\n']) ++ linesAt p t := by
    intro c rest hpair ih
    by_cases hend : c = .char '\r' ∧ rest = []
    · -- a carriage return at the end becomes one end with the line feed
      obtain ⟨rfl, rfl⟩ := hend
      rfl
    · have hapart : ∀ u more, c = .char '\r' →
          rest ++ .char '\n' :: u = .char '\n' :: more → False := by
        intro u more hc hrest
        cases rest with
        | nil => exact hend ⟨hc, rfl⟩
        | cons d rest => exact hpair rest hc (by rw [(List.cons.inj hrest).1])
      rw [List.cons_append, List.cons_append, linesAt_cons (hapart t), linesAt_cons (hapart []), ih]
      split
      · rfl
      · obtain ⟨line, lines, hlines⟩ := List.exists_cons_of_ne_nil
          (linesAt_ne_nil (p := p) (List.append_ne_nil_of_right_ne_nil rest
            (List.cons_ne_nil (CodePoint.char '\n') [])))
        rw [hlines]
        rfl
  fun_induction linesAt p s with
  | case1 => rw [List.nil_append, List.nil_append, hnil, hnil]; rfl
  | case2 rest ih => exact congrArg ([] :: ·) ih
  | case3 c rest hpair hc ih => exact hcons c rest hpair ih
  | case4 c rest hpair hc hrest ih => exact hcons c rest hpair ih
  | case5 c rest hpair hc line lines hrest ih => exact hcons c rest hpair ih

/-- A line that is ended is one line exactly if no other character ends a line within it. -/
theorem linesAt_ended_iff (feed : p '\n' = true) (carriageReturn : p '\r' = true) {s : Text} :
    linesAt p (s ++ [.char '\n']) = [s] ↔ ∀ c ∈ s, p c = false := by
  refine ⟨fun h => (of_mem_linesAt (h ▸ List.mem_singleton_self s)).2, fun h => ?_⟩
  induction s with
  | nil =>
    rw [List.nil_append, linesAt_cons (fun _ he => absurd he (by decide)), if_pos feed]
    rfl
  | cons c s ih =>
    obtain ⟨hc, hs⟩ := List.forall_mem_cons.mp h
    have hreturn : c ≠ .char '\r' := by
      rintro rfl
      exact absurd (carriageReturn.symm.trans hc) (by decide)
    rw [List.cons_append, linesAt_cons (fun _ he => absurd he hreturn), ih hs,
      if_neg (by simp [hc])]

/-- Texts that are ended one by one are cut into the lines of each. -/
theorem linesAt_flatMap_ended (feed : p '\n' = true) (texts : List Text) :
    linesAt p (texts.flatMap (· ++ [.char '\n'])) =
      texts.flatMap fun t => linesAt p (t ++ [.char '\n']) := by
  induction texts with
  | nil => rfl
  | cons t texts ih =>
    rw [List.flatMap_cons, List.flatMap_cons, List.append_assoc, List.singleton_append,
      linesAt_append_feed feed, ih]

end Text
end HelpPages
