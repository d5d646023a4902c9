import HelpPages.Proofs.Comment.TagLine

/-! # Clean lines

Cleaning takes the blanks off a line, and then asterisks and spaces off its start.  What is
left has no blank at its end and no asterisk or space at its start, but it may start with
another blank: the second step takes spaces only, so a tab behind an asterisk stays
(`HidesBlank`).  These are the only lines that change when they are cleaned again, and what
such a line says is prose, whatever tag stands behind the blank (`lines_clean_iff`).
-/
namespace HelpPages
namespace Comment

variable {line source before : Text}

/-- The lines of the text of a comment as they stand in it. -/
def sourceLines (comment : Text) : List Text :=
  Text.splitOn '\n' (undelimit (Text.strip comment))

/-- An asterisk or a space: what may stand at the start of a line behind its blanks. -/
def isStarOrSpace (c : CodePoint) : Bool := c = '*' || c = ' '

theorem isStarOrSpace_iff {c : CodePoint} :
    isStarOrSpace c = true ↔ c = .char '*' ∨ c = .char ' ' := by
  simp only [isStarOrSpace, Bool.or_eq_true, decide_eq_true_eq]

theorem cleanLine_eq_dropWhile (line : Text) :
    cleanLine line = (Text.strip line).dropWhile isStarOrSpace := rfl

/-- The margin of the line has an asterisk in it and ends before a blank that is no space, and
there is something behind the blank. -/
def HidesBlank (source : Text) : Prop :=
  ∃ margin c rest, source = margin ++ c :: rest ∧ IsMargin margin ∧ CodePoint.char '*' ∈ margin ∧
    Text.isBlank c = true ∧ c ≠ .char ' ' ∧ ∃ d ∈ rest, Text.isBlank d = false

/-! ### What cleaning leaves -/

theorem ne_of_head?_cleanLine {c : CodePoint} (h : c ∈ (cleanLine line).head?) :
    c ≠ .char '*' ∧ c ≠ .char ' ' := by
  have hc : isStarOrSpace c = false := Text.not_of_head?_dropWhile h
  rwa [Bool.eq_false_iff, ne_eq, isStarOrSpace_iff, not_or] at hc

theorem not_isBlank_of_getLast?_cleanLine {c : CodePoint} (h : c ∈ (cleanLine line).getLast?) :
    Text.isBlank c = false := by
  obtain ⟨taken, htaken⟩ := List.dropWhile_suffix (l := Text.strip line) isStarOrSpace
  have hne : cleanLine line ≠ [] := by
    intro hnil
    rw [hnil] at h
    cases h
  have hlast : (Text.strip line).getLast? = some c := by
    rw [← htaken, ← cleanLine_eq_dropWhile, List.getLast?_append_of_ne_nil _ hne]
    exact h
  exact Text.not_of_getLast?_dropEndWhile hlast

/-- A line is clean exactly if it starts with neither a blank nor an asterisk and does not end
with a blank. -/
theorem cleanLine_eq_self_iff :
    cleanLine line = line ↔ (∀ c ∈ line.head?, Text.isBlank c = false ∧ c ≠ .char '*') ∧
      ∀ c ∈ line.getLast?, Text.isBlank c = false := by
  constructor
  · intro h
    have hstrip : Text.strip line = line := by
      -- what was not taken from the stripped line is all of the line
      have hsuffix : cleanLine line <:+ Text.strip line := List.dropWhile_suffix _
      rw [h] at hsuffix
      have hpart : (Text.strip line).Sublist line :=
        (Text.dropEndWhile_isPrefix _ _).sublist.trans (List.dropWhile_suffix _).sublist
      exact hpart.eq_of_length_le hsuffix.length_le
    refine ⟨fun c hc => ⟨(Text.trim_eq_self_iff.mp hstrip).1 c hc, ?_⟩, fun c hc => ?_⟩
    · rw [← h] at hc
      exact (ne_of_head?_cleanLine hc).1
    · rw [← h] at hc
      exact not_isBlank_of_getLast?_cleanLine hc
  · rintro ⟨hhead, hlast⟩
    have hstrip : Text.strip line = line :=
      Text.trim_eq_self_iff.mpr ⟨fun c hc => (hhead c hc).1, hlast⟩
    rw [cleanLine_eq_dropWhile, hstrip, Text.dropWhile_eq_self_iff]
    intro c hc
    obtain ⟨hblank, hstar⟩ := hhead c hc
    rw [Bool.eq_false_iff, ne_eq, isStarOrSpace_iff]
    rintro (rfl | rfl)
    · exact hstar rfl
    · exact absurd hblank (by decide)

/-- A line that was cleaned is clean exactly if it does not start with a blank. -/
theorem cleanLine_cleanLine_iff :
    cleanLine (cleanLine line) = cleanLine line ↔
      ∀ c ∈ (cleanLine line).head?, Text.isBlank c = false := by
  rw [cleanLine_eq_self_iff]
  constructor
  · intro h c hc
    exact (h.1 c hc).1
  · intro h
    exact ⟨fun c hc => ⟨h c hc, (ne_of_head?_cleanLine hc).1⟩,
      fun c hc => not_isBlank_of_getLast?_cleanLine hc⟩

/-! ### Margins -/

/-- What stands behind a margin with an asterisk in it keeps the blank that it starts with. -/
theorem cleanLine_hidden {margin rest : Text} {c : CodePoint} (hmargin : IsMargin margin)
    (hstar : CodePoint.char '*' ∈ margin) (hc : Text.isBlank c = true) (hspace : c ≠ .char ' ')
    (hrest : ∃ d ∈ rest, Text.isBlank d = false) :
    cleanLine (margin ++ c :: rest) = c :: Text.dropEndWhile Text.isBlank rest := by
  obtain ⟨blanks, stars, rfl, hblanks, hstars⟩ := hmargin
  have hink : ∃ d ∈ stars, Text.isBlank d = false := by
    refine ⟨.char '*', (List.mem_append.mp hstar).resolve_left fun hmem => ?_, by decide⟩
    exact absurd (hblanks _ hmem).1 (by decide)
  have hstrip : Text.strip (stars ++ c :: rest) =
      stars.dropWhile Text.isBlank ++ c :: Text.dropEndWhile Text.isBlank rest := by
    have htrim := Text.trim_append_of_exists (t := [c]) hink hrest
    simp only [List.append_assoc, List.singleton_append] at htrim
    exact htrim
  have htaken : ∀ d ∈ stars.dropWhile Text.isBlank, isStarOrSpace d = true := fun d hd =>
    isStarOrSpace_iff.mpr (hstars d ((List.dropWhile_suffix _).subset hd))
  have hstop : ¬ isStarOrSpace c = true := by
    rw [isStarOrSpace_iff]
    rintro (rfl | rfl)
    · exact absurd hc (by decide)
    · exact hspace rfl
  rw [List.append_assoc, cleanLine_blanks_append _ fun d hd => (hblanks d hd).1,
    cleanLine_eq_dropWhile,
    hstrip, List.dropWhile_append_of_pos htaken, List.dropWhile_cons_of_neg hstop]

/-- A line is its margin, what is left of it, and blanks.  The margin has an asterisk in it if
what is left starts with a blank. -/
theorem exists_margin (oneLine : CodePoint.char '\n' ∉ source) :
    ∃ margin after, source = margin ++ cleanLine source ++ after ∧ IsMargin margin ∧
      (∀ c ∈ after, Text.isBlank c = true) ∧
      ((∃ c ∈ (cleanLine source).head?, Text.isBlank c = true) → CodePoint.char '*' ∈ margin) := by
  obtain ⟨after, hafter, hblank⟩ :=
    Text.dropEndWhile_append_dropped Text.isBlank (source.dropWhile Text.isBlank)
  have hstars : Text.strip source =
      (Text.strip source).takeWhile isStarOrSpace ++ cleanLine source :=
    List.takeWhile_append_dropWhile.symm
  refine ⟨source.takeWhile Text.isBlank ++ (Text.strip source).takeWhile isStarOrSpace, after,
    ?_, ?_, hblank, ?_⟩
  · calc source
        = source.takeWhile Text.isBlank ++ source.dropWhile Text.isBlank :=
          List.takeWhile_append_dropWhile.symm
      _ = source.takeWhile Text.isBlank ++ (Text.strip source ++ after) := congrArg _ hafter
      _ = source.takeWhile Text.isBlank ++
            ((Text.strip source).takeWhile isStarOrSpace ++ cleanLine source ++ after) := by
          rw [← hstars]
      _ = _ := by simp only [List.append_assoc]
  · refine ⟨_, _, rfl, fun c hc => ⟨List.mem_takeWhile_imp hc, ?_⟩, fun c hc => ?_⟩
    · rintro rfl
      exact oneLine ((List.takeWhile_prefix _).subset hc)
    · exact isStarOrSpace_iff.mp (List.mem_takeWhile_imp hc)
  · rintro ⟨c, hc, hcblank⟩
    -- a stripped line does not start with a blank, so its first character was taken
    cases htaken : (Text.strip source).takeWhile isStarOrSpace with
    | nil =>
      rw [htaken, List.nil_append] at hstars
      rw [← hstars] at hc
      rw [Text.not_of_head?_trim hc] at hcblank
      cases hcblank
    | cons d taken =>
      have hfirst : (Text.strip source).head? = some d := by
        rw [hstars, htaken]
        rfl
      have hd : d ∈ (Text.strip source).takeWhile isStarOrSpace := by
        rw [htaken]
        exact List.mem_cons_self ..
      rcases isStarOrSpace_iff.mp (List.mem_takeWhile_imp hd) with rfl | rfl
      · exact List.mem_append_right _ (List.mem_cons_self ..)
      · exact absurd (Text.not_of_head?_trim hfirst) (by decide)

/-- What is left of a line starts with a blank exactly if the line hides one. -/
theorem hidesBlank_iff (oneLine : CodePoint.char '\n' ∉ source) :
    HidesBlank source ↔ ∃ c ∈ (cleanLine source).head?, Text.isBlank c = true := by
  constructor
  · rintro ⟨margin, c, rest, rfl, hmargin, hstar, hc, hspace, hrest⟩
    rw [cleanLine_hidden hmargin hstar hc hspace hrest]
    exact ⟨c, rfl, hc⟩
  · rintro ⟨c, hc, hcblank⟩
    obtain ⟨margin, after, hsource, hmargin, -, hstar⟩ := exists_margin oneLine
    obtain ⟨rest, hrest⟩ : ∃ rest, cleanLine source = c :: rest := List.head?_eq_some_iff.mp hc
    have hink : ∃ d ∈ rest, Text.isBlank d = false := by
      have hlast : ∀ d ∈ (c :: rest).getLast?, Text.isBlank d = false := by
        intro d hd
        rw [← hrest] at hd
        exact not_isBlank_of_getLast?_cleanLine hd
      have hne : rest ≠ [] := by
        rintro rfl
        rw [hlast c rfl] at hcblank
        cases hcblank
      refine ⟨rest.getLast hne, List.getLast_mem hne, hlast _ ?_⟩
      rw [List.getLast?_cons_of_ne_nil hne]
      exact List.getLast?_eq_some_getLast hne
    obtain ⟨d, hd, hdink⟩ := hink
    refine ⟨margin, c, rest ++ after, ?_, hmargin, hstar ⟨c, hc, hcblank⟩, hcblank,
      (ne_of_head?_cleanLine hc).2, d, List.mem_append_left _ hd, hdink⟩
    rw [hrest, List.append_assoc, List.cons_append] at hsource
    exact hsource

/-- What stands before content is taken off if it is a margin, and only then. -/
theorem IsContent.cleanLine_append_iff (h : IsContent line) (hne : line ≠ [])
    (oneLine : CodePoint.char '\n' ∉ before) :
    cleanLine (before ++ line) = line ↔ IsMargin before := by
  refine ⟨fun hclean => ?_, h.cleanLine_margin_append⟩
  have hstrip : Text.strip (before ++ line) = before.dropWhile Text.isBlank ++ line :=
    Text.trim_append_of_trimmed h.stripped hne
  rw [cleanLine_eq_dropWhile, hstrip] at hclean
  have hstars : ∀ c ∈ before.dropWhile Text.isBlank, isStarOrSpace c = true := by
    -- a character that is neither would stay in front of the content
    by_contra hstop
    push Not at hstop
    obtain ⟨c, hc, hink⟩ := hstop
    have hstays : ∃ c ∈ before.dropWhile Text.isBlank, isStarOrSpace c = false :=
      ⟨c, hc, Bool.eq_false_iff.mpr hink⟩
    rw [Text.dropWhile_append_of_exists hstays, List.append_left_eq_self,
      List.dropWhile_eq_nil_iff] at hclean
    exact hink (hclean c hc)
  refine ⟨before.takeWhile Text.isBlank, before.dropWhile Text.isBlank,
    List.takeWhile_append_dropWhile.symm, fun c hc => ⟨List.mem_takeWhile_imp hc, ?_⟩,
    fun c hc => isStarOrSpace_iff.mp (hstars c hc)⟩
  rintro rfl
  exact oneLine ((List.takeWhile_prefix _).subset hc)

theorem cleanLine_append_blanks {after : Text} (line : Text)
    (h : ∀ c ∈ after, Text.isBlank c = true) : cleanLine (line ++ after) = cleanLine line := by
  rw [cleanLine, cleanLine, Text.strip, Text.trim_append_right h]
  rfl

/-! ### Content lines -/

/-- A line that starts with a blank is prose. -/
theorem ofText_of_head?_isBlank {c : CodePoint} (hc : c ∈ line.head?)
    (h : Text.isBlank c = true) : Line.ofText line = .prose line := by
  refine Tag.ofText_of_not_looksTagged ?_
  obtain ⟨rest, rfl⟩ : ∃ rest, line = c :: rest := List.head?_eq_some_iff.mp hc
  unfold looksTagged
  split
  · next heq =>
    cases heq
    exact absurd h (by decide)
  · rfl

/-- **A content line is clean unless its line hides a blank behind an asterisk.**  The content
lines of a comment are its lines, each cleaned.  No content line has a line feed in it, none
starts with an asterisk or a space, and none ends with a blank.  One that starts with another
blank comes from a line that hides it; such a line is not left as it is when it is cleaned again,
and it is prose, and all others are clean.  What stands before content, be it a tag or prose, is
taken off exactly if it is a margin: blanks, and behind them asterisks and spaces. -/
theorem lines_clean_iff (comment : Text) :
    lines comment = (sourceLines comment).map cleanLine ∧
    (∀ line ∈ lines comment, CodePoint.char '\n' ∉ line ∧
      (∀ c ∈ line.head?, c ≠ .char '*' ∧ c ≠ .char ' ') ∧
      ∀ c ∈ line.getLast?, Text.isBlank c = false) ∧
    ∀ source ∈ sourceLines comment,
      (HidesBlank source ↔ ∃ c ∈ (cleanLine source).head?, Text.isBlank c = true) ∧
      (HidesBlank source ↔ cleanLine (cleanLine source) ≠ cleanLine source) ∧
      (HidesBlank source → Line.ofText (cleanLine source) = .prose (cleanLine source)) ∧
      ∀ before line after, source = before ++ line ++ after → IsContent line → line ≠ [] →
        (∀ c ∈ after, Text.isBlank c = true) → (cleanLine source = line ↔ IsMargin before) := by
  refine ⟨rfl, fun line hline => ?_, fun source hsource => ?_⟩
  · obtain ⟨source, hsource, rfl⟩ := List.mem_map.mp hline
    have hfeed : CodePoint.char '\n' ∉ cleanLine source := fun hmem =>
      Text.notMem_of_mem_splitOn hsource (Text.trim_subset _ _
        ((List.dropWhile_suffix _).subset hmem))
    exact ⟨hfeed, fun c hc => ne_of_head?_cleanLine hc,
      fun c hc => not_isBlank_of_getLast?_cleanLine hc⟩
  · have hfeed : CodePoint.char '\n' ∉ source := Text.notMem_of_mem_splitOn hsource
    have hhides := hidesBlank_iff hfeed
    refine ⟨hhides, ?_, fun hhidden => ?_, ?_⟩
    · rw [hhides, ne_eq, cleanLine_cleanLine_iff]
      push Not
      simp only [ne_eq, Bool.not_eq_false]
    · obtain ⟨c, hc, hblank⟩ := hhides.mp hhidden
      exact ofText_of_head?_isBlank hc hblank
    · rintro before line after rfl hcontent hne hafter
      have hbefore : CodePoint.char '\n' ∉ before := fun hmem =>
        hfeed (List.mem_append_left _ (List.mem_append_left _ hmem))
      rw [cleanLine_append_blanks _ hafter]
      exact hcontent.cleanLine_append_iff hne hbefore

/-- A tag behind an asterisk and a tab is no tag. -/
example : lines "/**\n *\t@usage $0 copy\n */" = ["", "\t@usage $0 copy", ""] := by decide

end Comment
end HelpPages
