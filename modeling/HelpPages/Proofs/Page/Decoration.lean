import HelpPages.Proofs.Comment.Blanks

/-! # Decorated comments

A block comment has delimiters, asterisks and margins that a docstring has not.  What it
says is the same: its content lines are those of the bare text between empty lines
(`Frame.lines_around`, `lines_joinWith`), and empty lines around the lines of a page do not
show in it (`ofLines_surrounded`).
-/
namespace HelpPages

open Comment (Line IsContent IsMargin IsDelimited Frame)

/-- The content lines of bare text are its lines, but for empty ones around them. -/
theorem Comment.lines_joinWith {contents : List Text} (h : ∀ line ∈ contents, IsContent line)
    (bare : ¬ IsDelimited (Text.strip (Text.joinWith "\n" contents))) :
    ∃ k, lines (Text.joinWith "\n" contents) =
      List.replicate k [] ++ Docstring.trimLines contents := by
  obtain ⟨m, n, hcontents⟩ := Docstring.exists_trimLines contents
  have hcore : ∀ line ∈ Docstring.trimLines contents, IsContent line := fun line hline =>
    h line (hcontents ▸ List.mem_append_left _ (List.mem_append_right _ hline))
  have hstrip := Docstring.strip_joinWith_trimLines contents
  have hlines := Docstring.lines_joinWith_trimLines contents
  by_cases hnil : Docstring.trimLines contents = []
  · -- the empty text still has one line
    refine ⟨1, hlines.symm.trans ?_⟩
    rw [hnil]
    rfl
  · have hsplit := Text.splitOn_joinWith hnil fun line hline => (hcore line hline).oneLine
    have hstripped : Text.strip (Text.joinWith [.char '\n'] (Docstring.trimLines contents)) =
        Text.joinWith [.char '\n'] (Docstring.trimLines contents) := by
      refine Text.strip_of_lines ?_ ?_ ?_
      · rw [hsplit]
        exact fun line hline => (hcore line hline).stripped
      · rw [hsplit]
        exact Docstring.head?_trimLines_ne
      · rw [hsplit]
        exact Docstring.getLast?_trimLines_ne
    have hbare : ¬ IsDelimited (Text.joinWith [.char '\n'] (Docstring.trimLines contents)) :=
      fun hd => bare (by rw [← hstripped, hstrip] at hd; exact hd)
    have hclean : (Docstring.trimLines contents).map cleanLine = Docstring.trimLines contents :=
      (List.map_congr_left fun line hline => (hcore line hline).cleanLine_eq).trans (List.map_id _)
    refine ⟨0, hlines.symm.trans ?_⟩
    rw [lines, hstripped, undelimit_of_not_isDelimited hbare, hsplit, hclean]
    rfl

namespace Page

variable (s : Substitution)

/-- Empty lines around the lines of a page do not show in it. -/
theorem ofLines_surrounded (m n : Nat) (contents : List Text) :
    ofLines s ((List.replicate m [] ++ contents ++ List.replicate n []).map Line.ofText) =
      ofLines s (contents.map Line.ofText) := by
  have hempty : ∀ k, (List.replicate k ([] : Text)).map Line.ofText =
      List.replicate k (.prose []) := fun k => List.map_replicate
  simp only [ofLines, List.map_append, hempty, List.filterMap_append, List.filterMap_replicate,
    Line.prose?, Line.usage?, Line.arg?, Line.option?, Line.example?, splitDescription_surrounded,
    List.nil_append, List.append_nil]

/-- The page of a comment is that of its content lines, whatever empty lines stand around
them. -/
theorem ofComment_eq_of_lines {comment : Text} {m n : Nat} {contents : List Text}
    (h : Comment.lines comment = List.replicate m [] ++ contents ++ List.replicate n []) :
    ofComment s comment = ofLines s (contents.map Line.ofText) := by
  rw [ofComment, Comment.read, h, ofLines_surrounded]

/-- The page of bare text is that of its lines. -/
theorem ofComment_joinWith {contents : List Text} (h : ∀ line ∈ contents, IsContent line)
    (bare : ¬ IsDelimited (Text.strip (Text.joinWith "\n" contents))) :
    ofComment s (Text.joinWith "\n" contents) = ofLines s (contents.map Line.ofText) := by
  obtain ⟨m, n, hcontents⟩ := Docstring.exists_trimLines contents
  obtain ⟨k, hlines⟩ := Comment.lines_joinWith h bare
  have hbare : Comment.lines (Text.joinWith "\n" contents) =
      List.replicate k [] ++ Docstring.trimLines contents ++ List.replicate 0 [] := by
    rw [hlines, List.replicate_zero, List.append_nil]
  conv_rhs => rw [hcontents]
  rw [ofComment_eq_of_lines s hbare, ofLines_surrounded]

/-- The page of a block comment is that of its content lines. -/
theorem ofComment_frame {f : Frame} {rows : List (Text × Text)} (hf : f.IsBlank)
    (h : ∀ row ∈ rows, IsMargin row.1 ∧ IsContent row.2) :
    ofComment s (f.around rows) = ofLines s ((rows.map Prod.snd).map Line.ofText) :=
  ofComment_eq_of_lines s (m := 1) (Frame.lines_around hf h)

/-- **A block comment and bare text with the same lines have the same page**, whatever
the margins of the lines are and whatever blanks stand around the comment. -/
theorem ofComment_around {f : Frame} {rows : List (Text × Text)} (hf : f.IsBlank)
    (h : ∀ row ∈ rows, IsMargin row.1 ∧ IsContent row.2)
    (bare : ¬ IsDelimited (Text.strip (Text.joinWith "\n" (rows.map Prod.snd)))) :
    ofComment s (f.around rows) = ofComment s (Text.joinWith "\n" (rows.map Prod.snd)) := by
  have hcontent : ∀ line ∈ rows.map Prod.snd, IsContent line := by
    intro line hline
    obtain ⟨row, hrow, rfl⟩ := List.mem_map.mp hline
    exact (h row hrow).2
  rw [ofComment_frame s hf h, ofComment_joinWith s hcontent bare]

/-- The frame of a comment that stands indented in its source. -/
def indentedFrame : Frame where
  before := "\n  "
  stars := 3
  closing := "\t\n  "
  after := " \n"

/-- Content lines behind margins of all forms. -/
def marginedRows : List (Text × Text) :=
  [("", ""), ("\t*  ", "Copy files."), ("", ""), ("  ** * ", "@arg src  Source"), ("   ", "Long."),
    ("* ", "")]

theorem ofComment_around_indented :
    indentedFrame.IsBlank ∧ (∀ row ∈ marginedRows, IsMargin row.1 ∧ IsContent row.2) ∧
      ¬ IsDelimited (Text.strip (Text.joinWith "\n" (marginedRows.map Prod.snd))) ∧
      ofComment {} (indentedFrame.around marginedRows) =
        ofComment {} (Text.joinWith "\n" (marginedRows.map Prod.snd)) := by
  have hf : indentedFrame.IsBlank := ⟨by decide, by decide, by decide⟩
  have h : ∀ row ∈ marginedRows, IsMargin row.1 ∧ IsContent row.2 := by decide
  have bare : ¬ IsDelimited (Text.strip (Text.joinWith "\n" (marginedRows.map Prod.snd))) := by
    decide
  exact ⟨hf, h, bare, ofComment_around {} hf h bare⟩

end Page
end HelpPages
