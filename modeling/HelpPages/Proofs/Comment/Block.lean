import HelpPages.Comment.Lines
import HelpPages.Proofs.Text.Words

/-! # Block comments

A block comment is written line by line: a line that opens it, every content line
behind a margin of blanks and asterisks, and a line that closes it.  Reading gives the
content lines back between empty ones (`lines_around`), as long as none of them starts
with an asterisk or has blanks around it.
-/
namespace HelpPages
namespace Comment

/-- A line as it stands behind the asterisk of a block comment. -/
structure IsContent (line : Text) : Prop extends Text.IsInline line where
  unstarred : line.head? ≠ some '*'

instance (line : Text) : Decidable (IsContent line) :=
  decidable_of_iff (Text.IsInline line ∧ line.head? ≠ some '*')
    ⟨fun h => ⟨h.1, h.2⟩, fun h => ⟨h.1, h.2⟩⟩

/-- A content line behind its asterisk. -/
def starred (line : Text) : Text := " * " ++ line

/-- The block comment with some content lines. -/
def block (contents : List Text) : Text :=
  let opening : Text := "/**"
  let closing : Text := " */"
  Text.joinWith "\n" (opening :: contents.map starred ++ [closing])

/-- What may stand before a content line: blanks, and behind them asterisks and spaces. -/
def IsMargin (margin : Text) : Prop :=
  ∃ blanks stars, margin = blanks ++ stars ∧
    (∀ c ∈ blanks, Text.isBlank c = true ∧ c ≠ .char '\n') ∧
    ∀ c ∈ stars, c = .char '*' ∨ c = .char ' '

theorem isMargin_iff {margin : Text} :
    IsMargin margin ↔
      ∀ c ∈ margin.dropWhile (fun c => Text.isBlank c && c ≠ .char '\n'),
        c = .char '*' ∨ c = .char ' ' := by
  constructor
  · rintro ⟨blanks, stars, rfl, hblanks, hstars⟩ c hc
    rw [List.dropWhile_append_of_pos (by simpa using hblanks)] at hc
    exact hstars c ((List.dropWhile_suffix _).subset hc)
  · refine fun h => ⟨_, _, List.takeWhile_append_dropWhile.symm, fun c hc => ?_, h⟩
    simpa using List.mem_takeWhile_imp hc

instance (margin : Text) : Decidable (IsMargin margin) := decidable_of_iff _ isMargin_iff.symm

/-- What stands around the content lines of a block comment. -/
structure Frame where
  /-- The blanks before the comment. -/
  before : Text := []
  /-- How many asterisks follow the opening delimiter. -/
  stars : Nat := 1
  /-- The blanks before the closing delimiter. -/
  closing : Text := " "
  /-- The blanks behind the comment. -/
  after : Text := []
deriving DecidableEq, Repr

/-- All that a frame adds to the delimiters and the asterisks is blank. -/
structure Frame.IsBlank (f : Frame) : Prop where
  before : ∀ c ∈ f.before, Text.isBlank c = true
  closing : ∀ c ∈ f.closing, Text.isBlank c = true
  after : ∀ c ∈ f.after, Text.isBlank c = true

/-- The block comment in a frame with some rows, each a content line and its margin. -/
def Frame.around (f : Frame) (rows : List (Text × Text)) : Text :=
  let opening : Text := "/*"
  let closing : Text := "*/"
  f.before ++ Text.joinWith "\n" ((opening ++ List.replicate f.stars (.char '*')) ::
    rows.map (fun (margin, line) => margin ++ line) ++ [f.closing ++ closing]) ++ f.after

theorem isContent_nil : IsContent [] where
  oneLine := List.not_mem_nil
  stripped := rfl
  unstarred := nofun

/-- Delimiters on both sides of a text are taken off. -/
theorem undelimit_delimited (t : Text) :
    undelimit (.char '/' :: .char '*' :: (t ++ [.char '*', .char '/'])) = t := by
  have hrev : (t ++ [CodePoint.char '*', CodePoint.char '/']).reverse
      = .char '/' :: .char '*' :: t.reverse := by simp
  simp only [undelimit, hrev, List.reverse_reverse]

theorem cleanLine_of_blank {line : Text} (h : ∀ c ∈ line, Text.isBlank c = true) :
    cleanLine line = [] := by
  have hstrip := Text.trim_append_right (p := Text.isBlank) (t := []) h
  rw [List.nil_append] at hstrip
  rw [cleanLine, Text.strip, hstrip]
  rfl

/-- Asterisks and spaces alone are no content. -/
theorem cleanLine_of_stars {line : Text} (h : ∀ c ∈ line, c = .char '*' ∨ c = .char ' ') :
    cleanLine line = [] := by
  refine List.dropWhile_eq_nil_iff.mpr fun c hc => ?_
  have hmem := h c (Text.trim_subset Text.isBlank line hc)
  simpa using hmem

theorem cleanLine_blanks_append {blanks : Text} (line : Text)
    (h : ∀ c ∈ blanks, Text.isBlank c = true) : cleanLine (blanks ++ line) = cleanLine line := by
  rw [cleanLine, cleanLine, Text.strip, Text.trim_append_left h]
  rfl

theorem IsMargin.oneLine {margin : Text} (h : IsMargin margin) : CodePoint.char '\n' ∉ margin := by
  obtain ⟨blanks, stars, rfl, hblanks, hstars⟩ := h
  intro hmem
  rcases List.mem_append.mp hmem with hmem | hmem
  · exact (hblanks _ hmem).2 rfl
  · exact absurd (hstars _ hmem) (by decide)

/-- A content line comes back from behind its margin. -/
theorem IsContent.cleanLine_margin_append {margin line : Text} (h : IsContent line)
    (hmargin : IsMargin margin) : cleanLine (margin ++ line) = line := by
  obtain ⟨blanks, stars, rfl, hblanks, hstars⟩ := hmargin
  rw [List.append_assoc, cleanLine_blanks_append _ fun c hc => (hblanks c hc).1]
  cases line with
  | nil => rw [List.append_nil, cleanLine_of_stars hstars]
  | cons c rest =>
    have hc : Text.isBlank c = false := (Text.trim_eq_self_iff.mp h.stripped).1 c rfl
    have hstrip : Text.strip (stars ++ c :: rest) = stars.dropWhile Text.isBlank ++ c :: rest :=
      Text.trim_append_of_trimmed h.stripped (List.cons_ne_nil _ _)
    have hstar : c ≠ .char '*' := fun he => h.unstarred (congrArg some he)
    have hspace : c ≠ .char ' ' := fun he => by
      rw [he] at hc
      cases hc
    have hleft : ∀ d ∈ stars.dropWhile Text.isBlank, (d = '*' || d = ' ') = true := fun d hd => by
      simpa using hstars d ((List.dropWhile_suffix _).subset hd)
    rw [cleanLine, hstrip, List.dropWhile_append_of_pos hleft]
    simp [hstar, hspace]

/-- A content line is clean. -/
theorem IsContent.cleanLine_eq {line : Text} (h : IsContent line) : cleanLine line = line :=
  have hmargin : IsMargin [] := ⟨[], [], rfl, nofun, nofun⟩
  h.cleanLine_margin_append hmargin

namespace Frame

variable {f : Frame} {rows : List (Text × Text)}

/-- What stands between the delimiters of a block comment. -/
def inner (f : Frame) (rows : List (Text × Text)) : Text :=
  Text.joinWith [.char '\n'] (List.replicate f.stars (.char '*') ::
    rows.map fun (margin, line) => margin ++ line) ++ .char '\n' :: f.closing

theorem around_eq (f : Frame) (rows : List (Text × Text)) :
    f.around rows = f.before ++
      (.char '/' :: .char '*' :: (f.inner rows ++ [.char '*', .char '/'])) ++ f.after := by
  simp [around, inner, Text.joinWith, Text.ofString, Text.ofChars]

/-- Stripping a block comment leaves it with its delimiters. -/
theorem strip_around (hf : f.IsBlank) (rows : List (Text × Text)) :
    Text.strip (f.around rows) =
      .char '/' :: .char '*' :: (f.inner rows ++ [.char '*', .char '/']) := by
  rw [around_eq]
  refine Text.trim_surrounded hf.before ?_ hf.after
  refine Text.trim_eq_self_iff.mpr ⟨fun c hc => by cases hc; rfl, fun c hc => ?_⟩
  rw [← List.cons_append, ← List.cons_append,
    List.getLast?_append_of_ne_nil _ (List.cons_ne_nil _ _)] at hc
  cases hc
  rfl

/-- The lines between the delimiters are the content lines between empty ones. -/
theorem map_cleanLine_inner (hf : f.IsBlank)
    (h : ∀ row ∈ rows, IsMargin row.1 ∧ IsContent row.2) :
    (Text.splitOn '\n' (f.inner rows)).map cleanLine = [] :: rows.map Prod.snd ++
      List.replicate (Text.splitOn '\n' f.closing).length [] := by
  have hfree : ∀ line ∈ List.replicate f.stars (.char '*') ::
      rows.map (fun (margin, line) => margin ++ line), CodePoint.char '\n' ∉ line := by
    intro line hline hfeed
    rcases List.mem_cons.mp hline with rfl | hline
    · exact absurd (List.eq_of_mem_replicate hfeed) (by decide)
    · obtain ⟨row, hrow, rfl⟩ := List.mem_map.mp hline
      rcases List.mem_append.mp hfeed with hfeed | hfeed
      · exact (h row hrow).1.oneLine hfeed
      · exact (h row hrow).2.oneLine hfeed
  have hopening : cleanLine (List.replicate f.stars (.char '*')) = [] :=
    cleanLine_of_stars fun c hc => Or.inl (List.eq_of_mem_replicate hc)
  have hcontents : (rows.map fun (margin, line) => margin ++ line).map cleanLine =
      rows.map Prod.snd := by
    rw [List.map_map]
    exact List.map_congr_left fun row hrow => (h row hrow).2.cleanLine_margin_append (h row hrow).1
  have hclosing : (Text.splitOn '\n' f.closing).map cleanLine =
      List.replicate (Text.splitOn '\n' f.closing).length [] :=
    (List.map_congr_left fun piece hpiece => cleanLine_of_blank fun c hc =>
      hf.closing c (Text.subset_of_mem_splitOn hpiece hc)).trans (List.map_const' ..)
  rw [inner, Text.splitOn_append, Text.splitOn_joinWith (List.cons_ne_nil _ _) hfree,
    List.map_append, List.map_cons, hopening, hcontents, hclosing]

/-- The content lines come back from a block comment, between the empty lines that
are left of the delimiters. -/
theorem lines_around (hf : f.IsBlank) (h : ∀ row ∈ rows, IsMargin row.1 ∧ IsContent row.2) :
    lines (f.around rows) = [] :: rows.map Prod.snd ++
      List.replicate (Text.splitOn '\n' f.closing).length [] := by
  rw [lines, strip_around hf, undelimit_delimited, map_cleanLine_inner hf h]

end Frame

theorem block_eq_around (contents : List Text) :
    block contents = Frame.around {} (contents.map fun line => (" * ", line)) := by
  rw [block, Frame.around, List.map_map]
  simp only [List.append_nil]
  rfl

/-- The content lines come back from the block comment that is written for them. -/
theorem lines_block {contents : List Text} (h : ∀ line ∈ contents, IsContent line) :
    lines (block contents) = [] :: contents ++ [[]] := by
  have hmargin : IsMargin " * " := ⟨" ", "* ", rfl, by decide, by decide⟩
  have hrows : ∀ row ∈ contents.map fun line => ((" * " : Text), line),
      IsMargin row.1 ∧ IsContent row.2 := by
    intro row hrow
    obtain ⟨line, hline, rfl⟩ := List.mem_map.mp hrow
    exact ⟨hmargin, h line hline⟩
  have hcontents : (contents.map fun line => ((" * " : Text), line)).map Prod.snd = contents := by
    rw [List.map_map]
    exact List.map_id' contents
  rw [block_eq_around, Frame.lines_around ⟨by decide, by decide, by decide⟩ hrows, hcontents]
  rfl

end Comment
end HelpPages
