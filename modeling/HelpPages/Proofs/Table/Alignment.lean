import HelpPages.Proofs.Table.Measured
import HelpPages.Proofs.Text.Pieces

/-! # The alignment of a table

A table is laid out in lines: rules above, below and under the header, all alike, and
one line for each row.  The widths of the columns decide at which byte a column starts,
whatever the row (`Config.cellStart`), and at that byte every row shows its whole cell
and blanks up to the width of the column.  `Config.IsLayout` says so, with the columns
that the rows call for (`Config.shownIndexes`), and `render_isLayout` that the text of a
table is such a layout, for every configuration and all rows whose cells keep to one line.
-/
namespace HelpPages

namespace Table
namespace Config

/-! ### The parts of a line -/

/-- What stands before the first cell of a line. -/
def opening (config : Config) : Text :=
  if config.border then if config.frame then "|" else "| " else []

/-- What stands behind the last cell of a line. -/
def closing (config : Config) : Text :=
  if config.border then if config.frame then "|" else " |" else []

/-- What stands between two cells. -/
def separator (config : Config) : Text := if config.frame then "|" else "\t"

/-- What stands on either side of a cell. -/
def side (config : Config) : Text := if config.frame then " " else []

/-- The line of a row without its end. -/
def rowText (config : Config) (columns : List Column) (row : List Text) : Text :=
  config.opening ++ Text.joinWith config.separator (columns.map (config.cell row))
    ++ config.closing

/-- The line of a rule without its end. -/
def ruleText (config : Config) (columns : List Column) : Text :=
  if config.isRuled then
    "+" ++ Text.joinWith "+" (((config.dashRuns (columns.map fun c => (c.width : Int))).map
      Int.toNat).map fun n => List.replicate n '-') ++ "+"
  else []

theorem cell_eq (config : Config) (row : List Text) (c : Column) :
    config.cell row c =
      config.side ++ Text.padRight c.width (cellAt row c.index) ++ config.side := by
  cases hframe : config.frame <;> simp [cell, side, cellAt, hframe]

theorem rowLine_eq (config : Config) (columns : List Column) (row : List Text) :
    config.rowLine columns row = config.rowText columns row ++ [.char '\n'] := by
  cases hborder : config.border <;> cases hframe : config.frame <;>
    simp [rowLine, rowText, opening, closing, separator, hborder, hframe] <;> rfl

theorem ruleLine_eq (config : Config) (columns : List Column) :
    config.ruleLine columns = config.ruleText columns ++ [.char '\n'] := by
  rw [ruleLine, ruleOfRuns, ruleText]
  split
  · simp only [List.append_assoc]; rfl
  · rfl

/-! ### Widths of lines -/

variable {config : Config} {columns : List Column} {row : List Text}

theorem width_cell {c : Column} (fits : Text.width (cellAt row c.index) ≤ c.width) :
    Text.width (config.cell row c) = Text.width config.side + c.width + Text.width config.side := by
  rw [cell_eq, Text.width_append, Text.width_append, Text.width_padRight, Nat.max_eq_right fits]

theorem map_width_cell (config : Config)
    (fits : ∀ c ∈ columns, Text.width (cellAt row c.index) ≤ c.width) :
    (columns.map (config.cell row)).map Text.width =
      columns.map fun c => Text.width config.side + c.width + Text.width config.side := by
  rw [List.map_map]
  exact List.map_congr_left fun c hc => width_cell (fits c hc)

/-- Lines of rows that fit their columns are of one width. -/
theorem width_rowText_congr {other : List Text}
    (fits : ∀ c ∈ columns, Text.width (cellAt row c.index) ≤ c.width)
    (fits' : ∀ c ∈ columns, Text.width (cellAt other c.index) ≤ c.width) :
    Text.width (config.rowText columns row) = Text.width (config.rowText columns other) := by
  have hcells := Text.width_joinWith_congr config.separator
    ((map_width_cell config fits).trans (map_width_cell config fits').symm)
  simp only [rowText, Text.width_append, hcells]

/-- The byte of a line at which a column starts. -/
def cellStart (config : Config) (columns : List Column) (k : Nat) : Nat :=
  Text.width config.opening
    + (columns.take k).foldr (fun c n =>
        Text.width config.side + c.width + Text.width config.side
          + Text.width config.separator + n) 0
    + Text.width config.side

/-- At the start of a column a line shows its cell, filled up with blanks. -/
theorem rowText_eq_append (fits : ∀ c ∈ columns, Text.width (cellAt row c.index) ≤ c.width)
    {k : Nat} {c : Column} (hc : columns[k]? = some c) :
    ∃ before behind, config.rowText columns row
        = before ++ Text.padRight c.width (cellAt row c.index) ++ behind
      ∧ Text.width before = config.cellStart columns k := by
  obtain ⟨hk, rfl⟩ := List.getElem?_eq_some_iff.mp hc
  -- no row has a say in the widths of the cells before the column
  have hsplit : columns = columns.take k ++ columns[k] :: columns.drop (k + 1) := by
    rw [← List.drop_eq_getElem_cons hk, List.take_append_drop]
  refine ⟨config.opening
      ++ ((columns.take k).map (config.cell row)).flatMap (· ++ config.separator) ++ config.side,
    config.side ++ ((columns.drop (k + 1)).map (config.cell row)).flatMap (config.separator ++ ·)
      ++ config.closing, ?_, ?_⟩
  · have hjoin := Text.joinWith_append_cons config.separator (config.cell row columns[k])
      ((columns.take k).map (config.cell row)) ((columns.drop (k + 1)).map (config.cell row))
    rw [← List.map_cons, ← List.map_append, ← hsplit, cell_eq] at hjoin
    rw [rowText, hjoin]
    simp only [List.append_assoc]
  · have hwidths : ((columns.take k).map (config.cell row)).foldr
        (fun t n => Text.width (t ++ config.separator) + n) 0 =
        (columns.take k).foldr (fun c n =>
          Text.width config.side + c.width + Text.width config.side
            + Text.width config.separator + n) 0 := by
      rw [List.foldr_map]
      refine List.foldr_ext _ _ _ fun c hc n => ?_
      rw [Text.width_append, width_cell (fits c (List.mem_of_mem_take hc))]
    rw [Text.width_append, Text.width_append, Text.width_flatMap, hwidths, cellStart]

/-! ### The characters of lines -/

/-- The characters that are drawn around and between cells. -/
def drawing : Text := "|+- \t"

variable {d : CodePoint}

theorem mem_cellAt {i : Nat} (h : d ∈ cellAt row i) : ∃ cell ∈ row, d ∈ cell := by
  rw [cellAt, List.getD_eq_getElem?_getD] at h
  cases hget : row[i]? with
  | none => rw [hget] at h; exact absurd h List.not_mem_nil
  | some cell => rw [hget] at h; exact ⟨cell, List.mem_of_getElem? hget, h⟩

theorem mem_cell {c : Column} (h : d ∈ config.cell row c) :
    d = .char ' ' ∨ ∃ cell ∈ row, d ∈ cell := by
  have hside : d ∈ config.side → d = .char ' ' := by
    rw [side]
    split
    · exact List.mem_singleton.mp
    · exact fun h => absurd h List.not_mem_nil
  rw [cell_eq, Text.padRight] at h
  rcases List.mem_append.mp h with h | h
  · rcases List.mem_append.mp h with h | h
    · exact Or.inl (hside h)
    · rcases List.mem_append.mp h with h | h
      · exact Or.inr (mem_cellAt h)
      · exact Or.inl (List.eq_of_mem_replicate h)
  · exact Or.inl (hside h)

theorem opening_subset (config : Config) : config.opening ⊆ drawing := by
  cases hborder : config.border <;> cases hframe : config.frame <;>
    simp only [opening, hborder, hframe] <;> decide

theorem closing_subset (config : Config) : config.closing ⊆ drawing := by
  cases hborder : config.border <;> cases hframe : config.frame <;>
    simp only [closing, hborder, hframe] <;> decide

theorem separator_subset (config : Config) : config.separator ⊆ drawing := by
  rw [separator]; split <;> decide

/-- A line of a row has the characters of its cells and those drawn around them. -/
theorem mem_rowText (h : d ∈ config.rowText columns row) :
    d ∈ drawing ∨ ∃ cell ∈ row, d ∈ cell := by
  rw [rowText] at h
  rcases List.mem_append.mp h with h | h
  · rcases List.mem_append.mp h with h | h
    · exact Or.inl (config.opening_subset h)
    · rcases Text.mem_joinWith h with h | ⟨t, ht, h⟩
      · exact Or.inl (config.separator_subset h)
      · obtain ⟨c, -, rfl⟩ := List.mem_map.mp ht
        rcases mem_cell h with rfl | h
        · exact Or.inl (by decide)
        · exact Or.inr h
  · exact Or.inl (config.closing_subset h)

/-- A rule is drawn with crosses and dashes. -/
theorem mem_ruleText (h : d ∈ config.ruleText columns) :
    d = .char '+' ∨ d = .char '-' := by
  rw [ruleText] at h
  split at h
  · rcases List.mem_append.mp h with h | h
    · rcases List.mem_append.mp h with h | h
      · exact Or.inl (List.mem_singleton.mp h)
      · rcases Text.mem_joinWith h with h | ⟨t, ht, h⟩
        · exact Or.inl (List.mem_singleton.mp h)
        · obtain ⟨n, -, rfl⟩ := List.mem_map.mp ht
          exact Or.inr (List.eq_of_mem_replicate h)
    · exact Or.inl (List.mem_singleton.mp h)
  · cases h

/-! ### Whole tables -/

/-- The lines of a table, given those of its rows and the rule: rules above and below if
it is ruled, and one under the first row if that is a header. -/
def arrange (config : Config) (rule : Text) (lines : List Text) : List Text :=
  let edge := if config.isRuled then [rule] else []
  let body :=
    match lines with
    | [] => []
    | first :: rest => first :: (if config.header then [rule] else []) ++ rest
  edge ++ body ++ edge

theorem lines_eq (config : Config) (rows : List (List Text)) :
    config.lines rows =
      (config.arrange (config.ruleText (config.columns (columnWidths rows)))
        (rows.map (config.rowText (config.columns (columnWidths rows))))).map
          (· ++ [CodePoint.char '\n']) := by
  have hedge : ∀ (b : Bool) (rule : Text), (if b then [rule ++ [CodePoint.char '\n']] else []) =
      (if b then [rule] else []).map (· ++ [CodePoint.char '\n']) := fun b rule => by
    cases b <;> rfl
  cases rows with
  | nil => simp only [lines, rowLines, arrange, ruleLine_eq, hedge, List.map_append, List.map_nil]
  | cons first rest =>
    have hrest : rest.map (config.rowLine (config.columns (columnWidths (first :: rest)))) =
        (rest.map (config.rowText (config.columns (columnWidths (first :: rest))))).map
          (· ++ [CodePoint.char '\n']) := by
      rw [List.map_map]
      exact List.map_congr_left fun row _ => rowLine_eq ..
    simp only [lines, rowLines, arrange, ruleLine_eq, hedge, hrest, rowLine_eq, List.map_append,
      List.map_cons]

theorem mem_arrange {rule line : Text} {lines : List Text}
    (h : line ∈ config.arrange rule lines) : line = rule ∨ line ∈ lines := by
  have hedge : ∀ b : Bool, line ∈ (if b then [rule] else []) → line = rule := fun b hmem => by
    cases b with
    | false => cases hmem
    | true => exact List.mem_singleton.mp hmem
  cases lines with
  | nil =>
    rcases List.mem_append.mp h with h | h
    · rcases List.mem_append.mp h with h | h
      · exact Or.inl (hedge _ h)
      · cases h
    · exact Or.inl (hedge _ h)
  | cons first rest =>
    rcases List.mem_append.mp h with h | h
    · rcases List.mem_append.mp h with h | h
      · exact Or.inl (hedge _ h)
      · rcases List.mem_cons.mp h with rfl | h
        · exact Or.inr (List.mem_cons_self ..)
        · rcases List.mem_append.mp h with h | h
          · exact Or.inl (hedge _ h)
          · exact Or.inr (List.mem_cons_of_mem _ h)
    · exact Or.inl (hedge _ h)

/-- A table has the characters of its cells and those drawn around them, and line
feeds. -/
theorem mem_render {rows : List (List Text)} (h : d ∈ config.render rows) :
    d = .char '\n' ∨ d ∈ drawing ∨ ∃ row ∈ rows, ∃ cell ∈ row, d ∈ cell := by
  rw [render, lines_eq, ← List.flatMap_def] at h
  obtain ⟨line, hline, h⟩ := List.mem_flatMap.mp h
  rcases List.mem_append.mp h with h | h
  · rcases mem_arrange hline with rfl | hline
    · rcases mem_ruleText h with rfl | rfl <;> exact Or.inr (Or.inl (by decide))
    · obtain ⟨row, hrow, rfl⟩ := List.mem_map.mp hline
      rcases mem_rowText h with h | hcell
      · exact Or.inr (Or.inl h)
      · exact Or.inr (Or.inr ⟨row, hrow, hcell⟩)
  · exact Or.inl (List.mem_singleton.mp h)

/-- A table can be encoded if its cells can. -/
theorem isEncodable_render {rows : List (List Text)} (h : isMeasurable rows = true) :
    (config.render rows).isEncodable = true := by
  have hdrawing : ∀ c ∈ drawing, c.isChar = true := by decide
  refine List.all_eq_true.mpr fun c hc => ?_
  rcases mem_render hc with rfl | hdrawn | ⟨row, hrow, cell, hcell, hc⟩
  · rfl
  · exact hdrawing c hdrawn
  · exact List.all_eq_true.mp (isMeasurable_iff.mp h row hrow cell hcell) c hc

/-- The width of the widest cell that a row has in a column. -/
def widest (rows : List (List Text)) (i : Nat) : Nat :=
  (rows.map fun row => Text.width (cellAt row i)).foldr max 0

/-- The columns that rows call for: one for each cell of the longest row, or only those in
which a row has a text if the others are left out. -/
def shownIndexes (config : Config) (rows : List (List Text)) : List Nat :=
  (List.range (longest rows)).filter fun i =>
    !config.skipEmpty || rows.any fun row => cellAt row i ≠ []

/-- A column has a width if a row has a text in it. -/
theorem pos_columnWidths_iff {rows : List (List Text)} {i : Nat} :
    0 < (columnWidths rows).getD i 0 ↔ ∃ row ∈ rows, cellAt row i ≠ [] := by
  rw [Nat.pos_iff_ne_zero, ne_eq, getD_columnWidths_eq_zero_iff]
  simp only [not_forall, exists_prop, ne_eq]

/-- The columns that are drawn are those that the rows call for. -/
theorem index_columns (config : Config) (rows : List (List Text)) :
    (config.columns (columnWidths rows)).map Column.index = config.shownIndexes rows := by
  have hkept : ∀ c ∈ allColumns (columnWidths rows), (!config.skipEmpty || decide (0 < c.width)) =
      (!config.skipEmpty || rows.any fun row => cellAt row c.index ≠ []) := by
    intro c hc
    have hwidth : (columnWidths rows).getD c.index 0 = c.width := by
      rw [List.getD_eq_getElem?_getD, mem_allColumns.mp hc]
      rfl
    refine congrArg (!config.skipEmpty || ·) ?_
    rw [← hwidth, Bool.eq_iff_iff, decide_eq_true_iff, pos_columnWidths_iff]
    simp only [List.any_eq_true, decide_eq_true_eq]
  have hindexes := index_allColumns (columnWidths rows)
  rw [length_columnWidths] at hindexes
  rw [columns_eq_filter, List.filter_congr hkept, shownIndexes, ← hindexes, List.filter_map]
  rfl

theorem width_columns {config : Config} {rows : List (List Text)} {c : Column}
    (h : c ∈ config.columns (columnWidths rows)) : c.width = widest rows c.index := by
  rw [width_of_mem_columns h, getD_columnWidths, widest]

/-- The text of a table is laid out in lines: a rule, and one line for each row. -/
structure IsLayout (config : Config) (rows : List (List Text)) (columns : List Column)
    (rule : Text) (lines : List Text) : Prop where
  /-- The columns are those that the rows call for. -/
  shown : columns.map Column.index = config.shownIndexes rows
  /-- A column is as wide as its widest cell. -/
  widths : ∀ c ∈ columns, c.width = widest rows c.index
  /-- Cut at the line feeds the text is the rules and the lines of the rows in their
  order, every one of them ended. -/
  text : Text.splitOn '\n' (config.render rows) = config.arrange rule lines ++ [[]]
  /-- The rule is drawn with crosses and dashes. -/
  rule_dashes : ∀ d ∈ rule, d = .char '+' ∨ d = .char '-'
  /-- Every row has one line. -/
  length_eq : lines.length = rows.length
  /-- All rows are of one width. -/
  rectangular : ∀ line ∈ lines, ∀ other ∈ lines, Text.width line = Text.width other
  /-- In the line of every row a column starts at the same byte and shows there the whole
  cell of the row, and blanks only up to the width of the column. -/
  aligned : ∀ (k : Nat) (c : Column), columns[k]? = some c →
    ∀ (i : Nat) (row : List Text) (line : Text), rows[i]? = some row → lines[i]? = some line →
      ∃ before behind, line = before
          ++ (cellAt row c.index ++ Text.spaces (c.width - Text.width (cellAt row c.index)))
          ++ behind
        ∧ Text.width before = config.cellStart columns k
        ∧ Text.width (cellAt row c.index) ≤ c.width

theorem render_isLayout (config : Config) {rows : List (List Text)}
    (oneLine : ∀ row ∈ rows, ∀ cell ∈ row, CodePoint.char '\n' ∉ cell) :
    config.IsLayout rows (config.columns (columnWidths rows))
      (config.ruleText (config.columns (columnWidths rows)))
      (rows.map (config.rowText (config.columns (columnWidths rows)))) where
  shown := index_columns config rows
  widths _ := width_columns
  text := by
    have hfree : ∀ line ∈ config.arrange (config.ruleText (config.columns (columnWidths rows)))
        (rows.map (config.rowText (config.columns (columnWidths rows)))),
        CodePoint.char '\n' ∉ line := fun line hline => by
      rcases mem_arrange hline with rfl | hline
      · intro hmem
        rcases mem_ruleText hmem with he | he <;> exact absurd he (by decide)
      · obtain ⟨row, hrow, rfl⟩ := List.mem_map.mp hline
        intro hmem
        rcases mem_rowText hmem with hdrawing | ⟨cell, hcell, hmem⟩
        · exact absurd hdrawing (by decide)
        · exact oneLine row hrow cell hcell hmem
    have hcut := Text.splitOn_flatMap_ended hfree []
    rw [List.append_nil] at hcut
    rw [render, lines_eq, ← List.flatMap_def]
    exact hcut
  rule_dashes _ := mem_ruleText
  length_eq := List.length_map _
  rectangular := by
    intro line hline other hother
    obtain ⟨row, hrow, rfl⟩ := List.mem_map.mp hline
    obtain ⟨row', hrow', rfl⟩ := List.mem_map.mp hother
    exact width_rowText_congr (fits_columns hrow) (fits_columns hrow')
  aligned := by
    intro k c hc i row line hrow hline
    rw [List.getElem?_map, hrow] at hline
    cases hline
    have hfits : ∀ c ∈ config.columns (columnWidths rows),
        Text.width (cellAt row c.index) ≤ c.width := fits_columns (List.mem_of_getElem? hrow)
    obtain ⟨before, behind, hline, hstart⟩ := rowText_eq_append hfits hc
    exact ⟨before, behind, hline, hstart, hfits c (List.mem_of_getElem? hc)⟩

/-- **The lines of a table are aligned.**  Rows of any lengths, whose cells are values
with texts on one line, are drawn in every configuration, and the text is laid out in aligned
lines.  Only a cell without a text or a width keeps a table from being drawn. -/
theorem draw_isLayout (config : Config) (rows : List (List Value))
    (oneLine : ∀ row ∈ rows, ∀ value ∈ row, CodePoint.char '\n' ∉ cellText value) :
    (config.drawValues rows).outcome =
        (fault? rows).elim (.ok (config.render (texts rows))) .error ∧
      (fault? rows = none ↔ ∀ row ∈ rows, ∀ value ∈ row,
        value.isWritable = true ∧ (cellText value).isEncodable = true) ∧
      ∃ columns rule lines, config.IsLayout (texts rows) columns rule lines :=
  ⟨config.outcome_drawValues rows, fault?_eq_none_iff, _, _, _,
    render_isLayout config (forall_texts.mpr oneLine)⟩

/-- Rows of three lengths, with a text that is wider than it is long. -/
def raggedRows : List (List Value) :=
  [[.text "Name", .text "Größe", .text "Rest"], [.text "Bär", .null], [], [.bool true]]

/-- Everything that can be drawn around rows. -/
def fullConfig : Config := { border := true, frame := true, skipEmpty := true, header := true }

theorem draw_isLayout_raggedRows :
    (∀ row ∈ raggedRows, ∀ value ∈ row, CodePoint.char '\n' ∉ cellText value) ∧
      (fullConfig.drawValues raggedRows).outcome = .ok (fullConfig.render (texts raggedRows)) ∧
      ∃ columns rule lines, fullConfig.IsLayout (texts raggedRows) columns rule lines := by
  have honeLine : ∀ row ∈ raggedRows, ∀ value ∈ row, CodePoint.char '\n' ∉ cellText value := by
    decide
  have hfault : fault? raggedRows = none := by decide +kernel
  obtain ⟨houtcome, -, hlayout⟩ := draw_isLayout fullConfig raggedRows honeLine
  rw [hfault] at houtcome
  exact ⟨honeLine, houtcome, hlayout⟩

/-- A cell that holds half of a surrogate pair has no width, so its table is not drawn. -/
example : (fullConfig.drawValues [[.text [.half 0]]]).outcome = .error .unencodable := by rfl

end Config
end Table
end HelpPages
