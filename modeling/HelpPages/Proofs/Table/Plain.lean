import HelpPages.Command.Table
import HelpPages.Proofs.Table.Alignment
import HelpPages.Proofs.Text.Lines
import HelpPages.Proofs.Text.Trim

/-! # Plain tables

Without anything drawn around them the rows of a table are lines of cells between tabs.  Such
a table can be read back as tab separated rows.  They are settled: all cells of a column are of
its width, and no column is left out.  A settled row is the line of its own cells, so a table
that is read back and drawn again is the same table (`render_tabRows`).  The blanks that fill a
cell up stand behind it, so cells without tabs and without blanks at their ends are decoded from
the text of their table (`draw_decodes`).
-/
namespace HelpPages

namespace Table

/-- A cell that is as wide as its column is not filled up. -/
theorem padRight_width (t : Text) : Text.padRight (Text.width t) t = t := by
  rw [Text.padRight, Nat.sub_self]
  exact List.append_nil t

namespace Config

/-- The configuration of a table without anything around its cells. -/
def plain (skipEmpty : Bool) : Config := { skipEmpty }

variable (skipEmpty : Bool)

/-- A row in some columns: its cells, filled up to the widths of the columns. -/
def paddedCells (columns : List Column) (row : List Text) : List Text :=
  columns.map fun c => Text.padRight c.width (cellAt row c.index)

theorem rowText_plain (columns : List Column) (row : List Text) :
    (plain skipEmpty).rowText columns row = Text.joinWith "\t" (paddedCells columns row) := by
  have hcells : columns.map ((plain skipEmpty).cell row) = paddedCells columns row :=
    List.map_congr_left fun c _ => (cell_eq _ row c).trans (List.append_nil _)
  rw [rowText, hcells]
  exact List.append_nil _

/-- The rows of a plain table in their lines. -/
def rowTexts (rows : List (List Text)) : List Text :=
  rows.map ((plain skipEmpty).rowText ((plain skipEmpty).columns (columnWidths rows)))

/-- A plain table has no rules. -/
theorem arrange_plain (rule : Text) (lines : List Text) :
    (plain skipEmpty).arrange rule lines = lines := by
  cases lines with
  | nil => rfl
  | cons line lines => exact List.append_nil _

theorem render_plain (rows : List (List Text)) :
    (plain skipEmpty).render rows =
      (rowTexts skipEmpty rows).flatMap (· ++ [CodePoint.char '\n']) := by
  rw [render, lines_eq, arrange_plain, ← List.flatMap_def]
  rfl

/-! ### Rows of one shape -/

variable {skipEmpty} {rows : List (List Text)} {row : List Text} {ws : List Nat}

theorem widen_nil (row : List Text) : widen [] row = row.map Text.width := by
  induction row with
  | nil => rfl
  | cons cell cells ih => rw [widen, ih]; rfl

theorem widen_same (row : List Text) : widen (row.map Text.width) row = row.map Text.width := by
  induction row with
  | nil => rfl
  | cons cell cells ih => rw [List.map_cons, widen, ih, Nat.max_self]

/-- Rows whose cells have the same widths in every row give these widths to the columns. -/
theorem columnWidths_of_uniform (hne : rows ≠ [])
    (h : ∀ row ∈ rows, row.map Text.width = ws) : columnWidths rows = ws := by
  have hrest : ∀ rest : List (List Text), (∀ row ∈ rest, row.map Text.width = ws) →
      rest.foldl widen ws = ws := by
    intro rest hws
    induction rest with
    | nil => rfl
    | cons row rest ih =>
      obtain ⟨hrow, hrest⟩ := List.forall_mem_cons.mp hws
      have hwiden : widen ws row = ws := by rw [← hrow, widen_same]
      rw [List.foldl_cons, hwiden, ih hrest]
  obtain ⟨first, rest, rfl⟩ := List.exists_cons_of_ne_nil hne
  obtain ⟨hfirst, hws⟩ := List.forall_mem_cons.mp h
  rw [columnWidths, List.foldl_cons, widen_nil, hfirst, hrest rest hws]

/-- A row whose cells have the widths of all columns is filled up to itself. -/
theorem paddedCells_of_widths (h : row.map Text.width = ws) :
    paddedCells (allColumns ws) row = row := by
  subst h
  refine List.ext_getElem (by simp [paddedCells, allColumns]) fun i hi hrow => ?_
  simp [paddedCells, allColumns, cellAt, List.getElem?_eq_getElem hrow, padRight_width]

/-- Columns of a width are all drawn. -/
theorem columns_of_pos (h : skipEmpty = true → ∀ w ∈ ws, 0 < w) :
    (plain skipEmpty).columns ws = allColumns ws := by
  refine List.filter_eq_self.mpr fun c hc => ?_
  have hmem : c.width ∈ ws := List.mem_of_getElem? (mem_allColumns.mp hc)
  cases hskip : skipEmpty with
  | false => rfl
  | true => exact decide_eq_true (h hskip c.width hmem)

/-- Rows are settled if their cells have the same widths in every row, and no column is left
out unless it is the only one. -/
structure AreSettled (skipEmpty : Bool) (rows : List (List Text)) (ws : List Nat) : Prop where
  uniform : ∀ row ∈ rows, row.map Text.width = ws
  kept : skipEmpty = true → (∀ w ∈ ws, 0 < w) ∨ ws = [0]

/-- The line of a settled row is that of its own cells. -/
theorem rowTexts_of_settled (h : AreSettled skipEmpty rows ws) :
    rowTexts skipEmpty rows = rows.map (Text.joinWith "\t") := by
  refine List.map_congr_left fun row hrow => ?_
  have hws : row.map Text.width = ws := h.uniform row hrow
  rw [columnWidths_of_uniform (List.ne_nil_of_mem hrow) h.uniform, rowText_plain]
  by_cases hpos : skipEmpty = true → ∀ w ∈ ws, 0 < w
  · rw [columns_of_pos hpos, paddedCells_of_widths hws]
  · -- the only column is left out, and its cells are empty
    obtain ⟨hskip, hnot⟩ := Classical.not_imp.mp hpos
    obtain rfl : ws = [0] := (h.kept hskip).resolve_left hnot
    obtain ⟨cell, rfl, hcell⟩ := List.map_eq_singleton_iff.mp hws
    rw [Text.eq_nil_of_width hcell, hskip]
    rfl

/-! ### Tables that are read back -/

/-- The rows of tab separated cells in a text. -/
def tabRows (text : Text) : List (List Text) := (Text.inputLines text).map (Text.splitOn '\t')

theorem of_mem_tabRows {text cell : Text} (hrow : row ∈ tabRows text) (hcell : cell ∈ row) :
    cell ⊆ text ∧ CodePoint.char '\t' ∉ cell ∧ ∀ c ∈ cell, Text.isInputBreak c = false := by
  obtain ⟨line, hline, rfl⟩ := List.mem_map.mp hrow
  rw [Text.inputLines_eq] at hline
  obtain ⟨hsubset, hfree⟩ := Text.of_mem_linesAt hline
  have hpiece := Text.subset_of_mem_splitOn hcell
  exact ⟨fun c hc => hsubset (hpiece hc), Text.notMem_of_mem_splitOn hcell,
    fun c hc => hfree c (hpiece hc)⟩

/-- The rows that are read back from the lines of a table. -/
def rereadRows (skipEmpty : Bool) (rows : List (List Text)) : List (List Text) :=
  (rowTexts skipEmpty rows).map (Text.splitOn '\t')

/-- A row without tabs comes back from its line if there are columns. -/
theorem splitOn_rowText {columns : List Column} (hcolumns : columns ≠ [])
    (free : ∀ cell ∈ row, CodePoint.char '\t' ∉ cell) :
    Text.splitOn '\t' ((plain skipEmpty).rowText columns row) = paddedCells columns row := by
  rw [rowText_plain]
  refine Text.splitOn_joinWith (mt List.map_eq_nil_iff.mp hcolumns) fun t ht hmem => ?_
  obtain ⟨c, -, rfl⟩ := List.mem_map.mp ht
  rcases List.mem_append.mp hmem with hmem | hmem
  · obtain ⟨cell, hcell, htab⟩ := mem_cellAt hmem
    exact free cell hcell htab
  · exact absurd (List.eq_of_mem_replicate hmem) (by decide)

/-- Rows without tabs in their cells are settled once they have been drawn. -/
theorem settled_rereadRows (free : ∀ row ∈ rows, ∀ cell ∈ row, CodePoint.char '\t' ∉ cell) :
    ∃ ws, AreSettled skipEmpty (rereadRows skipEmpty rows) ws := by
  by_cases hcolumns : (plain skipEmpty).columns (columnWidths rows) = []
  · -- without columns every line is empty, and read back it is one empty cell
    refine ⟨[0], fun drawn hdrawn => ?_, fun _ => .inr rfl⟩
    obtain ⟨line, hline, rfl⟩ := List.mem_map.mp hdrawn
    obtain ⟨row, -, rfl⟩ := List.mem_map.mp hline
    rw [rowText_plain, hcolumns]
    rfl
  · refine ⟨((plain skipEmpty).columns (columnWidths rows)).map Column.width,
      fun drawn hdrawn => ?_, fun hskip => .inl fun w hw => ?_⟩
    · obtain ⟨line, hline, rfl⟩ := List.mem_map.mp hdrawn
      obtain ⟨row, hrow, rfl⟩ := List.mem_map.mp hline
      rw [splitOn_rowText hcolumns (free row hrow), paddedCells, List.map_map]
      refine List.map_congr_left fun c hc => ?_
      exact (Text.width_padRight _ _).trans (Nat.max_eq_right (fits_columns hrow c hc))
    · obtain ⟨c, hc, rfl⟩ := List.mem_map.mp hw
      obtain ⟨-, hpos⟩ := List.mem_filter.mp hc
      simpa [plain, hskip] using hpos

/-- Rows are read back from the lines of their table. -/
theorem tabRows_render
    (free : ∀ row ∈ rows, ∀ cell ∈ row, ∀ c ∈ cell, Text.isInputBreak c = false) :
    tabRows ((plain skipEmpty).render rows) = rereadRows skipEmpty rows := by
  have hline : ∀ line ∈ rowTexts skipEmpty rows,
      Text.linesAt Text.isInputBreak (line ++ [CodePoint.char '\n']) = [line] := by
    intro line hline
    obtain ⟨row, hrow, rfl⟩ := List.mem_map.mp hline
    refine (Text.linesAt_ended_iff rfl rfl).mpr fun d hd => ?_
    rcases mem_rowText hd with hdrawing | ⟨cell, hcell, hd⟩
    · have hall : ∀ d ∈ drawing, Text.isInputBreak d = false := by decide
      exact hall d hdrawing
    · exact free row hrow cell hcell d hd
  have hlines : Text.inputLines ((plain skipEmpty).render rows) = rowTexts skipEmpty rows := by
    rw [Text.inputLines_eq, render_plain, Text.linesAt_flatMap_ended rfl,
      List.flatMap_congr hline]
    exact List.flatMap_singleton' _
  rw [tabRows, hlines, rereadRows]

/-- **A plain table is a fixed point.**  The tab separated rows of a text are drawn; the text
of their table, read back and drawn again, is the same table. -/
theorem render_tabRows (skipEmpty : Bool) (text : Text) :
    (plain skipEmpty).render (tabRows ((plain skipEmpty).render (tabRows text))) =
      (plain skipEmpty).render (tabRows text) := by
  have hcells : ∀ row ∈ tabRows text, ∀ cell ∈ row,
      CodePoint.char '\t' ∉ cell ∧ ∀ c ∈ cell, Text.isInputBreak c = false :=
    fun row hrow cell hcell => (of_mem_tabRows hrow hcell).2
  obtain ⟨ws, hsettled⟩ : ∃ ws, AreSettled skipEmpty (rereadRows skipEmpty (tabRows text)) ws :=
    settled_rereadRows fun row hrow cell hcell => (hcells row hrow cell hcell).1
  have hjoin : (rereadRows skipEmpty (tabRows text)).map (Text.joinWith "\t") =
      rowTexts skipEmpty (tabRows text) := by
    rw [rereadRows, List.map_map]
    exact List.map_id'' (Text.joinWith_splitOn '\t') _
  rw [tabRows_render fun row hrow cell hcell => (hcells row hrow cell hcell).2, render_plain,
    rowTexts_of_settled hsettled, hjoin, ← render_plain]

/-! ### Tables that are decoded -/

/-- A row with empty cells behind its own, up to `n` cells. -/
def completed (n : Nat) (row : List Text) : List Text :=
  row ++ List.replicate (n - row.length) []

/-- The cells that a line shows, without the blanks behind them. -/
def lineCells (line : Text) : List Text :=
  (Text.splitOn '\t' line).map (Text.dropEndWhile (·.is ' '))

/-- A text that can stand in a cell between tabs, with blanks filled up behind it: it has no
tab, no line feed and no blank at its end. -/
def IsPlain (cell : Text) : Prop :=
  CodePoint.char '\t' ∉ cell ∧ CodePoint.char '\n' ∉ cell ∧ cell.getLast? ≠ some (.char ' ')

instance : DecidablePred IsPlain := fun _ => inferInstanceAs (Decidable (_ ∧ _ ∧ _))

/-- A row with its missing cells. -/
theorem map_cellAt_range {n : Nat} (h : row.length ≤ n) :
    (List.range n).map (cellAt row) = completed n row := by
  rw [completed]
  refine List.ext_getElem? fun i => ?_
  rw [List.getElem?_map, List.getElem?_append]
  -- an index is one of the row, of a missing cell, or behind the last column
  by_cases hi : i < n
  · rw [List.getElem?_range hi, Option.map_some, cellAt, List.getD_eq_getElem?_getD]
    by_cases hrow : i < row.length
    · rw [if_pos hrow, List.getElem?_eq_getElem hrow, Option.getD_some]
    · rw [if_neg hrow, List.getElem?_eq_none (by omega), Option.getD_none,
        List.getElem?_replicate_of_lt (by omega)]
  · rw [if_neg (by omega), List.getElem?_eq_none (by simpa using hi),
      List.getElem?_eq_none (by rw [List.length_replicate]; omega)]
    rfl

/-- The blanks that fill a cell up are no part of a text that does not end in a blank. -/
theorem dropEndWhile_padRight (w : Nat) {t : Text} (h : t.getLast? ≠ some (.char ' ')) :
    Text.dropEndWhile (·.is ' ') (Text.padRight w t) = t := by
  rw [Text.padRight, Text.dropEndWhile_append_of_all, Text.dropEndWhile_eq_self_iff]
  · intro c hc
    refine Bool.eq_false_iff.mpr fun hblank => h ?_
    rw [← CodePoint.is_iff.mp hblank]
    exact hc
  · intro c hc
    rw [List.eq_of_mem_replicate hc]
    rfl

/-- The line of a row shows its cells, and an empty cell for each one that is missing. -/
theorem lineCells_rowText (hws : ws ≠ []) (hlength : row.length ≤ ws.length)
    (hcells : ∀ cell ∈ row, IsPlain cell) :
    lineCells ((plain false).rowText ((plain false).columns ws) row) =
      completed ws.length row := by
  -- no column is left out, so the cells come in the order of their indexes
  have hindexes : ((plain false).columns ws).map Column.index = List.range ws.length := by
    rw [columns_of_pos (fun hskip => absurd hskip Bool.false_ne_true), index_allColumns]
  have hne : (plain false).columns ws ≠ [] := by
    intro hnil
    rw [hnil, List.map_nil, eq_comm, List.range_eq_nil, List.length_eq_zero_iff] at hindexes
    exact hws hindexes
  have hcell : ∀ i, (cellAt row i).getLast? ≠ some (.char ' ') := by
    intro i
    rw [cellAt, List.getD_eq_getElem?_getD]
    cases hget : row[i]? with
    | none => exact (Option.some_ne_none _).symm
    | some cell => exact (hcells cell (List.mem_of_getElem? hget)).2.2
  calc lineCells ((plain false).rowText ((plain false).columns ws) row)
      = (paddedCells ((plain false).columns ws) row).map (Text.dropEndWhile (·.is ' ')) := by
        rw [lineCells, splitOn_rowText hne fun cell hcell => (hcells cell hcell).1]
    _ = ((plain false).columns ws).map fun c => cellAt row c.index := by
        rw [paddedCells, List.map_map]
        exact List.map_congr_left fun c _ => dropEndWhile_padRight c.width (hcell c.index)
    _ = (List.range ws.length).map (cellAt row) := by
        rw [← hindexes, List.map_map]
        rfl
    _ = completed ws.length row := map_cellAt_range hlength

/-- A plain table is cut at the line feeds into the lines of its rows. -/
theorem splitOn_render_plain (free : ∀ row ∈ rows, ∀ cell ∈ row, CodePoint.char '\n' ∉ cell) :
    Text.splitOn '\n' ((plain skipEmpty).render rows) = rowTexts skipEmpty rows ++ [[]] := by
  rw [← arrange_plain skipEmpty ((plain skipEmpty).ruleText _) (rowTexts skipEmpty rows)]
  exact (render_isLayout (plain skipEmpty) free).text

/-- The lines of a text show the cells of some rows, completed to the length of the longest. -/
def IsDecoded (text : Text) (rows : List (List Text)) : Prop :=
  ∃ lines, Text.splitOn '\n' text = lines ++ [[]] ∧
    lines.map lineCells = rows.map (completed (longest rows))

/-- The table of plain cells in some columns decodes. -/
theorem isDecoded_render (hsome : ∃ row ∈ rows, row ≠ [])
    (hcells : ∀ row ∈ rows, ∀ cell ∈ row, IsPlain cell) :
    IsDecoded ((plain false).render rows) rows := by
  have hws : columnWidths rows ≠ [] := by
    intro hnil
    obtain ⟨row, hrow, hne⟩ := hsome
    have hle : row.length ≤ 0 := by
      rw [← List.length_nil, ← hnil]
      exact length_le_columnWidths hrow
    exact hne (List.length_eq_zero_iff.mp (Nat.le_zero.mp hle))
  refine ⟨rowTexts false rows,
    splitOn_render_plain fun row hrow cell hcell => (hcells row hrow cell hcell).2.1, ?_⟩
  rw [rowTexts, List.map_map, ← length_columnWidths]
  exact List.map_congr_left fun row hrow =>
    lineCells_rowText hws (length_le_columnWidths hrow) (hcells row hrow)

/-- **A plain table decodes.**  Rows with a cell among them, whose cells are values with plain
texts, are drawn unless a cell has no text or no width.  The text is cut at the line feeds into
lines, each of them at the tabs into cells, and without the blanks behind them these are the cells
of the rows, with an empty cell for each one that a row has less than the longest row. -/
theorem draw_decodes (rows : List (List Value)) (hsome : ∃ row ∈ rows, row ≠ [])
    (hcells : ∀ row ∈ rows, ∀ value ∈ row, IsPlain (cellText value)) :
    (drawValues {} rows).outcome = (fault? rows).elim (.ok (render {} (texts rows))) .error ∧
      (fault? rows = none ↔ ∀ row ∈ rows, ∀ value ∈ row,
        value.isWritable = true ∧ (cellText value).isEncodable = true) ∧
      IsDecoded (render {} (texts rows)) (texts rows) := by
  obtain ⟨row, hrow, hne⟩ := hsome
  have hsome : ∃ row ∈ texts rows, row ≠ [] :=
    ⟨_, List.mem_map_of_mem hrow, mt List.map_eq_nil_iff.mp hne⟩
  exact ⟨outcome_drawValues {} rows, fault?_eq_none_iff,
    isDecoded_render hsome (forall_texts.mpr hcells)⟩

theorem draw_decodes_raggedRows :
    (∃ row ∈ raggedRows, row ≠ []) ∧
      (∀ row ∈ raggedRows, ∀ value ∈ row, IsPlain (cellText value)) ∧
      (drawValues {} raggedRows).outcome = .ok (render {} (texts raggedRows)) ∧
      IsDecoded (render {} (texts raggedRows)) (texts raggedRows) := by
  have hsome : ∃ row ∈ raggedRows, row ≠ [] := ⟨_, List.mem_cons_self .., List.cons_ne_nil _ _⟩
  have hcells : ∀ row ∈ raggedRows, ∀ value ∈ row, IsPlain (cellText value) := by decide
  have hfault : fault? raggedRows = none := by decide +kernel
  obtain ⟨houtcome, -, hdecoded⟩ := draw_decodes raggedRows hsome hcells
  rw [hfault] at houtcome
  exact ⟨hsome, hcells, houtcome, hdecoded⟩

end Config
end Table
end HelpPages
