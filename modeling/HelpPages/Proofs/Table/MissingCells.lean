import HelpPages.Proofs.Table.Alignment
import Mathlib.Data.List.Forall2
import Mathlib.Data.List.GetD
import Mathlib.Data.List.MinMax
import Mathlib.Order.Nat

/-! # Missing cells

A row that is shorter than others is drawn as if it had empty cells for those that it misses.
Empty cells behind the cells of a row change no cell at any index, so they change nothing but
the number of columns, and the columns that only they have are without width
(`columnWidths_of_padded`).  Up to the length of the longest row there are no such columns, and
where columns without width are left out they are not drawn (`Config.columns_of_padded`).  So
tables that differ only in such cells are drawn the same (`Config.draw_filled`).
-/
namespace HelpPages
namespace Table

/-! ### Empty cells behind a row -/

/-- The second row is the first one with empty cells behind it. -/
def IsPadded (row padded : List Text) : Prop := ∃ n, padded = row ++ List.replicate n []

variable {row row' : List Text} {rows padded : List (List Text)}

/-- What is looked up behind the end of a list may as well stand there. -/
theorem getD_append_replicate {α : Type} (xs : List α) (n i : Nat) (d : α) :
    (xs ++ List.replicate n d).getD i d = xs.getD i d := by
  rcases Nat.lt_or_ge i xs.length with hi | hi
  · exact List.getD_append xs _ d i hi
  · rw [List.getD_append_right xs _ d i hi, List.getD_eq_default xs d hi,
      List.getD_eq_getElem?_getD, List.getElem?_getD_replicate_default_eq]

theorem IsPadded.cellAt_eq (h : IsPadded row row') (i : Nat) : cellAt row' i = cellAt row i := by
  obtain ⟨n, rfl⟩ := h
  exact getD_append_replicate row n i []

/-- What is the same of a row with and without empty cells behind it is the same of all rows. -/
theorem map_of_padded {α : Type} {f : List Text → α} (h : List.Forall₂ IsPadded rows padded)
    (hf : ∀ row row', IsPadded row row' → f row' = f row) : padded.map f = rows.map f := by
  induction h with
  | nil => rfl
  | cons hrow _ ih => rw [List.map_cons, List.map_cons, hf _ _ hrow, ih]

theorem longest_le_of_padded (h : List.Forall₂ IsPadded rows padded) :
    longest rows ≤ longest padded := by
  induction h with
  | nil => exact Nat.le_refl _
  | cons hrow _ ih =>
    obtain ⟨n, rfl⟩ := hrow
    simp only [longest, List.map_cons, List.foldr_cons, List.length_append] at ih ⊢
    omega

theorem longest_le {n : Nat} (h : ∀ row ∈ rows, row.length ≤ n) : longest rows ≤ n :=
  List.max_le_of_forall_le _ n (List.forall_mem_map.mpr h)

/-! ### Columns -/

/-- The columns that only empty cells have are without width, and all others are as wide as
they were. -/
theorem columnWidths_of_padded (h : List.Forall₂ IsPadded rows padded) :
    columnWidths padded =
      columnWidths rows ++ List.replicate (longest padded - longest rows) 0 := by
  have hlength : (columnWidths padded).length =
      (columnWidths rows ++ List.replicate (longest padded - longest rows) 0).length := by
    have hle := longest_le_of_padded h
    rw [List.length_append, List.length_replicate, length_columnWidths, length_columnWidths]
    omega
  refine List.ext_getElem hlength fun i hi hi' => ?_
  have hcells : padded.map (fun row => Text.width (cellAt row i)) =
      rows.map fun row => Text.width (cellAt row i) :=
    map_of_padded h fun row row' hrow => congrArg Text.width (hrow.cellAt_eq i)
  rw [← List.getD_eq_getElem _ 0 hi, ← List.getD_eq_getElem _ 0 hi', getD_append_replicate,
    getD_columnWidths, getD_columnWidths, hcells]

namespace Config

variable {config : Config}

/-- Columns without width are not drawn where they are left out. -/
theorem columns_append_zeros (hskip : config.skipEmpty = true) (widths : List Nat) (n : Nat) :
    config.columns (widths ++ List.replicate n 0) = config.columns widths := by
  rw [columns_eq_filter, columns_eq_filter, allColumns, List.zipIdx_append, List.map_append,
    List.filter_append, ← allColumns, List.append_right_eq_self, List.filter_eq_nil_iff]
  intro c hc
  obtain ⟨⟨width, index⟩, hmem, rfl⟩ := List.mem_map.mp hc
  have hzero : width = 0 := List.eq_of_mem_replicate (List.fst_mem_of_mem_zipIdx hmem)
  simp [hskip, hzero]

/-- The same columns are drawn if columns without width are left out, or if no row is longer
than the longest one was. -/
theorem columns_of_padded (h : List.Forall₂ IsPadded rows padded)
    (hfits : config.skipEmpty = true ∨ longest padded ≤ longest rows) :
    config.columns (columnWidths padded) = config.columns (columnWidths rows) := by
  rw [columnWidths_of_padded h]
  rcases hfits with hskip | hle
  · exact columns_append_zeros hskip _ _
  · rw [Nat.sub_eq_zero_of_le hle, List.replicate_zero, List.append_nil]

/-! ### Tables -/

/-- A line hangs on the cells that its row shows. -/
theorem rowText_congr (columns : List Column) (h : ∀ i, cellAt row' i = cellAt row i) :
    config.rowText columns row' = config.rowText columns row := by
  have hcells : columns.map (config.cell row') = columns.map (config.cell row) :=
    List.map_congr_left fun c _ => by rw [cell_eq, cell_eq, h]
  rw [rowText, hcells, ← rowText]

theorem render_of_padded (h : List.Forall₂ IsPadded rows padded)
    (hfits : config.skipEmpty = true ∨ longest padded ≤ longest rows) :
    config.render padded = config.render rows := by
  rw [render, render, lines_eq, lines_eq, columns_of_padded h hfits,
    map_of_padded h fun row row' hrow => rowText_congr _ hrow.cellAt_eq]

end Config

/-- The row with some values replaced by their texts, and with empty cells behind it. -/
def IsFilled (row filled : List Value) : Prop :=
  ∃ cells blanks, filled = cells ++ blanks ∧
    List.Forall₂ (fun value cell =>
      cell = value ∨ value.isWritable = true ∧ cell = .text (cellText value)) row cells ∧
    ∀ value ∈ blanks, value = .null ∨ value = .text []

/-- What is wrong with a text is wrong with the value that has it. -/
theorem cellFault?_text {value : Value} (h : value.isWritable = true) :
    cellFault? (.text (cellText value)) = cellFault? value := by
  rw [cellFault?, cellFault?, h]
  rfl

/-- A value that has a text may be replaced by it. -/
theorem of_replaced {row cells : List Value}
    (h : List.Forall₂ (fun value cell =>
      cell = value ∨ value.isWritable = true ∧ cell = .text (cellText value)) row cells) :
    cells.map cellText = row.map cellText ∧
      cells.findSome? cellFault? = row.findSome? cellFault? := by
  induction h with
  | nil => exact ⟨rfl, rfl⟩
  | cons hcell _ ih =>
    rw [List.map_cons, List.map_cons, List.findSome?_cons, List.findSome?_cons, ih.1, ih.2]
    rcases hcell with rfl | ⟨hwritable, rfl⟩
    · exact ⟨rfl, rfl⟩
    · exact ⟨rfl, by rw [cellFault?_text hwritable]⟩

theorem IsFilled.isPadded {row filled : List Value} (h : IsFilled row filled) :
    IsPadded (row.map cellText) (filled.map cellText) := by
  obtain ⟨cells, blanks, rfl, hcells, hblanks⟩ := h
  refine ⟨blanks.length, ?_⟩
  rw [List.map_append, (of_replaced hcells).1, List.append_cancel_left_eq,
    List.eq_replicate_iff]
  refine ⟨List.length_map _, List.forall_mem_map.mpr fun value hvalue => ?_⟩
  rcases hblanks value hvalue with rfl | rfl <;> rfl

/-- With empty cells nothing is wrong. -/
theorem IsFilled.findSome?_eq {row filled : List Value} (h : IsFilled row filled) :
    filled.findSome? cellFault? = row.findSome? cellFault? := by
  obtain ⟨cells, blanks, rfl, hcells, hblanks⟩ := h
  have hnone : blanks.findSome? cellFault? = none := by
    refine List.findSome?_eq_none_iff.mpr fun value hvalue => ?_
    rcases hblanks value hvalue with rfl | rfl <;> rfl
  rw [List.findSome?_append, hnone, Option.or_none, (of_replaced hcells).2]

theorem fault?_of_filled {rows filled : List (List Value)} (h : List.Forall₂ IsFilled rows filled) :
    fault? filled = fault? rows := by
  induction h with
  | nil => rfl
  | cons hrow _ ih =>
    rw [fault?] at ih ⊢
    rw [List.findSome?_cons, ih, hrow.findSome?_eq, fault?, fault?, List.findSome?_cons]

namespace Config

/-- **A missing cell is an empty cell.**  Rows of any lengths and any values are drawn the same
after some values have been replaced by their texts, and empty cells have been put behind the
cells of some rows: any number of them if empty columns are left out, and otherwise up to the
length of the longest row. -/
theorem draw_filled (config : Config) {rows filled : List (List Value)}
    (h : List.Forall₂ IsFilled rows filled)
    (hfits : config.skipEmpty = true ∨ ∀ row ∈ filled, row.length ≤ longest (texts rows)) :
    (config.drawValues rows).outcome =
        (fault? rows).elim (.ok (config.render (texts rows))) .error ∧
      (config.drawValues filled).outcome = (config.drawValues rows).outcome := by
  have hpadded : List.Forall₂ IsPadded (texts rows) (texts filled) := by
    rw [texts, texts, List.forall₂_map_left_iff, List.forall₂_map_right_iff]
    exact h.imp fun _ _ => IsFilled.isPadded
  have hlongest : config.skipEmpty = true ∨ longest (texts filled) ≤ longest (texts rows) := by
    refine hfits.imp_right fun hle => longest_le (List.forall_mem_map.mpr fun row hrow => ?_)
    rw [List.length_map]
    exact hle row hrow
  refine ⟨config.outcome_drawValues rows, ?_⟩
  rw [outcome_drawValues, outcome_drawValues, fault?_of_filled h,
    render_of_padded hpadded hlongest]

/-- The rows of `raggedRows` with all their cells, one of them behind the longest row. -/
def filledRows : List (List Value) :=
  [[.text "Name", .text "Größe", .text "Rest", .null], [.text "Bär", .text [], .text []],
    [.null, .text [], .null], [.text "True", .null]]

theorem draw_filled_raggedRows :
    List.Forall₂ IsFilled raggedRows filledRows ∧ fullConfig.skipEmpty = true ∧
      (fullConfig.drawValues raggedRows).outcome = .ok (fullConfig.render (texts raggedRows)) ∧
      (fullConfig.drawValues filledRows).outcome =
        (fullConfig.drawValues raggedRows).outcome := by
  have hfirst : IsFilled raggedRows[0] filledRows[0] :=
    ⟨raggedRows[0], [.null], rfl, List.forall₂_same.mpr fun _ _ => .inl rfl, by simp⟩
  have hsecond : IsFilled raggedRows[1] filledRows[1] :=
    ⟨[.text "Bär", .text []], [.text []], rfl, .cons (.inl rfl) (.cons (.inr ⟨rfl, rfl⟩) .nil),
      by simp⟩
  have hthird : IsFilled raggedRows[2] filledRows[2] :=
    ⟨[], filledRows[2], rfl, .nil, by simp [filledRows]⟩
  have hlast : IsFilled raggedRows[3] filledRows[3] :=
    ⟨[.text "True"], [.null], rfl, .cons (.inr ⟨rfl, rfl⟩) .nil, by simp⟩
  have hfilled : List.Forall₂ IsFilled raggedRows filledRows :=
    .cons hfirst (.cons hsecond (.cons hthird (.cons hlast .nil)))
  have hfault : fault? raggedRows = none := by decide +kernel
  obtain ⟨houtcome, hsame⟩ := draw_filled fullConfig hfilled (.inl rfl)
  rw [hfault] at houtcome
  exact ⟨hfilled, rfl, houtcome, hsame⟩

end Config
end Table
end HelpPages
