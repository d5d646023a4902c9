import Mathlib.Data.List.Basic
import HelpPages.Table.Layout

/-! # The widths of columns

There are as many columns as the longest row has cells (`length_columnWidths`).  A column is
as wide as its widest cell, where a missing cell counts as an empty one
(`getD_columnWidths`), so every cell fits its column (`width_le_columnWidths`).  The columns
that are drawn are chosen from those of all widths (`Config.columns_eq_filter`), which keep
their indexes.
-/
namespace HelpPages

/-- Only the empty text has no width. -/
theorem Text.eq_nil_of_width {t : Text} (h : width t = 0) : t = [] := by
  cases t with
  | nil => rfl
  | cons c t =>
    have hsize : 0 < c.utf8Size := by
      cases c with
      | char x => exact Char.utf8Size_pos x
      | half _ => exact Nat.zero_lt_succ 2
    rw [width_cons] at h
    omega

namespace Table

/-- The texts of the cells of some rows. -/
def texts (rows : List (List Value)) : List (List Text) := rows.map fun row => row.map cellText

theorem forall_texts {p : Text → Prop} {rows : List (List Value)} :
    (∀ row ∈ texts rows, ∀ cell ∈ row, p cell) ↔
      ∀ row ∈ rows, ∀ value ∈ row, p (cellText value) := by
  simp only [texts, List.forall_mem_map]

/-- The text of a row in a column; a missing cell is empty. -/
def cellAt (row : List Text) (i : Nat) : Text := row.getD i []

/-- A column has a width. -/
def hasWidth (widths : List Nat) (i : Nat) : Bool := 0 < widths.getD i 0

/-- The number of cells in the longest row. -/
def longest (rows : List (List Text)) : Nat := (rows.map List.length).foldr max 0

theorem length_widen (widths : List Nat) (row : List Text) :
    (widen widths row).length = max widths.length row.length := by
  fun_induction widen widths row with
  | case1 widths => simp
  | case2 cell cells ih => simp_all
  | case3 w widths cell cells ih =>
    rw [List.length_cons, List.length_cons, List.length_cons, ih]
    omega

/-- Every index of the longest row has a column. -/
theorem length_columnWidths (rows : List (List Text)) :
    (columnWidths rows).length = longest rows := by
  have hrows : ∀ (rows : List (List Text)) (widths : List Nat),
      (rows.foldl widen widths).length = max widths.length (longest rows) := by
    intro rows
    induction rows with
    | nil => intro widths; simp [longest]
    | cons row rows ih =>
      intro widths
      rw [List.foldl_cons, ih, length_widen, longest, longest, List.map_cons, List.foldr_cons,
        Nat.max_assoc]
  rw [columnWidths, hrows, List.length_nil, Nat.zero_max]

theorem getD_widen (widths : List Nat) (row : List Text) (i : Nat) :
    (widen widths row).getD i 0 = max (widths.getD i 0) (Text.width (cellAt row i)) := by
  fun_induction widen widths row generalizing i with
  | case1 widths => simp [cellAt]
  | case2 cell cells ih =>
    cases i with
    | zero => simp [cellAt]
    | succ i => simpa [cellAt] using ih i
  | case3 w widths cell cells ih =>
    cases i with
    | zero => simp [cellAt]
    | succ i => simpa [cellAt] using ih i

theorem getD_foldl_widen (rows : List (List Text)) (widths : List Nat) (i : Nat) :
    (rows.foldl widen widths).getD i 0 =
      max (widths.getD i 0) ((rows.map fun row => Text.width (cellAt row i)).foldr max 0) := by
  induction rows generalizing widths with
  | nil => simp
  | cons row rows ih =>
    rw [List.foldl_cons, ih, getD_widen, List.map_cons, List.foldr_cons, Nat.max_assoc]

/-- A column is as wide as its widest cell. -/
theorem getD_columnWidths (rows : List (List Text)) (i : Nat) :
    (columnWidths rows).getD i 0 =
      (rows.map fun row => Text.width (cellAt row i)).foldr max 0 := by
  rw [columnWidths, getD_foldl_widen]
  simp

theorem le_foldr_max {n : Nat} {ns : List Nat} (h : n ∈ ns) : n ≤ ns.foldr max 0 := by
  induction ns with
  | nil => cases h
  | cons m ns ih =>
    rcases List.mem_cons.mp h with rfl | h
    · exact Nat.le_max_left _ _
    · exact Nat.le_trans (ih h) (Nat.le_max_right _ _)

/-- Every cell of a row has a column. -/
theorem length_le_columnWidths {rows : List (List Text)} {row : List Text} (h : row ∈ rows) :
    row.length ≤ (columnWidths rows).length := by
  rw [length_columnWidths]
  exact le_foldr_max (List.mem_map_of_mem h)

/-- Every cell fits its column. -/
theorem width_le_columnWidths {rows : List (List Text)} {row : List Text} (h : row ∈ rows)
    (i : Nat) : Text.width (cellAt row i) ≤ (columnWidths rows).getD i 0 := by
  rw [getD_columnWidths]
  exact le_foldr_max (List.mem_map.mpr ⟨row, h, rfl⟩)

/-- A column has no width if no row has a text in it. -/
theorem getD_columnWidths_eq_zero_iff {rows : List (List Text)} {i : Nat} :
    (columnWidths rows).getD i 0 = 0 ↔ ∀ row ∈ rows, cellAt row i = [] := by
  constructor
  · intro h row hrow
    have hle := width_le_columnWidths hrow i
    exact Text.eq_nil_of_width (by omega)
  · intro h
    rw [getD_columnWidths]
    induction rows with
    | nil => rfl
    | cons row rows ih =>
      obtain ⟨hrow, hrows⟩ := List.forall_mem_cons.mp h
      rw [List.map_cons, List.foldr_cons, ih hrows, hrow, Text.width_nil, Nat.max_self]

/-- The columns of some widths, whether they are drawn or not. -/
def allColumns (widths : List Nat) : List Column :=
  widths.zipIdx.map fun (width, index) => Column.mk index width

/-- The columns behind the first one have the indexes of the other widths, moved by one. -/
theorem allColumns_cons (w : Nat) (widths : List Nat) :
    allColumns (w :: widths) =
      Column.mk 0 w :: (allColumns widths).map fun c => { c with index := c.index + 1 } := by
  rw [allColumns, List.zipIdx_cons, List.map_cons, List.zipIdx_succ, List.map_map, allColumns,
    List.map_map]
  rfl

theorem index_allColumns (widths : List Nat) :
    (allColumns widths).map Column.index = List.range widths.length := by
  rw [allColumns, List.map_map, List.range_eq_range', ← List.zipIdx_map_snd]
  rfl

theorem mem_allColumns {widths : List Nat} {c : Column} :
    c ∈ allColumns widths ↔ widths[c.index]? = some c.width := by
  constructor
  · intro h
    obtain ⟨⟨width, index⟩, hmem, rfl⟩ := List.mem_map.mp h
    exact List.mem_zipIdx_iff_getElem?.mp hmem
  · intro h
    exact List.mem_map.mpr ⟨(c.width, c.index), List.mem_zipIdx_iff_getElem?.mpr h, rfl⟩

theorem Config.columns_eq_filter (config : Config) (widths : List Nat) :
    config.columns widths =
      (allColumns widths).filter fun c => !config.skipEmpty || 0 < c.width := rfl

/-- A column that is drawn has the width at its index. -/
theorem Config.width_of_mem_columns {config : Config} {widths : List Nat} {c : Column}
    (h : c ∈ config.columns widths) : c.width = widths.getD c.index 0 := by
  obtain ⟨hc, -⟩ := List.mem_filter.mp h
  rw [List.getD_eq_getElem?_getD, mem_allColumns.mp hc]
  rfl

/-- Every row fits the columns that are drawn. -/
theorem Config.fits_columns {config : Config} {rows : List (List Text)} {row : List Text}
    (h : row ∈ rows) : ∀ c ∈ config.columns (columnWidths rows),
      Text.width (cellAt row c.index) ≤ c.width := by
  intro c hc
  rw [width_of_mem_columns hc]
  exact width_le_columnWidths h c.index

end Table
end HelpPages
