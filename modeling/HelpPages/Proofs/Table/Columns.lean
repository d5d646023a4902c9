import HelpPages.Proofs.Table.Alignment

/-! # Columns that are left out

Leaving columns without text out keeps the indexes and the widths of the others, while rows
from which these columns are deleted are laid out from the start: their cells have other
indexes, and other cells are missing.  Both draw the same cells at the same widths
(`Config.slots_keepAt`), so they draw the same table (`Config.draw_skipEmpty`).
-/
namespace HelpPages

namespace Table

variable {α β : Type}

/-! ### Items at some places -/

/-- The items of a list at the places that are kept. -/
def keepAt (keep : Nat → Bool) : List α → List α
  | [] => []
  | x :: xs =>
    let rest := keepAt (fun i => keep (i + 1)) xs
    if keep 0 then x :: rest else rest

theorem map_keepAt (f : α → β) (keep : Nat → Bool) (xs : List α) :
    (keepAt keep xs).map f = keepAt keep (xs.map f) := by
  induction xs generalizing keep with
  | nil => rfl
  | cons x xs ih =>
    simp only [keepAt, List.map_cons, ← ih]
    split <;> rfl

/-! ### Widths -/

theorem hasWidth_zero (w : Nat) (widths : List Nat) : hasWidth (w :: widths) 0 = decide (0 < w) :=
  rfl

theorem hasWidth_succ (w : Nat) (widths : List Nat) (i : Nat) :
    hasWidth (w :: widths) (i + 1) = hasWidth widths i := rfl

theorem widen_keepAt (keep : Nat → Bool) (widths : List Nat) (row : List Text) :
    widen (keepAt keep widths) (keepAt keep row) = keepAt keep (widen widths row) := by
  fun_induction widen widths row generalizing keep with
  | case1 widths => rw [keepAt, widen]
  | case2 cell cells ih =>
    have hrest := ih fun i => keep (i + 1)
    cases hkeep : keep 0 <;> simp_all [keepAt, widen]
  | case3 w widths cell cells ih =>
    have hrest := ih fun i => keep (i + 1)
    cases hkeep : keep 0 <;> simp_all [keepAt, widen]

/-- The columns that are kept have the widths that they had. -/
theorem columnWidths_keepAt (keep : Nat → Bool) (rows : List (List Text)) :
    columnWidths (rows.map (keepAt keep)) = keepAt keep (columnWidths rows) := by
  have hrows : ∀ (rows : List (List Text)) (widths : List Nat),
      (rows.map (keepAt keep)).foldl widen (keepAt keep widths) =
        keepAt keep (rows.foldl widen widths) := by
    intro rows
    induction rows with
    | nil => intro widths; rfl
    | cons row rows ih =>
      intro widths
      rw [List.map_cons, List.foldl_cons, List.foldl_cons, widen_keepAt, ih]
  exact hrows rows []

/-- The cell of every present row at an index is without text. -/
def isTextless (rows : List (List Value)) (i : Nat) : Bool :=
  rows.all fun row => row[i]?.all fun value => cellText value = []

/-- The rows without the columns in which no cell has a text. -/
def withoutTextless (rows : List (List Value)) : List (List Value) :=
  rows.map (keepAt fun i => !isTextless rows i)

/-- The columns that have a text are those that have a width. -/
theorem not_isTextless (rows : List (List Value)) (i : Nat) :
    (!isTextless rows i) = hasWidth (columnWidths (texts rows)) i := by
  have hcell : ∀ row : List Value, (row[i]?.all fun value => cellText value = []) = true ↔
      cellAt (row.map cellText) i = [] := by
    intro row
    cases hvalue : row[i]? <;> simp [cellAt, hvalue]
  have htextless : isTextless rows i = true ↔ (columnWidths (texts rows)).getD i 0 = 0 := by
    simp only [getD_columnWidths_eq_zero_iff, isTextless, texts, List.all_eq_true, hcell,
      List.forall_mem_map]
  rw [Bool.eq_iff_iff, Bool.not_eq_true', ← Bool.not_eq_true, htextless, hasWidth,
    decide_eq_true_iff]
  omega

/-- The texts of the rows without the columns that have none. -/
theorem texts_withoutTextless (rows : List (List Value)) :
    texts (withoutTextless rows) =
      (texts rows).map (keepAt (hasWidth (columnWidths (texts rows)))) := by
  have hkeep : (fun i => !isTextless rows i) = hasWidth (columnWidths (texts rows)) :=
    funext (not_isTextless rows)
  rw [texts, withoutTextless, hkeep, List.map_map]
  conv => rhs; rw [texts, List.map_map]
  exact List.map_congr_left fun row _ => map_keepAt ..

/-- A value without text is an empty cell, with which nothing is wrong. -/
theorem cellFault?_of_textless {v : Value} (h : cellText v = []) : cellFault? v = none := by
  have hwritable : v.isWritable = true := by
    cases v with
    | int i =>
      have hdigits : Integer.toText i = [] := h
      cases i with
      | ofNat n => exact absurd (List.map_eq_nil_iff.mp hdigits) Nat.toDigits_ne_nil
      | negSucc n => cases hdigits
    | list items => cases h
    | map entries => cases h
    | _ => rfl
  rw [cellFault?_eq_none_iff, h]
  exact ⟨hwritable, rfl⟩

theorem findSome?_congr {f g : α → Option β} {xs : List α} (h : ∀ x ∈ xs, f x = g x) :
    xs.findSome? f = xs.findSome? g := by
  induction xs with
  | nil => rfl
  | cons x xs ih =>
    obtain ⟨hx, hxs⟩ := List.forall_mem_cons.mp h
    rw [List.findSome?_cons, List.findSome?_cons, hx, ih hxs]

/-- What is wrong with the first item with which anything is stays the same without items with
which nothing is wrong. -/
theorem findSome?_keepAt {fault : α → Option β} {keep : Nat → Bool} {xs : List α}
    (h : ∀ i x, xs[i]? = some x → keep i = false → fault x = none) :
    (keepAt keep xs).findSome? fault = xs.findSome? fault := by
  induction xs generalizing keep with
  | nil => rfl
  | cons x xs ih =>
    have hrest := @ih (fun i => keep (i + 1)) fun i => h (i + 1)
    cases hkeep : keep 0 with
    | false => simp [keepAt, hkeep, hrest, h 0 x rfl hkeep]
    | true => simp [keepAt, hkeep, hrest, List.findSome?_cons]

/-- Deleting columns without text takes away nothing that is wrong. -/
theorem fault?_withoutTextless (rows : List (List Value)) :
    fault? (withoutTextless rows) = fault? rows := by
  have hrow : ∀ row ∈ rows, (keepAt (fun i => !isTextless rows i) row).findSome? cellFault? =
      row.findSome? cellFault? := by
    intro row hrow
    refine findSome?_keepAt fun i value hvalue htextless => cellFault?_of_textless ?_
    rw [Bool.not_eq_false'] at htextless
    have hcell := List.all_eq_true.mp htextless row hrow
    rw [hvalue] at hcell
    exact of_decide_eq_true hcell
  rw [fault?, fault?, withoutTextless, List.findSome?_map]
  exact findSome?_congr hrow

namespace Config

/-! ### Columns in order -/

/-- What a row shows in the columns that are drawn: their widths with its cells. -/
def slots (config : Config) (widths : List Nat) (row : List Text) : List (Nat × Text) :=
  (config.columns widths).map fun c => (c.width, cellAt row c.index)

theorem columns_cons (config : Config) (w : Nat) (widths : List Nat) :
    config.columns (w :: widths) =
      (if !config.skipEmpty || 0 < w then [Column.mk 0 w] else []) ++
        (config.columns widths).map fun c => { c with index := c.index + 1 } := by
  rw [columns_eq_filter, allColumns_cons, List.filter_cons, List.filter_map]
  by_cases hdrawn : (!config.skipEmpty || decide (0 < w)) = true
  · rw [if_pos hdrawn, if_pos hdrawn]
    rfl
  · rw [if_neg hdrawn, if_neg hdrawn]
    rfl

/-- The first column, and those behind it. -/
theorem slots_cons (config : Config) (w : Nat) (widths : List Nat) (row : List Text) :
    config.slots (w :: widths) row =
      (if !config.skipEmpty || 0 < w then [(w, cellAt row 0)] else []) ++
        config.slots widths row.tail := by
  have hcell : ∀ i, cellAt row (i + 1) = cellAt row.tail i := by
    intro i
    cases row <;> simp [cellAt]
  rw [slots, columns_cons, List.map_append, List.map_map]
  congr 1
  · split <;> rfl
  · exact List.map_congr_left fun c _ => congrArg (c.width, ·) (hcell c.index)

/-- Columns that are left out might as well not be there. -/
theorem slots_keepAt (config : Config) (widths : List Nat) (row : List Text) :
    { config with skipEmpty := true }.slots widths row =
      { config with skipEmpty := false }.slots (keepAt (hasWidth widths) widths)
        (keepAt (hasWidth widths) row) := by
  induction widths generalizing row with
  | nil => rfl
  | cons w widths ih =>
    -- the first column is drawn or left out, and the row has a cell in it or not
    by_cases hw : 0 < w <;> cases row <;>
      simp [slots_cons, keepAt, hasWidth_zero, hasWidth_succ, hw, ih, cellAt]

/-! ### Lines -/

theorem rowText_eq_slots (config : Config) (widths : List Nat) (row : List Text) :
    config.rowText (config.columns widths) row =
      config.opening ++ Text.joinWith config.separator ((config.slots widths row).map fun slot =>
        config.side ++ Text.padRight slot.1 slot.2 ++ config.side) ++ config.closing := by
  rw [rowText, slots, List.map_map]
  congr 3
  exact List.map_congr_left fun c _ => cell_eq config row c

/-- A rule hangs on the widths of the columns only. -/
theorem ruleText_congr {config : Config} {columns columns' : List Column}
    (h : columns.map Column.width = columns'.map Column.width) :
    config.ruleText columns = config.ruleText columns' := by
  have hwidths : columns.map (fun c => (c.width : Int)) =
      columns'.map fun c => (c.width : Int) := by
    have hcast := congrArg (List.map fun width : Nat => (width : Int)) h
    rwa [List.map_map, List.map_map] at hcast
  rw [ruleText, hwidths, ruleText]

/-- Leaving columns without width out draws the rows from which they are deleted. -/
theorem render_skipEmpty (config : Config) (rows : List (List Text)) :
    { config with skipEmpty := true }.render rows = { config with skipEmpty := false }.render
      (rows.map (keepAt (hasWidth (columnWidths rows)))) := by
  have hslots := slots_keepAt config (columnWidths rows)
  have hlines : rows.map ({ config with skipEmpty := true }.rowText
        ({ config with skipEmpty := true }.columns (columnWidths rows))) =
      (rows.map (keepAt (hasWidth (columnWidths rows)))).map
        ({ config with skipEmpty := false }.rowText ({ config with skipEmpty := false }.columns
          (keepAt (hasWidth (columnWidths rows)) (columnWidths rows)))) := by
    rw [List.map_map]
    refine List.map_congr_left fun row _ => ?_
    rw [Function.comp_apply, rowText_eq_slots, rowText_eq_slots, hslots]
    rfl
  have hrule : { config with skipEmpty := true }.ruleText
        ({ config with skipEmpty := true }.columns (columnWidths rows)) =
      { config with skipEmpty := false }.ruleText ({ config with skipEmpty := false }.columns
        (keepAt (hasWidth (columnWidths rows)) (columnWidths rows))) := by
    have hwidths := congrArg (List.map Prod.fst) (hslots [])
    rw [slots, slots, List.map_map, List.map_map] at hwidths
    exact ruleText_congr hwidths
  have harrange : ∀ rule lines, { config with skipEmpty := true }.arrange rule lines =
      { config with skipEmpty := false }.arrange rule lines := fun _ _ => rfl
  rw [render, render, lines_eq, lines_eq, columnWidths_keepAt, harrange, hrule, hlines]

/-- **Leaving columns out is deleting them.**  Rows of any lengths and any values are drawn
without their empty columns as the rows are drawn from which every column is deleted at which
no present cell has a text; and the ones fail as the others do. -/
theorem draw_skipEmpty (config : Config) (rows : List (List Value)) :
    ({ config with skipEmpty := true }.drawValues rows).outcome =
      ({ config with skipEmpty := false }.drawValues (withoutTextless rows)).outcome := by
  rw [outcome_drawValues, outcome_drawValues, fault?_withoutTextless, texts_withoutTextless,
    render_skipEmpty]

end Config
end Table
end HelpPages
