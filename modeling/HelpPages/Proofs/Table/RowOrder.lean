import HelpPages.Proofs.Table.Alignment

/-! # Rows in another order

The widths of columns are found row by row: a row widens the columns that there are and adds
the columns that only it has.  What comes out is the greatest width of a cell at each index
(`getElem?_columnWidths`), in which the order of the rows has no part (`columnWidths_perm`).  As
the widths are all that a line knows of the other rows, a table with its rows in another order
has the same rules, and the same lines in that order (`Config.draw_inOrder`).  A cell without a
text or a width keeps the widths from being found in every order (`fault?_perm`).
-/
namespace HelpPages
namespace Table

variable {α β : Type}

/-! ### The widest cell at an index -/

/-- The cells that the rows have at an index, however many these are. -/
def cellsAt (rows : List (List Text)) (i : Nat) : List Text := rows.filterMap (·[i]?)

theorem getElem?_widen (widths : List Nat) (row : List Text) (i : Nat) :
    (widen widths row)[i]? = Option.merge max widths[i]? (row[i]?.map Text.width) := by
  fun_induction widen widths row generalizing i with
  | case1 widths => simp
  | case2 cell cells ih => cases i <;> simp_all
  | case3 w widths cell cells ih => cases i <;> simp_all

/-- The width that a column has and those of the cells in it: the greatest one is kept. -/
theorem getElem?_foldl_widen (rows : List (List Text)) (widths : List Nat) (i : Nat) :
    (rows.foldl widen widths)[i]? =
      (widths[i]?.toList ++ (cellsAt rows i).map Text.width).max? := by
  induction rows generalizing widths with
  | nil =>
    rw [List.foldl_nil]
    cases widths[i]? <;> rfl
  | cons row rows ih =>
    rw [List.foldl_cons, ih, getElem?_widen, cellsAt, cellsAt, List.filterMap_cons]
    cases widths[i]? <;> cases row[i]? <;> rfl

/-- The width at an index is the greatest width of a cell that a row has there. -/
theorem getElem?_columnWidths (rows : List (List Text)) (i : Nat) :
    (columnWidths rows)[i]? = ((cellsAt rows i).map Text.width).max? :=
  getElem?_foldl_widen rows [] i

/-- The order of the rows has no part in the widths. -/
theorem columnWidths_perm {rows rows' : List (List Text)} (h : rows.Perm rows') :
    columnWidths rows = columnWidths rows' := by
  refine List.ext_getElem? fun i => Option.ext fun w => ?_
  have hcells : (cellsAt rows i).Perm (cellsAt rows' i) := h.filterMap (·[i]?)
  simp only [getElem?_columnWidths, List.max?_eq_some_iff, (hcells.map Text.width).mem_iff]

/-- A cell without a text or a width is one in every order. -/
theorem fault?_perm {rows rows' : List (List Value)} (h : rows.Perm rows') :
    fault? rows = none ↔ fault? rows' = none := by
  simp only [fault?_eq_none_iff, h.mem_iff]

/-! ### Another order -/

/-- The items of a list in another order, given by the places from which they come. -/
def inOrder (order : List Nat) (items : List α) : List α := order.filterMap (items[·]?)

theorem map_inOrder (f : α → β) (order : List Nat) (items : List α) :
    (inOrder order items).map f = inOrder order (items.map f) := by
  simp only [inOrder, List.map_filterMap, List.getElem?_map]

theorem inOrder_range (items : List α) : inOrder (List.range items.length) items = items := by
  induction items with
  | nil => rfl
  | cons item items ih =>
    rw [inOrder, List.length_cons, List.range_succ_eq_map, List.filterMap_cons,
      List.filterMap_map]
    exact congrArg (item :: ·) ih

theorem inOrder_perm {order : List Nat} {items : List α}
    (h : order.Perm (List.range items.length)) : (inOrder order items).Perm items := by
  have hitems : (inOrder order items).Perm (inOrder (List.range items.length) items) :=
    h.filterMap (items[·]?)
  rwa [inOrder_range] at hitems

namespace Config

/-- **The order of the rows has no part in the layout.**  The widths of the columns are found if
every cell has a text and a width, and else there are none.  There is one for each index of the
longest row, which is the greatest width of a cell that a row has there, and rows in another order
have the same.  In every configuration either order is drawn if the widths are found, and if the
texts of the cells keep to one line, the table cut at the line feeds is the same rules around the
same lines, which are in the order of their rows. -/
theorem draw_inOrder (rows : List (List Value)) {order : List Nat}
    (hperm : order.Perm (List.range rows.length))
    (oneLine : ∀ row ∈ rows, ∀ value ∈ row, CodePoint.char '\n' ∉ cellText value) :
    ((∃ widths, valueWidths rows = .ok widths) ↔ ∀ row ∈ rows, ∀ value ∈ row,
        value.isWritable = true ∧ (cellText value).isEncodable = true) ∧
      (∀ widths, valueWidths rows = .ok widths ↔ valueWidths (inOrder order rows) = .ok widths) ∧
      ∀ widths, valueWidths rows = .ok widths →
        widths.length = longest (texts rows) ∧
        (∀ i : Nat, widths[i]? = ((cellsAt (texts rows) i).map Text.width).max?) ∧
        ∀ config : Config,
          (config.drawValues rows).outcome = .ok (config.render (texts rows)) ∧
          (config.drawValues (inOrder order rows)).outcome =
            .ok (config.render (texts (inOrder order rows))) ∧
          ∃ rule lines, lines.length = rows.length ∧
            Text.splitOn '\n' (config.render (texts rows)) = config.arrange rule lines ++ [[]] ∧
            Text.splitOn '\n' (config.render (texts (inOrder order rows))) =
              config.arrange rule (inOrder order lines) ++ [[]] := by
  have htexts : texts (inOrder order rows) = inOrder order (texts rows) := map_inOrder _ order rows
  have hlength : (texts rows).length = rows.length := List.length_map _
  have hsame : (inOrder order (texts rows)).Perm (texts rows) :=
    inOrder_perm (hlength.symm ▸ hperm)
  have hwidths : columnWidths (texts (inOrder order rows)) = columnWidths (texts rows) := by
    rw [htexts]
    exact columnWidths_perm hsame
  have hfault : fault? (inOrder order rows) = none ↔ fault? rows = none :=
    fault?_perm (inOrder_perm hperm)
  refine ⟨exists_valueWidths_iff.trans fault?_eq_none_iff, fun widths => ?_,
    fun widths hfound => ?_⟩
  · rw [valueWidths_eq_ok_iff, valueWidths_eq_ok_iff, hfault, hwidths]
  · obtain ⟨hnone, rfl⟩ := valueWidths_eq_ok_iff.mp hfound
    refine ⟨length_columnWidths _, getElem?_columnWidths _, fun config => ?_⟩
    have honeLine : ∀ row ∈ texts rows, ∀ cell ∈ row, CodePoint.char '\n' ∉ cell :=
      forall_texts.mpr oneLine
    have hlayout := render_isLayout config honeLine
    have hother := render_isLayout config fun row hrow => honeLine row (hsame.subset hrow)
    have hlines : (inOrder order (texts rows)).map
          (config.rowText (config.columns (columnWidths (inOrder order (texts rows))))) =
        inOrder order ((texts rows).map (config.rowText (config.columns
          (columnWidths (texts rows))))) := by
      rw [← htexts, hwidths, htexts, map_inOrder]
    refine ⟨?_, ?_, _, _, ?_, hlayout.text, ?_⟩
    · rw [outcome_drawValues, hnone]
      rfl
    · rw [outcome_drawValues, hfault.mpr hnone]
      rfl
    · rw [List.length_map, hlength]
    · rw [htexts, hother.text, hlines, ← htexts, hwidths]

theorem draw_inOrder_raggedRows :
    [2, 0, 3, 1].Perm (List.range raggedRows.length) ∧
      (∀ row ∈ raggedRows, ∀ value ∈ row, CodePoint.char '\n' ∉ cellText value) ∧
      valueWidths raggedRows = .ok [4, 7, 4] ∧
      valueWidths (inOrder [2, 0, 3, 1] raggedRows) = .ok [4, 7, 4] ∧
      ∀ config : Config, ∃ rule lines, lines.length = raggedRows.length ∧
        Text.splitOn '\n' (config.render (texts raggedRows)) =
          config.arrange rule lines ++ [[]] ∧
        Text.splitOn '\n' (config.render (texts (inOrder [2, 0, 3, 1] raggedRows))) =
          config.arrange rule (inOrder [2, 0, 3, 1] lines) ++ [[]] := by
  have hperm : [2, 0, 3, 1].Perm (List.range raggedRows.length) := by decide
  have honeLine : ∀ row ∈ raggedRows, ∀ value ∈ row, CodePoint.char '\n' ∉ cellText value := by
    decide
  have hfound : valueWidths raggedRows = .ok [4, 7, 4] := by decide +kernel
  obtain ⟨-, hsame, hlayout⟩ := draw_inOrder raggedRows hperm honeLine
  refine ⟨hperm, honeLine, hfound, (hsame _).mp hfound, fun config => ?_⟩
  exact ((hlayout _ hfound).2.2 config).2.2

end Config
end Table
end HelpPages
