import HelpPages.Page.Run
import HelpPages.Proofs.Log.Remarks
import HelpPages.Proofs.Table.Widths

/-! # Tables that can be measured

Only texts made of characters have a width.  Cells are measured one after the other, so the
widths of the columns are found if every cell has one, and else there are none
(`measuredWidths_eq`).  Values must have texts before: what is wrong with the first cell that has
none, or none with a width, is the failure of the whole table (`outcome_drawValues`).  All that a
table tells is one remark with its widths, which can always be made (`Config.exists_remarks_tell`).
-/
namespace HelpPages
namespace Table

/-- Every cell has a width. -/
def isMeasurable (rows : List (List Text)) : Bool := rows.all (·.all Text.isEncodable)

variable {rows : List (List Text)}

theorem isMeasurable_iff :
    isMeasurable rows = true ↔ ∀ row ∈ rows, ∀ cell ∈ row, cell.isEncodable = true := by
  simp only [isMeasurable, List.all_eq_true]

/-! ### Measuring -/

theorem widthOf_of_encodable {t : Text} (h : t.isEncodable = true) :
    widthOf t = .ok (Text.width t) :=
  if_pos h

theorem widthOf_of_not_encodable {t : Text} (h : t.isEncodable = false) :
    widthOf t = .error .unencodable :=
  if_neg (Bool.eq_false_iff.mp h)

/-- The cells of a row are measured if all of them have a width. -/
theorem measure_eq (widths : List Nat) (row : List Text) :
    measure widths row =
      if row.all Text.isEncodable then .ok (widen widths row) else .error .unencodable := by
  fun_induction measure widths row with
  | case1 widths => rw [widen]; rfl
  | case2 cell cells ih =>
    rw [List.all_cons, widen, ih]
    cases hcell : cell.isEncodable with
    | false => rw [widthOf_of_not_encodable hcell]; rfl
    | true =>
      rw [widthOf_of_encodable hcell, Bool.true_and]
      split <;> rfl
  | case3 w widths cell cells ih =>
    rw [List.all_cons, widen, ih]
    cases hcell : cell.isEncodable with
    | false => rw [widthOf_of_not_encodable hcell]; rfl
    | true =>
      rw [widthOf_of_encodable hcell, Bool.true_and]
      split <;> rfl

theorem foldlM_measure (rows : List (List Text)) (widths : List Nat) :
    rows.foldlM measure widths =
      if isMeasurable rows then .ok (rows.foldl widen widths) else .error .unencodable := by
  induction rows generalizing widths with
  | nil => rfl
  | cons row rows ih =>
    rw [List.foldlM_cons, measure_eq, isMeasurable, List.all_cons, List.foldl_cons]
    cases row.all Text.isEncodable with
    | false => rfl
    | true => exact ih _

/-- **The widths of columns are found if every cell has one.** -/
theorem measuredWidths_eq (rows : List (List Text)) :
    measuredWidths rows =
      if isMeasurable rows then .ok (columnWidths rows) else .error .unencodable :=
  foldlM_measure rows []

/-! ### The remark on a table -/

/-- The remark on a table with some widths. -/
def Config.layoutRemark (config : Config) (widths : List Nat) : Text :=
  "table widths=" ++ listing widths ++ " columns="
    ++ listing ((config.columns widths).map Column.index)

theorem Config.textOf_layoutTemplate (config : Config) (widths : List Nat) :
    Log.textOf layoutTemplate [("widths", .text (listing widths)),
      ("columns", .text (listing ((config.columns widths).map Column.index)))] =
        .ok (config.layoutRemark widths) := by
  have hcut : Template.pieces layoutTemplate =
      ("table widths=" : Text).map .char ++ .field ⟨"widths", none, []⟩ ::
        (" columns=" : Text).map .char ++ [.field ⟨"columns", none, []⟩] := by
    rw [layoutTemplate]
    repeat rw [Text.ofString_ofList]
    decide
  have hnames : ("widths" : Text) ≠ "columns" := by decide
  rw [Log.textOf_of_pieces ["widths", "columns"] hcut (by decide) rfl (List.cons_ne_nil _ _)
    (by simp [Value.isWritable])]
  simp [List.flatMap_map, Template.Piece.shown, Template.Field.shown, Entries.get?, hnames,
    layoutRemark]

/-- A table is measured and tells one remark, or it cannot be measured and tells none. -/
theorem Config.exists_remarks_tell (config : Config) (rows : List (List Text)) :
    ∃ texts, (config.tell rows).Remarks
      (if isMeasurable rows then .ok () else .error .unencodable) 3 "render" texts := by
  rw [tell, measuredWidths_eq]
  cases isMeasurable rows with
  | false => exact ⟨[], Run.remarks_done _ _ _⟩
  | true =>
    have htold := Run.remarks_emit (ε := Failure) 3 "render"
      (config.textOf_layoutTemplate (columnWidths rows))
    exact ⟨_, htold.whenShown⟩

end Table

/-! ### Tables of texts -/

namespace Renderer

/-- All tables can be measured. -/
def areMeasurable (layouts : List Layout) : Bool :=
  layouts.all fun layout => Table.isMeasurable layout.2

@[simp] theorem areMeasurable_singleton (layout : Layout) :
    areMeasurable [layout] = Table.isMeasurable layout.2 := by
  rw [areMeasurable, List.all_cons, List.all_nil, Bool.and_true]

/-- Tables are measured one after the other, up to the first that cannot be. -/
theorem exists_remarks_tellLayouts (layouts : List Layout) :
    ∃ texts, (tellLayouts layouts).Remarks
      (if areMeasurable layouts then .ok () else .error .unencodable) 3 "render" texts := by
  induction layouts with
  | nil => exact ⟨[], Run.remarks_done _ _ _⟩
  | cons layout layouts ih =>
    obtain ⟨config, rows⟩ := layout
    obtain ⟨texts, hfirst⟩ := config.exists_remarks_tell rows
    obtain ⟨more, hrest⟩ := ih
    rw [tellLayouts, areMeasurable, List.all_cons]
    cases hrows : Table.isMeasurable rows with
    | false =>
      rw [hrows] at hfirst
      exact ⟨texts, hfirst.bind_of_error _⟩
    | true =>
      rw [hrows] at hfirst
      exact ⟨texts ++ more, hfirst.bind hrest⟩

theorem outcome_tellLayouts (layouts : List Layout) :
    (tellLayouts layouts).outcome =
      if areMeasurable layouts then .ok () else .error .unencodable := by
  obtain ⟨texts, h⟩ := exists_remarks_tellLayouts layouts
  exact h.outcome_eq

/-- Laying out tables tells remarks only. -/
theorem isInert_tellLayouts (layouts : List Layout) (hints : Hints) :
    (tellLayouts layouts).IsInert hints := by
  obtain ⟨texts, h⟩ := exists_remarks_tellLayouts layouts
  exact h.isInert hints

end Renderer

namespace Table
namespace Config

variable (config : Config)

/-- Drawing a table tells remarks only. -/
theorem exists_remarks_draw (rows : List (List Text)) :
    ∃ texts, (config.draw rows).Remarks
      (if isMeasurable rows then .ok (config.render rows) else .error .unencodable)
        3 "render" texts := by
  obtain ⟨texts, h⟩ := config.exists_remarks_tell rows
  rw [draw]
  cases hrows : isMeasurable rows with
  | false =>
    rw [hrows] at h
    exact ⟨texts, h.bind_of_error _⟩
  | true =>
    rw [hrows] at h
    exact ⟨texts ++ [], h.bind (Run.remarks_done _ _ _)⟩

theorem outcome_draw (rows : List (List Text)) :
    (config.draw rows).outcome =
      if isMeasurable rows then .ok (config.render rows) else .error .unencodable := by
  obtain ⟨texts, h⟩ := config.exists_remarks_draw rows
  exact h.outcome_eq

end Config

/-! ### Tables of values -/

/-- What is wrong with a value in a cell: it has no text, or a text without a width. -/
def cellFault? (v : Value) : Option Failure :=
  if !v.isWritable then some (.number .unwritable)
  else if !(cellText v).isEncodable then some .unencodable
  else none

/-- What is wrong with the first cell of some rows with which anything is. -/
def fault? (rows : List (List Value)) : Option Failure :=
  rows.findSome? (·.findSome? cellFault?)

theorem cellFault?_eq_none_iff {v : Value} :
    cellFault? v = none ↔ v.isWritable = true ∧ (cellText v).isEncodable = true := by
  rw [cellFault?]
  cases v.isWritable <;> cases (cellText v).isEncodable <;> simp

/-- Nothing is wrong with rows in which every cell has a text and a width. -/
theorem fault?_eq_none_iff {rows : List (List Value)} :
    fault? rows = none ↔
      ∀ row ∈ rows, ∀ v ∈ row, v.isWritable = true ∧ (cellText v).isEncodable = true := by
  simp only [fault?, List.findSome?_eq_none_iff, cellFault?_eq_none_iff]

theorem measuredText_eq (v : Value) :
    measuredText v = (cellFault? v).elim (.ok (cellText v)) .error := by
  rw [measuredText, cellFault?, widthOf]
  cases v.isWritable <;> cases (cellText v).isEncodable <;> rfl

/-- A step that fails with what is wrong with an item fails for a list with what is wrong with
the first item with which anything is. -/
theorem mapM_eq_elim {α β ε : Type} {f : α → Except ε β} {fault : α → Option ε} {g : α → β}
    (h : ∀ item, f item = (fault item).elim (.ok (g item)) .error) (items : List α) :
    items.mapM f = (items.findSome? fault).elim (.ok (items.map g)) .error := by
  induction items with
  | nil => rfl
  | cons item items ih =>
    rw [List.mapM_cons, h, ih, List.findSome?_cons]
    cases fault item with
    | some e => rfl
    | none => cases items.findSome? fault <;> rfl

theorem measuredTexts_eq (rows : List (List Value)) :
    measuredTexts rows = (fault? rows).elim (.ok (texts rows)) .error :=
  mapM_eq_elim (mapM_eq_elim measuredText_eq) rows

theorem isMeasurable_texts {rows : List (List Value)} (h : fault? rows = none) :
    isMeasurable (texts rows) = true :=
  isMeasurable_iff.mpr
    (forall_texts.mpr fun row hrow v hv => (fault?_eq_none_iff.mp h row hrow v hv).2)

/-- The columns of values have widths if every cell has a text and a width. -/
theorem valueWidths_eq (rows : List (List Value)) :
    valueWidths rows = (fault? rows).elim (.ok (columnWidths (texts rows))) .error := by
  rw [valueWidths, measuredTexts_eq]
  cases h : fault? rows with
  | some e => rfl
  | none =>
    show measuredWidths (texts rows) = _
    rw [measuredWidths_eq, if_pos (isMeasurable_texts h)]
    rfl

theorem valueWidths_eq_ok_iff {rows : List (List Value)} {widths : List Nat} :
    valueWidths rows = .ok widths ↔ fault? rows = none ∧ widths = columnWidths (texts rows) := by
  rw [valueWidths_eq]
  cases fault? rows with
  | some e => exact ⟨nofun, nofun⟩
  | none => exact ⟨fun h => ⟨rfl, (Except.ok.inj h).symm⟩, fun h => congrArg Except.ok h.2.symm⟩

theorem exists_valueWidths_iff {rows : List (List Value)} :
    (∃ widths, valueWidths rows = .ok widths) ↔ fault? rows = none := by
  simp only [valueWidths_eq_ok_iff, exists_and_left, exists_eq, and_true]

/-- **A table of values is drawn if every cell has a text and a width**, and otherwise fails with
what is wrong with the first cell that has not. -/
theorem Config.outcome_drawValues (config : Config) (rows : List (List Value)) :
    (config.drawValues rows).outcome =
      (fault? rows).elim (.ok (config.render (texts rows))) .error := by
  rw [drawValues, Run.outcome_bind, measuredTexts_eq]
  cases h : fault? rows with
  | some e => rfl
  | none =>
    show (config.draw (texts rows)).outcome = _
    rw [outcome_draw, if_pos (isMeasurable_texts h)]
    rfl

end Table
end HelpPages
