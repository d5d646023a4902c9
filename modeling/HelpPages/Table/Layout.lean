import HelpPages.Table.Config

/-! # Laying out a table

A column is as wide as its widest cell, measured in bytes of UTF-8, and every
cell is filled up to the width of its column.  Rows may have different lengths:
a missing cell is an empty one.  Cells stand side by side with a tab between
them, or between bars in a frame.
-/
namespace HelpPages
namespace Table

/-- The distance of two tab stops. -/
def tabStop : Int := 8

/-- A width rounded up to a tab stop. -/
def roundToTabStop (w : Int) : Int := -(-w / tabStop) * tabStop

/-- The text of a value in a cell, however long its numerals are. -/
def cellText : Value → Text
  | .null => []
  | v => v.plain

/-- A column that is drawn: its index in the rows, and its width. -/
structure Column where
  index : Nat
  width : Nat
deriving DecidableEq, Repr

/-- Widths widened to those of the cells of a row. -/
def widen : List Nat → List Text → List Nat
  | widths, [] => widths
  | [], cell :: cells => Text.width cell :: widen [] cells
  | w :: widths, cell :: cells => max w (Text.width cell) :: widen widths cells

/-- The width of every column that any row has. -/
def columnWidths (rows : List (List Text)) : List Nat := rows.foldl widen []

namespace Config

/-- A rule is drawn above and below the rows. -/
def isRuled (config : Config) : Bool := config.border || config.frame

/-- The columns that are drawn. -/
def columns (config : Config) (widths : List Nat) : List Column :=
  (widths.zipIdx.map fun (width, index) => Column.mk index width).filter fun c =>
    !config.skipEmpty || 0 < c.width

/-- The cell of a row in a column, with a blank on either side in a frame. -/
def cell (config : Config) (row : List Text) (c : Column) : Text :=
  let text := Text.padRight c.width (row.getD c.index [])
  if config.frame then " " ++ text ++ " " else text

/-- The line of a row. -/
def rowLine (config : Config) (columns : List Column) (row : List Text) : Text :=
  let line := Text.joinWith (if config.frame then "|" else "\t") (columns.map (config.cell row))
  let line : Text :=
    match config.border, config.frame with
    | true, true => "|" ++ line ++ "|"
    | true, false => "| " ++ line ++ " |"
    | false, _ => line
  line ++ "\n"

/-- How many dashes a rule without a frame has for some widths: each column
reaches a tab stop, and the first one makes room for the blank before it. -/
def dashCount : List Int → Int
  | [] => 0
  | w :: ws => roundToTabStop (w + 1) + ws.foldr (fun w dashes => roundToTabStop w + dashes) 0

/-- How many dashes a rule with a frame has for a width: the cell has a blank on
either side. -/
def cellRun (width : Int) : Int := width + 2

/-- The lengths of the runs of dashes in a rule for some widths. -/
def dashRuns (config : Config) (widths : List Int) : List Int :=
  if config.frame then widths.map cellRun else [dashCount widths]

/-- The line of a rule with runs of dashes.  Without border and frame it is
empty. -/
def ruleOfRuns (config : Config) (runs : List Nat) : Text :=
  if config.isRuled then
    "+" ++ Text.joinWith "+" (runs.map fun n => List.replicate n '-') ++ "+\n"
  else "\n"

/-- The line of a rule. -/
def ruleLine (config : Config) (columns : List Column) : Text :=
  config.ruleOfRuns ((config.dashRuns (columns.map fun c => (c.width : Int))).map Int.toNat)

/-- The lines of the rows, with a rule under the first one if there is a header. -/
def rowLines (config : Config) (columns : List Column) : List (List Text) → List Text
  | [] => []
  | first :: rest =>
    config.rowLine columns first
      :: (if config.header then [config.ruleLine columns] else [])
      ++ rest.map (config.rowLine columns)

/-- The lines of a table. -/
def lines (config : Config) (rows : List (List Text)) : List Text :=
  let columns := config.columns (columnWidths rows)
  let rule := if config.isRuled then [config.ruleLine columns] else []
  rule ++ config.rowLines columns rows ++ rule

/-- The text of a table. -/
def render (config : Config) (rows : List (List Text)) : Text := (config.lines rows).flatten

end Config

end Table
end HelpPages
