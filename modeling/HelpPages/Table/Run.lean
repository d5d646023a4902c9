import HelpPages.Failure
import HelpPages.Table.Layout

/-! # Drawing a table

Before a table is drawn its cells are measured, one after the other, and the first cell
without a text or a width ends the drawing.  A remark in the log tells the widths and the
columns that are drawn.
-/
namespace HelpPages

namespace Table

/-- The width of a text, which only texts made of characters have. -/
def widthOf (t : Text) : Except Failure Nat :=
  if Text.isEncodable t then .ok (Text.width t) else .error .unencodable

/-- Widths widened to those of the cells of a row, each of which must have one. -/
def measure : List Nat → List Text → Except Failure (List Nat)
  | widths, [] => .ok widths
  | [], cell :: cells => do
    let w ← widthOf cell
    return w :: (← measure [] cells)
  | w :: widths, cell :: cells => do
    let own ← widthOf cell
    return max w own :: (← measure widths cells)

/-- The width of every column that any row has, unless a cell has none. -/
def measuredWidths (rows : List (List Text)) : Except Failure (List Nat) := rows.foldlM measure []

/-- Numbers as the log shows them. -/
def listing (numbers : List Nat) : Text :=
  "[" ++ Text.joinWith ", " (numbers.map Integer.ofNat) ++ "]"

/-- The template of the remark on a table. -/
def layoutTemplate : Text := "table widths=\x7bwidths\x7d columns=\x7bcolumns\x7d"

namespace Config

/-- A table is measured, and the remark on it is made if the log shows it. -/
def tell (config : Config) (rows : List (List Text)) : Run Failure Unit := do
  let widths ← Run.ofExcept (measuredWidths rows)
  Run.whenShown 3 "render" (Run.emit 3 "render" layoutTemplate
    [("widths", .text (listing widths)),
      ("columns", .text (listing ((config.columns widths).map Column.index)))])

/-- The text of a table, with the remark on it. -/
def draw (config : Config) (rows : List (List Text)) : Run Failure Text := do
  config.tell rows
  return config.render rows

end Config

/-- The text of a value in a cell that has a text and a width. -/
def measuredText (v : Value) : Except Failure Text := do
  if !v.isWritable then throw (.number .unwritable)
  let _ ← widthOf (cellText v)
  return cellText v

/-- The texts of values in cells, one cell after the other. -/
def measuredTexts (rows : List (List Value)) : Except Failure (List (List Text)) :=
  rows.mapM (·.mapM measuredText)

/-- The width of every column that any row of values has. -/
def valueWidths (rows : List (List Value)) : Except Failure (List Nat) := do
  measuredWidths (← measuredTexts rows)

/-- The text of a table of values, with the remark on it. -/
def Config.drawValues (config : Config) (rows : List (List Value)) : Run Failure Text := do
  config.draw (← Run.ofExcept (measuredTexts rows))

end Table
end HelpPages
