import HelpPages.Table.Run

/-! # A table that grows

A widget is a table to which rows are added one by one.  It may be bound to a
place where its text is written; without one it cannot be written.
-/
namespace HelpPages
namespace Table

/-- A table, and what has been written of it if it can be written. -/
structure Widget where
  rows : List (List Value) := []
  config : Config := {}
  written : Option Text := none

namespace Widget

/-- The widget with one more row. -/
def addRow (cells : List Value) (w : Widget) : Widget := { w with rows := w.rows ++ [cells] }

/-- The text of the table, with the remark on it. -/
def draw (w : Widget) : Run Failure Text := w.config.drawValues w.rows

/-- The wording of the error that a widget has no place to write to. -/
def noWriter : Text := "No writer specified for table output"

/-- The widget after its table has been written, if it can be. -/
def write? (w : Widget) : Option (Run Failure Widget) :=
  w.written.map fun text => do return { w with written := some (text ++ (← w.draw)) }

end Widget
end Table
end HelpPages
