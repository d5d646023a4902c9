import HelpPages.Table.Layout

/-! # Columns chosen by hand

A table can be drawn in columns whose indexes and widths are chosen by hand.  An
index below zero counts from the end, among the widths as well as in every row,
and a width below zero leaves a cell as it is.  What cannot be drawn is an
error: a column that a row or the widths do not have, and a run of blanks or
dashes that is too long.
-/
namespace HelpPages
namespace Table

/-- Why chosen columns cannot be drawn. -/
inductive ChoiceError where
  /-- There is nothing at an index. -/
  | outOfRange
  /-- A run of blanks or dashes cannot be made. -/
  | length (e : Text.LengthError)
deriving DecidableEq, Repr

/-- The place in a sequence of `count` items to which an index below zero leads
from the end; any other index is the place itself. -/
def placeOf (count : Nat) (index : Int) : Except ChoiceError Nat :=
  if 0 ≤ index then .ok index.toNat
  else if 0 ≤ index + count then .ok (index + count).toNat
  else .error .outOfRange

/-- An index that is a place already stays as it is. -/
@[simp] theorem placeOf_natCast (count index : Nat) : placeOf count index = .ok index := by
  simp [placeOf]

/-- The width at an index. -/
def widthAt (widths : List Int) (index : Int) : Except ChoiceError Int := do
  match widths[← placeOf widths.length index]? with
  | some width => return width
  | none => throw .outOfRange

/-- A length that can be made. -/
def checkedLength (n : Int) : Except ChoiceError Nat := (Text.lengthOf n).mapError .length

/-- The column of a row at an index. -/
def columnAt (widths : List Int) (row : List Text) (index : Int) : Except ChoiceError Column := do
  let place ← placeOf row.length index
  let width ← widthAt widths index
  let _ ← checkedLength (max (width - Text.width (row.getD place [])) 0)
  return { index := place, width := width.toNat }

namespace Config

/-- The rule for chosen columns.  Without border and frame nothing is drawn of
them. -/
def chosenRule (config : Config) (widths indexes : List Int) : Except ChoiceError Text := do
  if config.frame then
    let run (index : Int) : Except ChoiceError Nat := do
      checkedLength (cellRun (← widthAt widths index))
    return config.ruleOfRuns (← indexes.mapM run)
  else if config.border then
    let chosen ← indexes.mapM (widthAt widths)
    return config.ruleOfRuns [← checkedLength (dashCount chosen)]
  else return config.ruleOfRuns []

/-- The line of a row in chosen columns. -/
def chosenLine (config : Config) (widths indexes : List Int) (row : List Text) :
    Except ChoiceError Text := do
  return config.rowLine (← indexes.mapM (columnAt widths row)) row

end Config
end Table
end HelpPages
