import HelpPages.Text.Basic

/-! # Rows in text

Comma separated rows: a field may stand between quotes, where commas and line
ends belong to it and a quote is written twice.  A quote in the middle of a bare
field is a character like any other, and what follows a closing quote is bare
again.  An empty line is a row without fields, and the end of the text closes
all that is open.
-/
namespace HelpPages
namespace Csv

/-- Where a reader of rows stands. -/
inductive Place where
  /-- Before the first field of a row. -/
  | row
  /-- Before another field. -/
  | field
  /-- In a bare field. -/
  | bare
  /-- Between quotes. -/
  | quoted
  /-- Behind a quote between quotes. -/
  | closing
deriving DecidableEq, Repr

/-- What has been read: the field and the row that are open, and the rows before
them, all in reverse. -/
structure Reading where
  place : Place := .row
  field : Text := []
  fields : List Text := []
  rows : List (List Text) := []
deriving DecidableEq, Repr

namespace Reading

/-- One more character of the open field. -/
def add (r : Reading) (place : Place) (c : CodePoint) : Reading :=
  { r with place, field := c :: r.field }

/-- The open field ends, and another one follows. -/
def endField (r : Reading) : Reading :=
  { r with place := .field, field := [], fields := r.field.reverse :: r.fields }

/-- The open row ends; it has no fields if nothing of it was read. -/
def endRow (r : Reading) : Reading :=
  let fields := if r.place = .row then [] else r.field.reverse :: r.fields
  { rows := fields.reverse :: r.rows }

/-- One character that ends no line. -/
def step (r : Reading) (c : CodePoint) : Reading :=
  match r.place with
  | .row | .field =>
    if c = '"' then { r with place := .quoted } else if c = ',' then r.endField else r.add .bare c
  | .bare => if c = ',' then r.endField else r.add .bare c
  | .quoted => if c = '"' then { r with place := .closing } else r.add .quoted c
  | .closing =>
    if c = '"' then r.add .quoted c else if c = ',' then r.endField else r.add .bare c

/-- The end of the text. -/
def atEnd (r : Reading) : List (List Text) :=
  (if r.place = .row then r.rows else r.endRow.rows).reverse

end Reading

/-- The rows of a text that follows what has been read. -/
def rowsFrom (r : Reading) : Text → List (List Text)
  | [] => r.atEnd
  | c :: rest =>
    if r.place = .quoted then rowsFrom (r.step c) rest
    else if c = '\r' then
      match rest with
      | '\n' :: rest => rowsFrom r.endRow rest
      | rest => rowsFrom r.endRow rest
    else if c = '\n' then rowsFrom r.endRow rest
    else rowsFrom (r.step c) rest

/-- The most characters that a field may have. -/
def fieldLimit : Nat := 131072

/-- The rows of a text, or none if a field is too long. -/
def rows? (t : Text) : Option (List (List Text)) :=
  let rows := rowsFrom {} t
  if rows.any fun row => row.any fun field => fieldLimit < field.length then none else some rows

end Csv
end HelpPages
