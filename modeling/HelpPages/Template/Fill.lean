import HelpPages.Template.Layout
import HelpPages.Template.Property

/-! # Filling in a template

A template is a text with fields in braces.  A field names a value, may pick an
element of it, may ask for its literal, and may say how it is laid out; the
layout may hold fields of its own.  A brace that is text is written twice.
Filling in goes from left to right and stops at the first fault, so a fault in
the template shows only after the fields before it have been filled in.
-/
namespace HelpPages
namespace Template

/-- A field of a template: the text that names the value, the mark of the form
in which it is shown, and its layout. -/
structure Field where
  source : Text
  form : Option CodePoint
  layout : Text
deriving DecidableEq, Repr

/-- A part of a template: a character that stands for itself, a field, or the
fault that ends the template. -/
inductive Piece where
  | char (c : CodePoint)
  | field (f : Field)
  | fault (message : Text)
deriving DecidableEq, Repr

/-- Where a reader of a template stands.  The texts read so far are kept in
reverse. -/
inductive Reading where
  /-- Outside of all fields. -/
  | outside
  /-- After an opening brace. -/
  | opened
  /-- After a closing brace that closes nothing. -/
  | closed
  /-- In the name of a field. -/
  | name (source : Text)
  /-- In the name of a field, between square brackets. -/
  | bracket (source : Text)
  /-- After the mark that announces the form of a field. -/
  | formMark (source : Text)
  /-- After the form of a field. -/
  | form (source : Text) (mark : CodePoint)
  /-- In the layout of a field, `depth` braces deep. -/
  | layout (source : Text) (mark : Option CodePoint) (read : Text) (depth : Nat)
deriving DecidableEq, Repr

namespace Reading

/-- The fault of a template that ends here. -/
def atEnd : Reading → List Piece
  | outside => []
  | opened => [.fault "Single '\x7b' encountered in format string"]
  | closed => [.fault "Single '\x7d' encountered in format string"]
  | name _ | bracket _ => [.fault "expected '\x7d' before end of string"]
  | formMark _ => [.fault "end of string while looking for conversion specifier"]
  | form .. | layout .. => [.fault "unmatched '\x7b' in format spec"]

/-- What a character in the name of a field does: a fault, the end of the field,
or a new place to stand. -/
def inName (source : Text) (c : CodePoint) : Sum Piece Reading :=
  match c with
  | '\x7b' => .inl (.fault "unexpected '\x7b' in field name")
  | '\x7d' => .inl (.field ⟨source.reverse, none, []⟩)
  | '[' => .inr (bracket (c :: source))
  | ':' => .inr (layout source none [] 1)
  | '!' => .inr (formMark source)
  | _ => .inr (name (c :: source))

/-- What a character in the layout of a field does. -/
def inLayout (source : Text) (mark : Option CodePoint) (read : Text) (depth : Nat) (c : CodePoint) :
    Sum Piece Reading :=
  match c with
  | '\x7b' => .inr (layout source mark (c :: read) (depth + 1))
  | '\x7d' =>
    if depth ≤ 1 then .inl (.field ⟨source.reverse, mark, read.reverse⟩)
    else .inr (layout source mark (c :: read) (depth - 1))
  | _ => .inr (layout source mark (c :: read) depth)

/-- What one character does: a finished piece, or a new place to stand. -/
def step : Reading → CodePoint → Sum Piece Reading
  | outside, '\x7b' => .inr opened
  | outside, '\x7d' => .inr closed
  | outside, c => .inl (.char c)
  | opened, '\x7b' => .inl (.char '\x7b')
  | opened, c => inName [] c
  | closed, '\x7d' => .inl (.char '\x7d')
  | closed, _ => .inl (.fault "Single '\x7d' encountered in format string")
  | name source, c => inName source c
  | bracket source, c => .inr (if c = ']' then name (c :: source) else bracket (c :: source))
  | formMark source, c => .inr (form source c)
  | form source mark, '\x7d' => .inl (.field ⟨source.reverse, some mark, []⟩)
  | form source mark, ':' => .inr (layout source (some mark) [] 1)
  | form .., _ => .inl (.fault "expected ':' after conversion specifier")
  | layout source mark read depth, c => inLayout source mark read depth c

end Reading

/-- The pieces of a template from a place on. -/
def piecesFrom (reading : Reading) : Text → List Piece
  | [] => reading.atEnd
  | c :: rest =>
    match reading.step c with
    | .inl piece => piece :: piecesFrom .outside rest
    | .inr reading => piecesFrom reading rest

/-- The pieces of a template. -/
def pieces (template : Text) : List Piece := piecesFrom .outside template

/-- The steps that stand behind the name of a value, up to the first fault. -/
def stepsFrom : Option Bool → Text → Text → List (Except Error Step)
  -- between two steps
  | none, _, [] => []
  | none, _, '.' :: rest => stepsFrom (some true) [] rest
  | none, _, '[' :: rest => stepsFrom (some false) [] rest
  | none, _, _ :: _ =>
    [.error (.malformed "Only '.' or '[' may follow ']' in format field specifier")]
  -- in the name of a property
  | some true, read, [] => [checked (.property read.reverse) read]
  | some true, read, '.' :: rest =>
    checked (.property read.reverse) read :: stepsFrom (some true) [] rest
  | some true, read, '[' :: rest =>
    checked (.property read.reverse) read :: stepsFrom (some false) [] rest
  | some true, read, c :: rest => stepsFrom (some true) (c :: read) rest
  -- in an index
  | some false, _, [] => [.error (.malformed "Missing ']' in format string")]
  | some false, read, ']' :: rest => checked (.index read.reverse) read :: stepsFrom none [] rest
  | some false, read, c :: rest => stepsFrom (some false) (c :: read) rest
where
  /-- A step with a name, or the fault that it has none. -/
  checked (step : Step) (read : Text) : Except Error Step :=
    if read = [] then .error (.malformed "Empty attribute in format string") else .ok step

/-- What a field names. -/
def lookUp (values : Entries Value) (source : Text) : Except Error Item := do
  let isStep (c : CodePoint) : Bool := c = '.' || c = '['
  let name := source.takeWhile (!isStep ·)
  if name = [] ∨ (← wholeNumber? name).isSome then throw .outOfRange
  let some value := Entries.get? name values | throw (.missing name)
  (stepsFrom none [] (source.dropWhile (!isStep ·))).foldlM
    (fun item step => do item.pick (← step)) (.value value)

/-- The form of an item that a mark asks for; the character U+0000 asks for none. -/
def inForm (item : Item) : Option CodePoint → Except Error Item
  | none | some '\x00' => .ok item
  | some 's' => do return .value (.text (← item.plain))
  | some 'r' => do return .value (.text (← item.literal))
  | some 'a' => do return .value (.text (Text.escapeBeyondAscii (← item.literal)))
  | some c => .error (.malformed ("Unknown conversion specifier " ++ nameChar 126 c))

/-- An item laid out as a text describes. -/
def layOutItem (source : Text) : Item → Except Error Text
  | .value v => layOut source v
  | item => if source = [] then item.plain else .error .unsuitable

/-- How deep the layouts of fields may hold fields. -/
def maxDepth : Nat := 2

/-- The text of a template whose fields may be `depth` layouts deep. -/
def fillTo (values : Entries Value) : Nat → Text → Except Error Text
  | 0, _ => .error (.malformed "Max string recursion exceeded")
  | depth + 1, template => do
    let parts ← (pieces template).mapM fun piece =>
      match piece with
      | .char c => .ok [c]
      | .fault message => .error (.malformed message)
      | .field f => do
        let item ← inForm (← lookUp values f.source) f.form
        let layout ←
          if f.layout.contains '\x7b' then fillTo values depth f.layout else pure f.layout
        layOutItem layout item
    return parts.flatten

/-- The text of a template with its fields filled in. -/
def fill (values : Entries Value) (template : Text) : Except Error Text :=
  fillTo values maxDepth template

end Template
end HelpPages
