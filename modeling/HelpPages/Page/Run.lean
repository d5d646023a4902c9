import HelpPages.Page.OfComment
import HelpPages.Page.Render
import HelpPages.Table.Run

/-! # Remarks on pages

Reading a page tells which tag lines were dropped and how much was read, and
laying out a table tells its widths.  The remarks go to channels of the log and
take no part in the page or its text.  Laying out a table fails where a cell has
no width.
-/
namespace HelpPages

variable {ε : Type} [TemplateFailure ε]

namespace Comment

/-- The template of the remark on a dropped line. -/
def droppedTemplate : Text := "dropped tag line: \x7bline\x7d"

/-- The template of the remark that sums up a page. -/
def summaryTemplate : Text := "parsed \x7ba\x7d args, \x7bo\x7d options, \x7be\x7d examples"

/-- The numbers in the remark that sums up a page, as their numerals. -/
def counts (page : Page) : Entries Value :=
  [("a", .text (Integer.ofNat page.args.length)),
    ("o", .text (Integer.ofNat page.options.length)),
    ("e", .text (Integer.ofNat page.examples.length))]

/-- Remarks on dropped lines. -/
def tellDropped : List Text → Run ε Unit
  | [] => return ()
  | line :: lines => do
    Run.emit 3 "parse" droppedTemplate [("line", .text line)]
    tellDropped lines

end Comment

/-- A page read from a comment, with the remarks on it. -/
def Page.read (s : Substitution) (comment : Text) : Run ε Page := do
  let page := Page.ofComment s comment
  Comment.tellDropped ((Comment.read comment).filterMap Comment.Line.dropped?)
  Run.emit 3 "parse" Comment.summaryTemplate (Comment.counts page)
  return page

/-- Remarks on the channel of layout, one for each table, up to the first table
that cannot be laid out. -/
def Renderer.tellLayouts : List Renderer.Layout → Run Failure Unit
  | [] => return ()
  | (config, rows) :: layouts => do
    config.tell rows
    tellLayouts layouts

namespace Renderer

/-- The renderer with a pen and an indent, which is an integer or a truth value;
a negative one is none. -/
def ofIndent (pen : Pen) (indent : Value) : Except Failure Renderer := do
  let count ← match indent with
    | .int i => (Text.lengthOf i).mapError .length
    | .bool b => pure b.toNat
    | _ => throw .wrongKind
  return { pen, indent := count }

/-- A number of cells: an integer, a truth value, or any number that is not
positive and stands for none. -/
def cellCount : Value → Except Failure Int
  | .int i => .ok i
  | .bool b => .ok (if b then 1 else 0)
  | .float (.finite negative mantissa _) =>
    if negative || mantissa = 0 then .ok 0 else .error .wrongKind
  | .float (.infinite true) => .ok 0
  | _ => .error .wrongKind

/-- The line with the first `count` of its cells emphasised, where a pen with
colours needs a number of 64 bits. -/
def emphasizedCells (pen : Pen) (count : Int) (line : Text) : Except Failure Text :=
  if pen.colored && 0 < count && !Text.isCount count then .error (.length .overflow)
  else .ok (emphasizeCells pen count line)

/-- A section with a table, with the remark on it. -/
def drawSection (r : Renderer) (title : Text) (rows : List (List Text)) (config : Table.Config)
    (styled : Int) : Run Failure Text := do
  tellLayouts [(config, rows)]
  let _ ← Run.ofExcept ((config.lines rows).mapM (emphasizedCells r.pen styled))
  return r.tableSection title rows config styled

/-- A section that lists names with their descriptions, with the remark on its
table. -/
def drawNameList (r : Renderer) (title : Text) (entries : Entries Text) : Run Failure Text := do
  tellLayouts [nameLayout entries]
  return r.nameList title entries

/-- The text of a page, with the remarks on its tables. -/
def draw (r : Renderer) (page : Page) : Run Failure Text := do
  tellLayouts (layouts page)
  return r.render page

/-- The list of commands, with the remark on its table. -/
def drawCommandList (r : Renderer) (commands : Entries Text) : Run Failure Text := do
  tellLayouts [nameLayout commands]
  return r.commandList commands

end Renderer
end HelpPages
