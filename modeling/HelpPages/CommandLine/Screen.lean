import HelpPages.CommandLine.Reading
import HelpPages.Value

/-! # Screens

The screen of a grammar shows how a program is called and explains its operands,
switches and commands in columns.  Lines have at most 78 characters.
-/
namespace HelpPages
namespace CommandLine

/-- The most characters that a line of a screen has. -/
def lineLimit : Nat := 78

/-- Words packed into lines: a word goes to the next line if it and a blank do not
fit into the room. -/
def packFrom (room : Nat) (line : Text) : List Text → List Text
  | [] => [line]
  | w :: ws =>
    if line.length + 1 + w.length ≤ room then packFrom room (line ++ " " ++ w) ws
    else line :: packFrom room w ws

/-- Words packed into lines from the first one on. -/
def pack (room : Nat) : List Text → List Text
  | [] => []
  | w :: ws => packFrom room w ws

/-- The text with at most one empty line in a row. -/
def capGaps : Text → Text
  | '\n' :: '\n' :: '\n' :: rest => capGaps ('\n' :: '\n' :: rest)
  | c :: rest => c :: capGaps rest
  | [] => []
termination_by t => t.length

variable {α : Type}

/-- A spelling of a switch with its value. -/
def Switch.form (s : Switch α) (name : Text) : Text :=
  match s.arity with
  | .none => name
  | .optional => name ++ " [" ++ s.placeholder ++ "]"
  | .one => name ++ " " ++ s.placeholder

/-- A switch in the line that shows how the program is called. -/
def Switch.usage (s : Switch α) : Text := "[" ++ s.form (s.names.headD []) ++ "]"

/-- A switch with all its spellings. -/
def Switch.heading (s : Switch α) : Text := Text.joinWith ", " (s.names.map s.form)

/-- An operand in the line that shows how the program is called. -/
def Operand.usage (o : Operand α) : Text :=
  match o.count with
  | .one => o.placeholder
  | .optional => "[" ++ o.placeholder ++ "]"
  | .rest => o.placeholder ++ " ..."

/-- How the program is called.  What does not fit into one line is packed into
lines of their own for switches and operands, indented to the end of the name of
the program if that is short. -/
def Grammar.usage (g : Grammar α) (program : Text) : Text :=
  let start : Text := "usage: "
  let switches := g.switches.map Switch.usage
  let operands := g.operands.map Operand.usage
  let line := start ++ Text.joinWith " " (program :: switches ++ operands)
  let column := start.length + program.length + 1
  let packed (indent : Nat) : List Text :=
    pack (lineLimit - indent) switches ++ pack (lineLimit - indent) operands
  let indented (indent : Nat) (lines : List Text) : Text :=
    Text.joinWith ("\n" ++ Text.spaces indent) lines
  capGaps <|
    if line.length ≤ lineLimit then line
    else if 4 * (start.length + program.length) ≤ 3 * lineLimit then
      start ++ program ++ " " ++ indented column (packed column)
    else
      let indent := start.length
      let joined := pack (lineLimit - indent) (switches ++ operands)
      start ++ indented indent (program :: if joined.length ≤ 1 then joined else packed indent)

/-- The text that refuses a command line. -/
def Grammar.refusal (g : Grammar α) (program : Text) (fault : Fault) : Text :=
  g.usage program ++ "\n" ++ program ++ ": error: " ++ fault.message

/-- One line of a section: what it explains, and the explanation. -/
structure Entry where
  indent : Nat := 2
  heading : Text
  about : Text := []
deriving DecidableEq, Repr

/-- The last column at which explanations may start. -/
def aboutLimit : Nat := 24

/-- The column at which the explanations of entries start. -/
def aboutColumn (entries : List Entry) : Nat :=
  min aboutLimit ((entries.map fun e => e.indent + e.heading.length + 2).foldl max 0)

/-- The lines of an entry.  The explanation starts below a heading that reaches
into its column. -/
def Entry.lines (column : Nat) (e : Entry) : List Text :=
  let start := Text.spaces e.indent ++ e.heading
  let about := (pack (lineLimit - column) (Text.splitOn ' ' e.about)).map (Text.spaces column ++ ·)
  match about with
  | first :: more =>
    if e.about = [] then [start]
    else if start.length + 2 ≤ column then (start ++ first.drop start.length) :: more
    else start :: about
  | [] => [start]

/-- What a screen says beyond the grammar. -/
structure Manual where
  description : Text
  /-- The commands that the program has, with what they do. -/
  commands : Entries Text := []
  closing : Text := []

/-- The operands that take a limited number of words are explained. -/
def Grammar.operandEntries (g : Grammar α) : List Entry :=
  (g.operands.filter (·.count ≠ .rest)).map fun o => { heading := o.placeholder, about := o.about }

/-- The explanations of the switches. -/
def Grammar.switchEntries (g : Grammar α) : List Entry :=
  g.switches.map fun s => { heading := s.heading, about := s.about }

/-- The explanations of the commands, below the operand that they are given as. -/
def Grammar.commandEntries (g : Grammar α) (manual : Manual) : List Entry :=
  let commands : List Entry :=
    manual.commands.map fun (name, about) => { indent := 4, heading := name, about }
  (g.operands.filter (·.count = .rest)).map (fun o => ({ heading := o.placeholder } : Entry))
    ++ commands

/-- A section with its title, if it has entries. -/
def sectionText (column : Nat) (title : Text) (entries : List Entry) : List Text :=
  if entries = [] then []
  else [Text.joinWith "\n" ((title ++ ":") :: entries.flatMap (Entry.lines column))]

/-- The screen of a program. -/
def Grammar.screen (g : Grammar α) (program : Text) (manual : Manual) : Text :=
  let operands := g.operandEntries
  let switches := g.switchEntries
  let commands := g.commandEntries manual
  let column := aboutColumn (operands ++ switches ++ commands)
  let blocks : List Text :=
    [g.usage program, manual.description] ++ sectionText column "positional arguments" operands
      ++ sectionText column "options" switches ++ sectionText column "commands" commands
      ++ (if manual.closing = [] then [] else [manual.closing])
  Text.joinWith "\n\n" blocks

/-! ## Asking a command line -/

/-- Why a command line asks for nothing that is to be done: it wants to see a
screen, or it is refused. -/
inductive Stop where
  | screen (text : Text)
  | refusal (text : Text)
deriving DecidableEq, Repr

/-- What a command line asks for: the items and the words left over, unless one of
the items is for a screen or there is a fault before that. -/
def Grammar.ask (g : Grammar α) (program : Text) (screen? : α → Option Text) (line : List Text) :
    Except Stop (List (Item α) × List Text) :=
  let reading := g.read line
  match reading.items.findSome? fun item => screen? item.part with
  | some text => .error (.screen text)
  | none =>
    match reading.outcome with
    | .error fault => .error (.refusal (g.refusal program fault))
    | .ok extras => .ok (reading.items, extras)

end CommandLine
end HelpPages
