import HelpPages.CommandLine.Flags
import HelpPages.Command.Help
import HelpPages.Command.Table
import HelpPages.Version

/-! # Commands on the command line

Without its flags a command line names a command, and the words behind the name
are read by the grammar of the command.
-/
namespace HelpPages

/-- A command and what it is asked for. -/
inductive Command where
  /-- The help for a command or one of its sub-commands, or the list of all. -/
  | help (command subCommand : Option Text)
  | table (request : Table.Request)
deriving DecidableEq, Repr

namespace CommandLine

/-- The switch that asks for a screen. -/
def helpSwitch {α : Type} (part : α) : Switch α where
  part := part
  names := ["-h", "--help"]
  about := "show this help message and exit"

/-! ## The help command -/

/-- The parts of the grammar of the help command. -/
inductive HelpPart where
  | screen | command | subCommand
deriving DecidableEq, Repr

/-- The grammar of the help command. -/
def helpGrammar : Grammar HelpPart where
  switches := [helpSwitch .screen]
  operands :=
    [{ part := .command, name := "command", count := .optional, placeholder := "command"
       about := "Command to show help for" },
      { part := .subCommand, name := "sub_command", count := .optional
        placeholder := "sub_command", about := "Sub command to show help for" }]

/-- The name of the help command. -/
def helpName : Text := "help"

/-- What the help command does, in one line. -/
def helpSummary : Text := "Show the list of commands or help for one command"

/-- How the help command is called. -/
def helpProgram : Text := programName ++ " " ++ helpName

/-- The screens that the help command shows. -/
def helpScreen? : HelpPart → Option Text
  | .screen => some (helpGrammar.screen helpProgram { description := helpSummary ++ "." })
  | _ => none

/-- What the help command is asked for, and the words left over. -/
def readHelp (line : List Text) : Except Stop (Command × List Text) := do
  let (items, extras) ← helpGrammar.ask helpProgram helpScreen? line
  let given (part : HelpPart) : Option Text := (Item.wordsOf part items).head?
  return (.help (given .command) (given .subCommand), extras)

/-! ## The table command -/

/-- The parts of the grammar of the table command. -/
inductive TablePart where
  | screen | border | frame | header | skipEmpty | format | file
deriving DecidableEq, Repr

/-- The formats in their order. -/
def formats : List Table.Format := [.csv, .tsv]

/-- The grammar of the table command. -/
def tableGrammar : Grammar TablePart where
  switches :=
    [helpSwitch .screen,
      { part := .border, names := ["--border", "-b"], about := "Draw an outer border" },
      { part := .frame, names := ["--frame", "-f"], about := "Draw rules between the cells" },
      { part := .header, names := ["--header"], about := "Draw a rule under the first row" },
      { part := .skipEmpty, names := ["--skip-empty"]
        about := "Leave out columns without any text" }]
  operands :=
    [{ part := .format, name := "format", count := .one, choices := formats.map Table.Format.name
       placeholder := "\x7b" ++ Text.joinWith "," (formats.map Table.Format.name) ++ "\x7d"
       about := "Input format" },
      { part := .file, name := "file", count := .optional, placeholder := "file"
        about := "Input file (default: stdin)" }]

/-- The name of the table command. -/
def tableName : Text := "table"

/-- What the table command does, in one line. -/
def tableSummary : Text := "Render CSV or TSV rows as a text table"

/-- How the table command is called. -/
def tableProgram : Text := programName ++ " " ++ tableName

/-- The screens that the table command shows. -/
def tableScreen? : TablePart → Option Text
  | .screen => some (tableGrammar.screen tableProgram { description := tableSummary ++ "." })
  | _ => none

/-- The format with the name that was found; the grammar lets only formats
through. -/
def formatOf (items : List (Item TablePart)) : Table.Format :=
  (formats.find? fun f => Item.wordsOf .format items = [f.name]).getD .csv

/-- What the table command is asked for, and the words left over. -/
def readTable (line : List Text) : Except Stop (Command × List Text) := do
  let (items, extras) ← tableGrammar.ask tableProgram tableScreen? line
  let config : Table.Config :=
    { border := Item.isGiven .border items, frame := Item.isGiven .frame items
      skipEmpty := Item.isGiven .skipEmpty items, header := Item.isGiven .header items }
  return (.table { format := formatOf items, file := (Item.wordsOf .file items).head?, config },
    extras)

/-! ## All commands -/

/-- The parts of the grammar of a whole command line. -/
inductive Part where
  | screen | version
  | flag (f : Flag)
  | command
deriving DecidableEq, Repr

/-- The commands with what they do. -/
def summaries : Entries Text := [(helpName, helpSummary), (tableName, tableSummary)]

/-- The grammar of a whole command line. -/
def grammar : Grammar Part where
  switches :=
    [helpSwitch .screen,
      { part := .version, names := ["--version", "-V"]
        about := "show program's version number and exit" }]
    ++ flagSwitches .flag
  operands :=
    [{ part := .command, name := "<command>", count := .rest, placeholder := "<command>"
       choices := summaries.names }]

/-- What the screen of the program says beyond the grammar. -/
def manual : Manual where
  description := "dochelp: doc-comment driven help and text tables"
  commands := summaries
  closing :=
    Text.joinWith "\n" [
      "Run 'dochelp help <command>' for details on a specific command.",
      "",
      "Global flags (--verbose, --no-color, --config) can appear",
      "before or after the subcommand."]

/-- The screen of the program. -/
def mainScreen : Text := grammar.screen programName manual

/-- The screens that the program shows. -/
def screen? : Part → Option Text
  | .screen => some mainScreen
  | .version => some (programName ++ " " ++ Version.current.text)
  | _ => none

/-- The command that is named by the first of some words, and the words left
over. -/
def readCommand : List Text → Except Stop (Command × List Text)
  | [] => .error (.screen mainScreen)
  | name :: line => if name = tableName then readTable line else readHelp line

end CommandLine

open CommandLine

/-- The command that a command line without flags asks for.  An empty one asks for
the list of all commands. -/
def Command.read (line : List Text) : Except Stop Command := do
  let line := if line = [] then [helpName] else line
  let (items, extras) ← grammar.ask programName screen? line
  match Item.wordsOf .command items with
  | [] =>
    if extras = [] then throw (.screen mainScreen)
    else throw (.refusal (grammar.refusal programName (.leftOver extras)))
  | words => do
    let (command, more) ← readCommand words
    if extras ++ more = [] then return command
    else throw (.refusal (grammar.refusal programName (.leftOver (extras ++ more))))

end HelpPages
