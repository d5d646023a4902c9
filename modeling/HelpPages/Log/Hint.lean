import HelpPages.Template.Fill

/-! # Hints

A hint is a tip for certain occasions, shown at most once in a log.  Hints are
registered under their names; a name that is registered again keeps its place.
-/
namespace HelpPages

/-- A tip. -/
structure Hint where
  id : Text
  /-- The template of the text. -/
  message : Text
  /-- The occasions on which the hint may be shown. -/
  contexts : List Text := ["verbose"]
  /-- The least threshold at which the hint is shown. -/
  minLevel : Int := 1
  category : Text := "general"
deriving DecidableEq, Repr

/-- The registered hints. -/
abbrev Hints := Entries Hint

namespace Hints

/-- The hints with one more. -/
def register (hint : Hint) (hints : Hints) : Hints := Entries.put hint.id hint hints

/-- The hints of a category in the order of their registration. -/
def ofCategory (category : Text) (hints : Hints) : List Hint :=
  (hints.map Prod.snd).filter (·.category = category)

end Hints

namespace Hint

/-- How to see the help for a command. -/
def details : Hint where
  id := "help.details"
  message := "Run '\x7bprog\x7d help <command>' for details on a command."
  contexts := ["result"]
  minLevel := 0
  category := "help"

/-- How to see the commands there are. -/
def list : Hint where
  id := "help.list"
  message := "Run '\x7bprog\x7d help' to list the available commands."
  contexts := ["error"]
  minLevel := 0
  category := "help"

/-- How to see the help for a sub-command. -/
def subCommands : Hint where
  id := "help.sub_commands"
  message :=
    "Run '\x7bprog\x7d help \x7bcommand\x7d <sub command>' for details on a sub command."
  contexts := ["result"]
  minLevel := 1
  category := "help"

/-- How to set the first row of a table apart. -/
def header : Hint where
  id := "table.header"
  message := "Tip: Use --header to draw a rule under the first row."
  contexts := ["verbose"]
  minLevel := 1
  category := "table"

end Hint

/-- The hints of the program itself. -/
def Hints.standard : Hints :=
  let all : List Hint := [.details, .list, .subCommands, .header]
  all.foldl (fun hints h => hints.register h) []

end HelpPages
