import HelpPages.Catalog.Run
import HelpPages.Output
import HelpPages.Settings

/-! # The help command

Without the name of a command it lists all commands; otherwise it shows the page
of the command, or of one of its sub-commands.
-/
namespace HelpPages

/-- The renderer that settings describe. -/
def Settings.renderer (s : Settings) : Except Failure Renderer :=
  Renderer.ofIndent ⟨s.color.isTruthy⟩ s.indent

namespace Help

/-- What the help command is asked for. -/
structure Request where
  /-- The command; an empty name asks for the list. -/
  command : Text := []
  subCommand : Option Text := none
  /-- The name of the program. -/
  program : Value
  settings : Settings
  sink : Sink := .utf8

/-- The block that shows how the program is called. -/
def usage (pen : Pen) (program : Value) : Except Failure Text := do
  let name ← program.plain?.mapError .number
  return pen.heading "Usage:" ++ "\n  " ++ name ++ " command [arguments]\n"

/-- The list of all commands. -/
def showCommands (c : Catalog) (r : Request) : Run Failure Unit := do
  Run.write r.sink (← Run.ofExcept (usage ⟨r.settings.color.isTruthy⟩ r.program))
  let renderer ← Run.ofExcept r.settings.renderer
  let commands ← c.shortDescriptions (Reader.ofValues r.settings.token r.program)
  let text ← renderer.drawCommandList commands
  Run.write r.sink (Text.dropEndWhile (·.is '\n') text)
  Run.hint Hint.details.id "result" [("prog", r.program)]

/-- The page of a command or of one of its sub-commands. -/
def showPage (c : Catalog) (r : Request) : Run Failure Unit := do
  let page ← c.loadPage (Reader.ofValues r.settings.token r.program) r.command r.subCommand
  let renderer ← Run.ofExcept r.settings.renderer
  let text ← renderer.draw page
  Run.write r.sink text
  if page.subCommands ≠ [] then
    Run.hint Hint.subCommands.id "result" [("prog", r.program), ("command", .text r.command)]

/-- The help command. -/
def run (c : Catalog) (r : Request) : Run Failure Unit :=
  if r.command = [] then showCommands c r else showPage c r

/-- What is said about the help command. -/
def doc : Text :=
  Text.joinWith "\n" [
    "Displays the list of commands and help for a command.",
    "",
    "Help is read from the documentation of each command. Without arguments",
    "the available commands are listed with their short descriptions.",
    "",
    "@usage $0 help [command] [sub_command]",
    "@arg command      The command name",
    "@arg sub_command  A sub command of the command",
    "",
    "@example `$0 help`            Show a list of all commands",
    "@example `$0 help help`       Display help for the help command",
    "@example `$0 help table csv`  Display help for the csv sub command of table"]

/-- The help command in a catalog. -/
def target : Target := .module (some doc) []

end Help
end HelpPages
