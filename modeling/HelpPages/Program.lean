import HelpPages.CommandLine.Command

/-! # The program

A call of the program has a command line, a place in a file tree and a standard
input.  It ends with an exit code or with a failure that the program does not
report itself, after writing one text to its output and one for errors.
-/
namespace HelpPages

/-- A call of the program. -/
structure Call where
  line : List Text
  /-- The name that the program goes by in help; none leaves it to the settings and
  to the path. -/
  program : Text := []
  /-- The path by which the program was started. -/
  path : Text := []
  place : Settings.Place := {}
  input : Input := .bytes []
  /-- What takes the output. -/
  sink : Sink := .utf8

/-- How a call ends. -/
inductive Ending where
  | exit (code : Nat)
  | failure (e : Failure)
deriving DecidableEq, Repr

/-- What a call leaves behind: its ending, its output and its errors. -/
structure Report where
  ending : Ending
  output : Text := []
  errors : Text := []
deriving DecidableEq, Repr

/-- The names of a path by which nobody would call a program. -/
def namelessStarts : List Text := ["", "__main__.py", "-m", "-c"]

/-- The name by which the program was started. -/
def startedName (path : Text) : Text :=
  let name := Path.lastName path
  if name ∈ namelessStarts then programName else name

/-- The commands of the program. -/
def standardCommands : List (Text × Target) :=
  [(CommandLine.helpName, Help.target), (CommandLine.tableName, Table.target)]

/-- The catalog with commands added to it, told to the log. -/
def Catalog.registerAll (c : Catalog) : List (Text × Target) → Run Failure Catalog
  | [] => return c
  | (name, target) :: commands => do (← c.registerTold name target).registerAll commands

/-- A command as it is run: the program by its name, with settings. -/
def Command.run (c : Catalog) (call : Call) (program : Value) (settings : Settings) :
    Command → Run Failure Unit
  | .help command subCommand =>
    Help.run c { command := command.getD [], subCommand, program, settings, sink := call.sink }
  | .table request =>
    Table.run call.place.files call.place.here call.input call.sink request

/-- An error for the log. -/
def tellError (message : Text) : Run Failure Unit :=
  Run.emit Log.errorLevel "error" ("ERROR: " ++ message) []

/-- The exit code of a command that failed, with the report on it.  Some failures
are not reported. -/
def reportFailure (sink : Sink) (program : Value) (e : Failure) : Run Failure Nat :=
  match e with
  | .catalog (.unknownCommand _) | .catalog (.unknownSubCommand ..) => do
    tellError e.message
    Run.hint Hint.list.id "error" [("prog", program)]
    return 1
  | .file f =>
    if f.isOfSystem then do
      tellError e.message
      return 1
    else Run.fail e
  | .interrupted => do
    Run.write sink "\nInterrupted."
    return 130
  | _ => Run.fail e

namespace Call

/-- The name of the program for a call with settings. -/
def programValue (call : Call) (settings : Settings) : Value :=
  if call.program ≠ [] then .text call.program
  else if settings.programName.isTruthy then settings.programName
  else .text (startedName call.path)

/-- The exit code for a command. -/
def runCommand (call : Call) (settings : Settings) (command : Command) : Run Failure Nat := do
  let program := call.programValue settings
  let catalog ← Catalog.registerAll {} standardCommands
  Run.recover (do command.run catalog call program settings; return 0)
    (reportFailure call.sink program)

/-- The exit code for the words behind the flags. -/
def runLine (call : Call) (flags : CommandLine.Flags) (line : List Text) : Run Failure Nat := do
  let values ← Settings.resolve call.place flags.given []
  match Command.read line with
  | .error (.screen text) => do
    Run.write call.sink text
    return 0
  | .error (.refusal text) => do
    Run.complain text
    return 2
  | .ok command => call.runCommand (Settings.ofEntries values) command

/-- How a call ends that comes to an exit code or fails. -/
def endingOf : Except Failure Nat → Ending
  | .ok code => .exit code
  | .error e => .failure e

/-- The report on a run whose messages go to a log. -/
def reportOn (log : Log) (run : Run Failure Nat) : Report :=
  let (outcome, console) := run.perform { log }
  { ending := endingOf outcome, output := console.output, errors := console.log.text }

/-- The report on a call. -/
def run (call : Call) : Report :=
  match CommandLine.Flags.read (Path.baseName call.path) call.line with
  | .error (.screen text) => { ending := .exit 0, output := text ++ "\n" }
  | .error (.refusal text) => { ending := .exit 2, errors := text ++ "\n" }
  | .ok (flags, line) =>
    if flags.listsChannels then { ending := .exit 0, output := Channel.listing ++ "\n" }
    else
      match flags.log with
      | .error e =>
        { ending := .exit 2, errors := "ERROR: invalid --show value: " ++ e.message ++ "\n" }
      | .ok log => reportOn log (call.runLine flags line)

/-! ## What a call reads -/

/-- The paths of the settings files that a call may read. -/
def settingsPaths (call : Call) (given : Settings.Given) : List Text :=
  let file (directory : Location) : Text := Location.text (directory ++ [Settings.fileName])
  let project :=
    if given.file = [] then (Settings.Place.searched call.place.here).map file else [given.file]
  call.place.userFile.text :: project

/-- The command of a call, with the paths of its settings files. -/
def plan? (call : Call) : Option (List Text × Option Command) :=
  match CommandLine.Flags.read (Path.baseName call.path) call.line with
  | .error _ => none
  | .ok (flags, line) => some (call.settingsPaths flags.given, (Command.read line).toOption)

/-- The paths of the files that a call may read. -/
def paths (call : Call) : List Text :=
  match call.plan? with
  | some (settings, some (.table request)) => settings ++ request.file.toList
  | some (settings, _) => settings
  | none => []

/-- A call may read its standard input. -/
def readsInput (call : Call) : Bool :=
  match call.plan? with
  | some (_, some (.table request)) => request.file.isNone
  | _ => false

end Call
end HelpPages
