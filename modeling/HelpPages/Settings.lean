import HelpPages.Failure
import HelpPages.Json
import HelpPages.Text.Utf8

/-! # Settings

Every setting has a default and may be given in three layers: on the command
line, in the settings file of the project and in that of the user.  The first
layer with a value that is not null counts.  A name with underscores may also be
written with dashes.
-/
namespace HelpPages

/-- The settings of the program. -/
structure Settings where
  color : Value
  programName : Value
  token : Value
  indent : Value

namespace Settings

/-- The name of the settings file of a project. -/
def fileName : Text := ".dochelp.json"

/-- The names of the settings with their default values. -/
def defaults : Entries Value :=
  [("color", .bool true), ("program_name", .null), ("substitution_token", .text "$0"),
    ("indent", .int 2)]

/-- The settings that values under their names make. -/
def ofEntries (entries : Entries Value) : Settings :=
  let value (name : Text) : Value := (Entries.get? name entries).getD .null
  { color := value "color", programName := value "program_name"
    token := value "substitution_token", indent := value "indent" }

/-- Where the program is run. -/
structure Place where
  files : FileTree := {}
  here : Location := []
  home : Location := []
  /-- How many lists and maps may be in each other in a settings file: as many as the interpreter
  can follow from where the program reads it. -/
  depth : Nat := 988

namespace Place

/-- The directories in which a settings file of the project is looked for: the
starting one and its ancestors, twenty at most. -/
def searched (start : Location) : List Location :=
  ((List.range (start.length + 1)).map fun n => start.take (start.length - n)).take 20

/-- The settings file of the project nearest to a directory. -/
def projectFile? (p : Place) (start : Text) : Except Failure (Option Location) := do
  let _ ← ((Path.names start).mapM FileTree.checkForm).mapError .file
  (p.files.firstFile? ((searched (Path.resolve p.here start)).map (· ++ [fileName]))).mapError .file

/-- The settings file of the user. -/
def userFile (p : Place) : Location :=
  let names : List Text := [".dochelp", "config.json"]
  p.home ++ names

/-- The map in a settings file.  A file that is missing, that is no document or
that holds something else is an empty map. -/
def readMap (p : Place) (path : Text) : Except Failure (Entries Value) :=
  match p.files.read p.here path with
  | .error (.missing _) => .ok []
  | .error e => .error (.file e)
  | .ok bytes =>
    match Text.ofUtf8? bytes with
    | none => .error .undecodable
    | some text =>
      match Json.read p.depth text with
      | .ok (.map entries) => .ok entries
      | .ok _ => .ok []
      | .error .malformed => .ok []
      | .error (.integer e) => .error (.number e)
      | .error .tooDeep => .error .tooDeep

/-- The map in the settings file of the project nearest to a directory, and the
path of the file. -/
def readProject (p : Place) (start : Text) : Except Failure (Entries Value × Option Text) := do
  match ← p.projectFile? start with
  | none => return ([], none)
  | some l => return (← p.readMap l.text, some l.text)

/-- The map in the settings file of the user. -/
def readUser (p : Place) : Except Failure (Entries Value) := p.readMap p.userFile.text

end Place

/-- What the command line says about settings: to use no colours, and which file
is that of the project. -/
structure Given where
  noColor : Bool := false
  file : Text := []
deriving DecidableEq, Repr

/-- A layer of values, with its name. -/
abbrev Layer := Text × Entries Value

/-- The value of a setting in a layer, under the name with underscores if it is
there and else under the one with dashes. -/
def inLayer (name : Text) (layer : Entries Value) : Value :=
  match layer.get? name with
  | some v => v
  | none => (layer.get? (dashed name)).getD .null

/-- The first value of a setting that is not null, and the name of its layer. -/
def firstValue? (name : Text) : List Layer → Option (Text × Value)
  | [] => none
  | (source, layer) :: layers =>
    match inLayer name layer with
    | .null => firstValue? name layers
    | v => some (source, v)

/-- The value of a setting. -/
def valueOf (layers : List Layer) (setting : Text × Value) : Value :=
  match firstValue? setting.1 layers with
  | some (_, v) => v
  | none => setting.2

/-- The template of the remark on where the value of a setting comes from. -/
def valueTemplate : Text := "config \x7bkey\x7d=\x7bvalue!r\x7d (\x7bsource\x7d)"

/-- The template of the remark on the settings file of the project. -/
def fileTemplate : Text := "project config: \x7bpath\x7d"

/-- The remarks on where the values of settings come from. -/
def tellSources (layers : List Layer) : Entries Value → Run Failure Unit
  | [] => return ()
  | setting :: settings => do
    if let some (source, v) := firstValue? setting.1 layers then
      Run.emit 2 "config" valueTemplate
        [("key", .text setting.1), ("value", v), ("source", .text source)]
    tellSources layers settings

/-- The remark on the settings file of the project, if there is one. -/
def tellFile (path : Option Text) : Run Failure Unit :=
  match path with
  | none => return ()
  | some path => Run.emit 2 "config" fileTemplate [("path", .text path)]

/-- The layers of settings, and the path of the file of the project. -/
def layers (p : Place) (given : Given) (start : Text) :
    Except Failure (List Layer × Option Text) := do
  let (project, path) ←
    if given.file = [] then p.readProject start
    else do pure (← p.readMap given.file, some (Path.normal given.file))
  let user ← p.readUser
  let commandLine : Entries Value := if given.noColor then [("color", .bool false)] else []
  return ([("cli", commandLine), ("project", project), ("global", user)], path)

/-- The values of all settings under their names, with the remarks on where they
come from. -/
def resolve (p : Place) (given : Given) (start : Text) : Run Failure (Entries Value) := do
  let (layers, path) ← Run.ofExcept (layers p given start)
  tellSources layers defaults
  tellFile path
  return defaults.map fun setting => (setting.1, valueOf layers setting)

end Settings
end HelpPages
