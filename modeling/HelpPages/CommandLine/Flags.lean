import HelpPages.CommandLine.Screen
import HelpPages.Log.Basic
import HelpPages.Settings

/-! # Flags

Some switches concern the program as a whole.  They may stand before or behind
the name of a command and its own words, so they are taken out first.
-/
namespace HelpPages
namespace CommandLine

/-- The switches of the program as a whole. -/
inductive Flag where
  | verbose | quiet | channel | noColor | settings
deriving DecidableEq, Repr

/-- The switches of the program as a whole in a larger grammar. -/
def flagSwitches {α : Type} (part : Flag → α) : List (Switch α) :=
  [{ part := part .verbose, names := ["--verbose", "-v"]
     about := "Increase verbosity (-v, -vv, -vvv)" },
    { part := part .quiet, names := ["--quiet", "-Q"]
      about := "Decrease verbosity (-Q, -QQ, -QQQ, -QQQQ=silent)" },
    { part := part .channel, names := ["--show"], arity := .optional
      placeholder := "CHANNEL[:LEVEL]"
      about := "Show output channel (bare --show lists channels)" },
    { part := part .noColor, names := ["--no-color"]
      about := "Disable colored output" },
    { part := part .settings, names := ["--config"], arity := .one, placeholder := "PATH"
      about := "Path to a project config file (default: nearest .dochelp.json)" }]

/-- The grammar that takes flags out of a command line. -/
def flagGrammar : Grammar Flag := { switches := flagSwitches id }

/-- The flags of a command line. -/
structure Flags where
  verbose : Nat := 0
  quiet : Nat := 0
  /-- The channels to show; the one without a name asks for their list. -/
  channels : List (Option Text) := []
  noColor : Bool := false
  /-- The settings file of the project, if the flag is given and has a path. -/
  settings : Option (Option Text) := none
deriving DecidableEq, Repr

namespace Flags

/-- The flags with one more. -/
def add (flags : Flags) (item : Item Flag) : Flags :=
  match item.part with
  | .verbose => { flags with verbose := flags.verbose + 1 }
  | .quiet => { flags with quiet := flags.quiet + 1 }
  | .channel => { flags with channels := flags.channels ++ [item.words.head?] }
  | .noColor => { flags with noColor := true }
  | .settings => { flags with settings := some item.words.head? }

/-- The flags of a command line and the words without them. -/
def read (program : Text) (line : List Text) : Except Stop (Flags × List Text) := do
  let (items, rest) ← flagGrammar.ask program (fun _ => none) line
  return (items.foldl add {}, rest)

/-- The flags ask for the list of channels. -/
def listsChannels (flags : Flags) : Bool := flags.channels.contains none

/-- The verbosity that the flags ask for. -/
def verbosity (flags : Flags) : Int := (flags.verbose : Int) - flags.quiet

/-- The log that the flags ask for. -/
def log (flags : Flags) : Except Integer.Error Log :=
  Log.ofSpecs flags.verbosity (flags.channels.filterMap id)

/-- What the flags say about settings. -/
def given (flags : Flags) : Settings.Given where
  noColor := flags.noColor
  file := (flags.settings.bind id).getD []

end Flags
end CommandLine
end HelpPages
