import HelpPages.Number.Integer
import HelpPages.Value

/-! # Channels

Messages are sorted into channels.  The log shows a channel up to a threshold,
which is the verbosity of the log unless the channel has a level of its own.
-/
namespace HelpPages
namespace Channel

/-- The known channels in alphabetical order, with what they show. -/
def known : List (String × String) :=
  [("catalog", "Command registration and doc-source lookups"),
    ("config", "Settings resolution"),
    ("error", "Error messages"),
    ("general", "General output"),
    ("hint", "Contextual tips and suggestions"),
    ("parse", "Doc-comment line classification"),
    ("render", "Table layout and help rendering"),
    ("trace", "Function call tracing (opt-in)")]

/-- The text that lists the known channels. -/
def listing : Text :=
  Text.joinWith "\n" ("Available channels:" :: known.map fun (name, description) =>
    "  " ++ Text.padRight 7 name ++ "  " ++ description)

/-- A level for one channel. -/
structure Spec where
  name : Text
  level : Int
deriving DecidableEq, Repr

/-- The name before the first colon, and the level behind it; a level that is
missing or empty is zero. -/
def Spec.ofText (t : Text) : Except Integer.Error Spec :=
  let name := t.takeWhile (!·.is ':')
  match (t.dropWhile (!·.is ':')).drop 1 with
  | [] => .ok ⟨name, 0⟩
  | level => do return ⟨name, ← Integer.ofText? level⟩

end Channel

/-- The levels of channels that differ from the verbosity of the log. -/
abbrev Levels := Entries Int

namespace Levels

/-- The levels that specifications set; tracing is off unless one of them is
for it. -/
def ofSpecs (specs : List Text) : Except Integer.Error Levels := do
  let specs ← specs.mapM Channel.Spec.ofText
  return specs.foldl (fun levels spec => Entries.put spec.name spec.level levels) [("trace", -1)]

end Levels
end HelpPages
