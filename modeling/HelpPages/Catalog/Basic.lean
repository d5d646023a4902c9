import HelpPages.Catalog.Target

/-! # The catalog of commands

A catalog maps the names of commands to their targets in the order of their
registration.  The sub-commands of a command are the members of its target whose
names start with `execute_`; the rest of such a name, with dashes for its
underscores, is the name of the sub-command.
-/
namespace HelpPages

/-- The name with dashes for its underscores. -/
def dashed (name : Text) : Text := name.map fun (c : CodePoint) => if c = '_' then '-' else c

/-- The name with underscores for its dashes. -/
def underscored (name : Text) : Text := name.map fun (c : CodePoint) => if c = '-' then '_' else c

/-- The start of the names of members that are sub-commands. -/
def subCommandStart : Text := "execute_"

/-- The sub-command for the name of a member. -/
def subCommandName? (member : Text) : Option Text :=
  if subCommandStart.isPrefixOf member ∧ subCommandStart.length < member.length then
    some (dashed (member.drop subCommandStart.length))
  else none

/-- The registered commands, and the classes that are known by their names. -/
structure Catalog where
  commands : Entries Target := []
  classes : Entries Class := []

namespace Catalog

/-- Why a catalog does not do what it is asked for. -/
inductive Error where
  | unknownCommand (name : Text)
  | unknownSubCommand (sub name : Text)
  | duplicate (name : Text)
  /-- The target answers with an error of its own: its kind, and its wording. -/
  | raised (kind message : Text)
deriving DecidableEq, Repr

/-- The wording of an error. -/
def Error.message : Error → Text
  | unknownCommand name => "Command '" ++ name ++ "' does not exist"
  | unknownSubCommand sub name => "Sub command '" ++ sub ++ "' of '" ++ name ++ "' does not exist"
  | duplicate name => "Duplicate command name: " ++ name
  | raised _ message => message

/-- The names of the commands. -/
def names (c : Catalog) : List Text := c.commands.names

/-- The catalog with one more command; a name is given only once. -/
def register (name : Text) (target : Target) (c : Catalog) : Except Error Catalog :=
  if name ∈ c.names then .error (.duplicate name)
  else .ok { c with commands := c.commands ++ [(name, target)] }

/-- The catalog with a class known by its name; an earlier class of that name is
not known by it any more. -/
def define (k : Class) (c : Catalog) : Catalog :=
  { c with classes := Entries.put k.name k c.classes }

/-- The target of a command. -/
def get (c : Catalog) (name : Text) : Except Error Target :=
  match c.commands.get? name with
  | some target => .ok target
  | none => .error (.unknownCommand name)

/-- Sub-commands with what is said about them, and one more if the member is one
that can be called; the first member for a sub-command counts. -/
def addSource (c : Catalog) (target : Target) (sources : Entries Text) (member : Text) :
    Entries Text :=
  match subCommandName? member, target.reach? c.classes member with
  | some sub, some ⟨true, doc⟩ =>
    if sub ∈ sources.names then sources else sources ++ [(sub, doc)]
  | _, _ => sources

/-- What is said about each sub-command of a target. -/
def sourcesOf (c : Catalog) (target : Target) : Entries Text :=
  target.memberNames.foldl (c.addSource target) []

/-- What is said about each sub-command of a command. -/
def sources (c : Catalog) (name : Text) : Except Error (Entries Text) := do
  return c.sourcesOf (← c.get name)

/-- What is said about a command, or about one of its sub-commands.  An empty
name of a sub-command stands for the command itself. -/
def resolve (c : Catalog) (name : Text) (sub : Text) : Except Error Text := do
  let target ← c.get name
  if sub = [] then return target.doc
  match target.access c.classes (subCommandStart ++ underscored sub) with
  | .found ⟨true, doc⟩ => return doc
  | .raises kind message => throw (.raised kind message)
  | _ => throw (.unknownSubCommand sub name)

end Catalog
end HelpPages
