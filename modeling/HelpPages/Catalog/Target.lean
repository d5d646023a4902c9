import HelpPages.Catalog.Docstring
import HelpPages.Value

/-! # Documented targets

A command is documented by a text, a function, a module or a class.  Modules,
functions and classes have members with documentation of their own; a class also
has the members of its bases.  The line of a class lists it and its ancestors so
that every class comes before its bases and bases keep their order.  Modules and
classes may answer for names that no member has: a module by a function of its
own, a class by the members of its own class.
-/
namespace HelpPages

/-- What a member of a target is. -/
inductive Member.Kind where
  /-- A function; in a class, a method of its instances. -/
  | function
  /-- A method that belongs to the class. -/
  | classMethod
  /-- A function that does not know the class. -/
  | staticMethod
  | type
  /-- An object that can be called. -/
  | callable
  /-- An object that cannot be called. -/
  | value
deriving DecidableEq, Repr

/-- A member of a target, with what is said about it. -/
structure Member where
  kind : Member.Kind
  doc : Option Text := none
deriving DecidableEq, Repr

/-- A class with its number, its name, its own members and its ancestors in
order. -/
inductive Class where
  | mk (number : Nat) (name : Text) (doc : Option Text) (members : Entries Member)
    (ancestors : List Class)

namespace Class

/-- The number that tells a class from all others. -/
def number : Class → Nat
  | mk number _ _ _ _ => number

/-- The name under which the class was made. -/
def name : Class → Text
  | mk _ name _ _ _ => name

/-- What is said about the class itself. -/
def doc : Class → Option Text
  | mk _ _ doc _ _ => doc

/-- The members that the class defines itself. -/
def members : Class → Entries Member
  | mk _ _ _ members _ => members

/-- The other classes in the line of a class. -/
def ancestors : Class → List Class
  | mk _ _ _ _ ancestors => ancestors

/-- A class and its ancestors. -/
def line (c : Class) : List Class := c :: c.ancestors

/-- The member with a name, and the class that defines it: the first one in the
line that has such a member. -/
def find? (c : Class) (name : Text) : Option (Class × Member) :=
  c.line.findSome? fun k => (k.members.get? name).map fun m => (k, m)

/-- The first class among the heads of some lines that is in the rest of none. -/
def nextInLine? (lines : List (List Class)) : Option Class :=
  (lines.filterMap List.head?).find? fun c =>
    lines.all fun l => l.tail.all fun k => k.number ≠ c.number

/-- A line without a class at its head. -/
def dropHead (c : Class) : List Class → List Class
  | [] => []
  | k :: ks => if k.number = c.number then ks else k :: ks

/-- Lines merged into one that keeps the order of each of them, in at most
`steps` classes; none if their orders contradict each other. -/
def mergeLines : Nat → List (List Class) → Option (List Class)
  | 0, lines => if lines.all List.isEmpty then some [] else none
  | steps + 1, lines =>
    if lines.all List.isEmpty then some []
    else
      match nextInLine? lines with
      | none => none
      | some c => (mergeLines steps (lines.map (dropHead c))).map (c :: ·)

/-- The ancestors of a class with some bases. -/
def ancestorsOf? (bases : List Class) : Option (List Class) :=
  let lines := bases.map line ++ [bases]
  mergeLines lines.flatten.length lines

/-- The first thing that is said about a name along the line of a class, where
each class answers for the members it has or inherits. -/
def inheritedDoc? (c : Class) (name : Text) : Option Text :=
  c.line.findSome? fun k => (k.find? name).bind fun (_, m) => m.doc

/-- The class that answers for a member that a class defines: the one that bears
the name of the class now, if the member is what it has or inherits under its
name.  A name with a point in it leads to no class. -/
def answering? (known : Entries Class) (definer : Class) (member : Text) : Option Class := do
  if definer.name.contains '.' || member.contains '.' then none
  let c ← Entries.get? definer.name known
  let (owner, _) ← c.find? member
  if owner.number = definer.number then some c else none

end Class

/-- A member as it is reached through its target: whether it can be called, and
what is said about it. -/
structure Target.Reached where
  callable : Bool
  doc : Text
deriving DecidableEq, Repr

/-- What a target answers to a name. -/
inductive Target.Answer where
  | nothing
  | found (r : Reached)
  /-- An error of its own: its kind, and its wording. -/
  | raises (kind message : Text)
deriving DecidableEq, Repr

/-- What documents a command.  The answers of a module and of a class to names that none of
their members has are given for themselves. -/
inductive Target where
  | text (doc : Text)
  | function (doc : Option Text) (members : Entries Member)
  | module (doc : Option Text) (members : Entries Member)
    (beyond : Text → Target.Answer := fun _ => .nothing)
  | type (c : Class) (beyond : Text → Target.Answer := fun _ => .nothing)

namespace Target

/-- The text of a docstring, if there is one. -/
def docText (doc : Option Text) : Text := (doc.map Docstring.clean).getD []

/-- A member that is reached without a class. -/
def reachPlain (m : Member) : Reached where
  callable :=
    match m.kind with
    | .classMethod | .value => false
    | _ => true
  doc := docText m.doc

/-- A member reached through a class.  A method about which nothing is said takes
over what is said about it along the line of the class that answers for it, or of
the class itself for a method that belongs to the class. -/
def reachIn (known : Entries Class) (c definer : Class) (name : Text) (m : Member) :
    Reached where
  callable := m.kind ≠ .value
  doc :=
    match m.kind with
    | .function | .staticMethod =>
      docText (m.doc <|> (Class.answering? known definer name).bind fun k => k.inheritedDoc? name)
    | .classMethod => docText (m.doc <|> c.inheritedDoc? name)
    | _ => docText m.doc

/-- The member of a target with a name, where classes are known by their names. -/
def reach? (known : Entries Class) (target : Target) (name : Text) : Option Reached :=
  match target with
  | text _ => none
  | function _ members | module _ members _ => (members.get? name).map reachPlain
  | type c _ => (c.find? name).map fun (definer, m) => reachIn known c definer name m

/-- What a target answers to a name that none of its members has. -/
def beyond : Target → Text → Answer
  | module _ _ beyond | type _ beyond => beyond
  | _ => fun _ => .nothing

/-- What a target answers to a name. -/
def access (known : Entries Class) (target : Target) (name : Text) : Answer :=
  match target.reach? known name with
  | some r => .found r
  | none => target.beyond name

/-- The documentation of a target itself. -/
def doc : Target → Text
  | text doc => doc
  | function doc _ | module doc _ _ => docText doc
  | type c _ => docText (c.line.findSome? Class.doc)

/-- The names of the members that may be sub-commands, in the order in which they
are listed: those of a class before those of its ancestors. -/
def memberNames : Target → List Text
  | module _ members _ => members.names
  | type c _ => c.line.flatMap fun k => k.members.names
  | _ => []

end Target
end HelpPages
