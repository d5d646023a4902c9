import HelpPages.Text.Quoted

/-! # Grammars of command lines

A command line is a list of words.  Its grammar names the switches, which may
stand anywhere and may take one word as their value, and the operands, which are
filled with other words from left to right.
-/
namespace HelpPages
namespace CommandLine

/-- A spelling is long if it starts with two dashes. -/
def isLong (name : Text) : Bool := ("--" : Text).isPrefixOf name

/-- How many words a switch takes as its value. -/
inductive Arity where
  | none | optional | one
deriving DecidableEq, Repr

/-- A switch: its spellings, a short one with one dash or a long one with two, and
its part in the grammar. -/
structure Switch (α : Type) where
  part : α
  names : List Text
  arity : Arity := .none
  /-- What stands for the value when the switch is shown. -/
  placeholder : Text := []
  about : Text

/-- How many words an operand takes. -/
inductive Count where
  | one | optional
  /-- One word and all that follow. -/
  | rest
deriving DecidableEq, Repr

/-- An operand and its part in the grammar. -/
structure Operand (α : Type) where
  part : α
  name : Text
  count : Count
  /-- What stands for the operand when it is shown. -/
  placeholder : Text
  /-- The words that the operand may start with; none means that all may. -/
  choices : List Text := []
  about : Text := []

/-- A grammar: its switches and its operands in their order. -/
structure Grammar (α : Type) where
  switches : List (Switch α)
  operands : List (Operand α) := []

/-- A part of a grammar as it was found on a command line, with its words. -/
structure Item (α : Type) where
  part : α
  words : List Text
deriving DecidableEq, Repr

variable {α : Type}

/-- The switch as complaints name it. -/
def Switch.label (s : Switch α) : Text := Text.joinWith "/" s.names

/-- The spellings of all switches with the switches that they belong to. -/
def Grammar.spellings (g : Grammar α) : List (Switch α × Text) :=
  g.switches.flatMap fun s => s.names.map fun name => (s, name)

/-- The switch with a spelling. -/
def Grammar.switch? (g : Grammar α) (name : Text) : Option (Switch α) :=
  (g.spellings.find? fun (_, n) => n = name).map Prod.fst

section Items
variable [DecidableEq α]

/-- The part was found. -/
def Item.isGiven (part : α) (items : List (Item α)) : Bool := items.any (·.part = part)

/-- The words of the part where it was found first. -/
def Item.wordsOf (part : α) (items : List (Item α)) : List Text :=
  ((items.find? (·.part = part)).map Item.words).getD []

end Items

/-- What is wrong with a command line. -/
inductive Fault where
  /-- A word is the beginning of several switches. -/
  | ambiguous (word : Text) (names : List Text)
  /-- Something is attached to a switch that takes no value. -/
  | attached (label text : Text)
  /-- A switch has no value. -/
  | noValue (label : Text)
  /-- An operand is none of its choices. -/
  | noChoice (name word : Text) (choices : List Text)
  /-- Operands are missing. -/
  | missing (names : List Text)
  /-- Words are left over. -/
  | leftOver (words : List Text)
deriving DecidableEq, Repr

/-- The wording of a fault. -/
def Fault.message : Fault → Text
  | ambiguous word names =>
    "ambiguous option: " ++ word ++ " could match " ++ Text.joinWith ", " names
  | attached label text =>
    "argument " ++ label ++ ": ignored explicit argument " ++ Text.quoted text
  | noValue label => "argument " ++ label ++ ": expected one argument"
  | noChoice name word choices =>
    "argument " ++ name ++ ": invalid choice: " ++ Text.quoted word ++ " (choose from "
      ++ Text.joinWith ", " (choices.map Text.quoted) ++ ")"
  | missing names => "the following arguments are required: " ++ Text.joinWith ", " names
  | leftOver words => "unrecognized arguments: " ++ Text.joinWith " " words

end CommandLine
end HelpPages
