import HelpPages.Value

/-! # How a table is drawn

A table has four choices, all off unless they are made: a border around it, a
frame around its cells, leaving out columns without text, and a rule under its
first row.  Choices come as named values; a name that is unknown or a value that
is no truth value is an error.
-/
namespace HelpPages
namespace Table

/-- How a table is drawn. -/
structure Config where
  border : Bool := false
  frame : Bool := false
  skipEmpty : Bool := false
  header : Bool := false
deriving DecidableEq, Repr

/-- The choices of a table. -/
inductive Choice where
  | border | frame | skipEmpty | header
deriving DecidableEq, Repr

/-- Why values do not make a configuration. -/
inductive ConfigError where
  /-- No choice has this field name. -/
  | unknownField (name : Text)
  /-- No choice has this name as an option. -/
  | unknownOption (name : Text)
  /-- The value of a choice is no truth value. -/
  | notBool (choice : Choice) (value : Value)

namespace Choice

/-- All choices, in the order in which their values are checked. -/
def all : List Choice := [border, frame, skipEmpty, header]

/-- The field name of a choice. -/
def name : Choice → Text
  | border => "draw_border"
  | frame => "draw_frame"
  | skipEmpty => "skip_empty_columns"
  | header => "use_header_row"

/-- The short name of a choice. -/
def shortName : Choice → Text
  | border => "border"
  | frame => "frame"
  | skipEmpty => "skipEmpty"
  | header => "headers"

/-- The choice with a field name. -/
def ofName? (name : Text) : Option Choice := all.find? (·.name = name)

/-- The choice with a field name or a short name. -/
def ofOption? (name : Text) : Option Choice :=
  all.find? fun choice => choice.name = name ∨ choice.shortName = name

end Choice

/-- The wording of an error.  There is none if the value that it shows has no text. -/
def ConfigError.message : ConfigError → Except Integer.Error Text
  | unknownField name => .ok ("Unknown table field: " ++ Text.quoted name)
  | unknownOption name => .ok ("Unknown table option: " ++ Text.quoted name)
  | notBool choice value => do
    return "TableConfig." ++ choice.name ++ " must be a bool, got " ++ (← value.literal?)

namespace Config

/-- The truth value that was given last for a choice, off if there is none. -/
def chosen (values : List (Choice × Value)) (choice : Choice) : Except ConfigError Bool :=
  match (values.filter (·.1 = choice)).getLast? with
  | none => .ok false
  | some (_, .bool b) => .ok b
  | some (_, value) => .error (.notBool choice value)

/-- The configuration that values for choices make. -/
def ofChoices (values : List (Choice × Value)) : Except ConfigError Config := do
  let border ← chosen values .border
  let frame ← chosen values .frame
  let skipEmpty ← chosen values .skipEmpty
  let header ← chosen values .header
  return { border, frame, skipEmpty, header }

/-- The configuration that named values make, given the choice of each name. -/
def ofNamed (choice? : Text → Option Choice) (unknown : Text → ConfigError)
    (values : Entries Value) : Except ConfigError Config := do
  ofChoices (← values.mapM fun (name, value) =>
    match choice? name with
    | some choice => .ok (choice, value)
    | none => .error (unknown name))

/-- The configuration that values under field names make. -/
def ofFields (fields : Entries Value) : Except ConfigError Config :=
  ofNamed Choice.ofName? .unknownField fields

/-- The configuration that values under field names or short names make. -/
def ofOptions (options : Entries Value) : Except ConfigError Config :=
  ofNamed Choice.ofOption? .unknownOption options

end Config

end Table
end HelpPages
