import HelpPages.Template.Method
import HelpPages.Template.Spec

/-! # What a field can name

A field names a value, or by steps from there an element of it or one of its
properties.  All values have a kind and its documentation, numbers have their
parts, and the kinds have a name, a parent and a line of ancestors.  All other
properties are methods.
-/
namespace HelpPages
namespace Template

/-- How a field gets from one item to the next: by a property or by an index. -/
inductive Step where
  | property (name : Text)
  | index (name : Text)
deriving DecidableEq, Repr

/-- What a field can name. -/
inductive Item where
  | value (v : Value)
  | kind (k : Value.Kind)
  | kinds (ks : List Value.Kind)

namespace Item

/-- The literal of an item. -/
def literal : Item → Except Error Text
  | value v => v.literal?.mapError .ofInteger
  | kind k => .ok k.literal
  | kinds [k] => .ok ("(" ++ k.literal ++ ",)")
  | kinds ks => .ok ("(" ++ Text.joinWith ", " (ks.map Value.Kind.literal) ++ ")")

/-- The plain text of an item. -/
def plain : Item → Except Error Text
  | value v => v.plain?.mapError .ofInteger
  | item => item.literal

/-- The kind of an item. -/
def kindOf : Item → Value.Kind
  | value v => v.kind
  | kind _ => .type
  | kinds _ => .sequence

/-- A text, or nothing, as an item. -/
def ofText? (t : Option Text) : Item := value ((t.map Value.text).getD .null)

/-- The parts of a number: the numerator and the denominator of an integer, and
the real and the imaginary part of any number. -/
def numberPart? (v : Value) (name : String) : Option Value :=
  let integer (i : Int) : Option Value :=
    match name with
    | "real" | "numerator" => some (.int i)
    | "imag" => some (.int 0)
    | "denominator" => some (.int 1)
    | _ => none
  match v with
  | .int i => integer i
  | .bool b => integer (if b then 1 else 0)
  | .float _ =>
    match name with
    | "real" => some v
    | "imag" => some (.float (.finite false 0 0))
    | _ => none
  | _ => none

/-- A property of a kind. -/
def kindProperty? (k : Value.Kind) : String → Option Item
  | "__name__" | "__qualname__" => some (value (.text k.name))
  | "__module__" => some (value (.text "builtins"))
  | "__doc__" => some (ofText? k.documentation?)
  | "__base__" => some ((k.parent?.map kind).getD (value .null))
  | "__bases__" => some (kinds k.parent?.toList)
  | "__mro__" => some (kinds k.line)
  | "__hash__" => if k.isHashable then none else some (value .null)
  | _ => none

/-- A property of an item. -/
def property? (item : Item) (name : String) : Option Item :=
  if name = "__class__" then some (kind item.kindOf)
  else
    match item with
    | kind k => kindProperty? k name
    | item =>
      if name = "__doc__" then some (ofText? item.kindOf.documentation?)
      else if name = "__hash__" ∧ !item.kindOf.isHashable then some (value .null)
      else
        match item with
        | value v => (numberPart? v name).map value
        | _ => none

/-- The property of an item is a method.  A kind has its own methods, and those of its values
as properties. -/
def hides (item : Item) (name : String) : Bool :=
  item.kindOf.methods.contains name ||
    match item with
    | kind k => (k.methods ++ k.partNames).contains name
    | _ => false

end Item

/-- The number that a whole text is, if it is digits only. -/
def wholeNumber? (t : Text) : Except Error (Option Nat) := do
  let (number, rest) ← number t
  return if rest = [] then number else none

namespace Item

/-- The element of an item at an index.  Digits are the place of an element, and
any other text is a name. -/
def element (item : Item) (name : Text) : Except Error Item := do
  match item, ← wholeNumber? name with
  | value (.list items), some n =>
    match items[n]? with
    | some v => return value v
    | none => throw .outOfRange
  | value (.text t), some n =>
    match t[n]? with
    | some c => return value (.text [c])
    | none => throw .outOfRange
  | kinds ks, some n =>
    match ks[n]? with
    | some k => return kind k
    | none => throw .outOfRange
  | value (.map entries), none =>
    match Entries.get? name entries with
    | some v => return value v
    | none => throw (.missing name)
  | value (.map _), some _ => throw (.missing name)
  | _, _ => throw .unsuitable

/-- The item to which a step leads. -/
def pick (item : Item) : Step → Except Error Item
  | .property name =>
    match Text.toString? name with
    | none => .error .noProperty
    | some name =>
      match item.property? name with
      | some item => .ok item
      | none => .error (if item.hides name then .hidden else .noProperty)
  | .index name => item.element name

end Item
end Template
end HelpPages
