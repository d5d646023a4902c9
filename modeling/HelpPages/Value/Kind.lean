import HelpPages.Value

/-! # Kinds of values

Every value is of a kind.  A kind has a name, the kinds that it specialises and
mostly a text that documents it.  Two kinds are not those of plain values: that
of the kinds themselves, and that of fixed sequences of kinds.
-/
namespace HelpPages
namespace Value

/-- A kind of value. -/
inductive Kind where
  | null | bool | int | float | text | list | map
  /-- The kind of fixed sequences. -/
  | sequence
  /-- The kind of kinds. -/
  | type
  /-- The kind that all others specialise. -/
  | any
deriving DecidableEq, Repr

namespace Kind

/-- The name of a kind. -/
def name : Kind → Text
  | null => "NoneType"
  | bool => "bool"
  | int => "int"
  | float => "float"
  | text => "str"
  | list => "list"
  | map => "dict"
  | sequence => "tuple"
  | type => "type"
  | any => "object"

/-- The kind that a kind specialises directly. -/
def parent? : Kind → Option Kind
  | bool => some int
  | any => none
  | _ => some any

/-- A kind and all that it specialises, the nearest first. -/
def line : Kind → List Kind
  | bool => [bool, int, any]
  | any => [any]
  | k => [k, any]

/-- The text that documents a kind. -/
def documentation? : Kind → Option Text
  | null => none
  | bool => some (Text.joinWith "\n" [
      "bool(x) -> bool", "",
      "Returns True when the argument x is true, False otherwise.",
      "The builtins True and False are the only two instances of the class bool.",
      "The class bool is a subclass of the class int, and cannot be subclassed."])
  | int => some (Text.joinWith "\n" [
      "int([x]) -> integer", "int(x, base=10) -> integer", "",
      "Convert a number or string to an integer, or return 0 if no arguments",
      "are given.  If x is a number, return x.__int__().  For floating point",
      "numbers, this truncates towards zero.", "",
      "If x is not a number or if base is given, then x must be a string,",
      "bytes, or bytearray instance representing an integer literal in the",
      "given base.  The literal can be preceded by '+' or '-' and be surrounded",
      "by whitespace.  The base defaults to 10.  Valid bases are 0 and 2-36.",
      "Base 0 means to interpret the base from the string as an integer literal.",
      ">>> int('0b100', base=0)", "4"])
  | float => some "Convert a string or number to a floating point number, if possible."
  | text => some (Text.joinWith "\n" [
      "str(object='') -> str", "str(bytes_or_buffer[, encoding[, errors]]) -> str", "",
      "Create a new string object from the given object. If encoding or",
      "errors is specified, then the object must expose a data buffer",
      "that will be decoded using the given encoding and error handler.",
      "Otherwise, returns the result of object.__str__() (if defined)",
      "or repr(object).",
      "encoding defaults to sys.getdefaultencoding().",
      "errors defaults to 'strict'."])
  | list => some (Text.joinWith "\n" [
      "Built-in mutable sequence.", "",
      "If no argument is given, the constructor creates a new empty list.",
      "The argument must be an iterable if specified."])
  | map => some (Text.joinWith "\n" [
      "dict() -> new empty dictionary",
      "dict(mapping) -> new dictionary initialized from a mapping object's",
      "    (key, value) pairs",
      "dict(iterable) -> new dictionary initialized as if via:",
      "    d = \x7b\x7d", "    for k, v in iterable:", "        d[k] = v",
      "dict(**kwargs) -> new dictionary initialized with the name=value pairs",
      "    in the keyword argument list.  For example:  dict(one=1, two=2)"])
  | sequence => some (Text.joinWith "\n" [
      "Built-in immutable sequence.", "",
      "If no argument is given, the constructor returns an empty tuple.",
      "If iterable is specified the tuple is initialized from iterable's items.", "",
      "If the argument is a tuple, the return value is the same object."])
  | type => some (Text.joinWith "\n" [
      "type(object) -> the object's type", "type(name, bases, dict, **kwds) -> a new type"])
  | any => some (Text.joinWith "\n" [
      "The base class of the class hierarchy.", "",
      "When called, it accepts no arguments and returns a new featureless",
      "instance that has no instance attributes and cannot be given any.", ""])

/-- The text of a kind. -/
def literal (k : Kind) : Text := "<class '" ++ k.name ++ "'>"

/-- The values of a kind have hash codes: all but those that can grow. -/
def isHashable : Kind → Bool
  | list | map => false
  | _ => true

end Kind

/-- The kind of a value. -/
def kind : Value → Kind
  | .null => .null
  | .bool _ => .bool
  | .int _ => .int
  | .float _ => .float
  | .text _ => .text
  | .list _ => .list
  | .map _ => .map

end Value
end HelpPages
