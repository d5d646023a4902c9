import HelpPages.Value.Kind

/-! # Methods of values

A field may name a method of a value.  What it shows then is the method itself, with the place
where the interpreter keeps it, which no value decides.  So the methods are known by their names
only: these are properties that a value has, without a text that can be told.
-/
namespace HelpPages
namespace Value
namespace Kind

/-- The methods of all values. -/
def commonMethods : List String := [
  "__delattr__", "__dir__", "__eq__", "__format__", "__ge__", "__getattribute__", "__getstate__",
  "__gt__", "__hash__", "__init__", "__init_subclass__", "__le__", "__lt__", "__ne__", "__new__",
  "__reduce__", "__reduce_ex__", "__repr__", "__setattr__", "__sizeof__", "__str__",
  "__subclasshook__"]

/-- The methods of all numbers. -/
def numberMethods : List String := [
  "__abs__", "__add__", "__bool__", "__ceil__", "__divmod__", "__float__", "__floor__",
  "__floordiv__", "__getnewargs__", "__int__", "__mod__", "__mul__", "__neg__", "__pos__",
  "__pow__", "__radd__", "__rdivmod__", "__rfloordiv__", "__rmod__", "__rmul__", "__round__",
  "__rpow__", "__rsub__", "__rtruediv__", "__sub__", "__truediv__", "__trunc__",
  "as_integer_ratio", "conjugate"]

/-- The methods of integers and truth values only. -/
def integerMethods : List String := [
  "__and__", "__index__", "__invert__", "__lshift__", "__or__", "__rand__", "__rlshift__",
  "__ror__", "__rrshift__", "__rshift__", "__rxor__", "__xor__", "bit_count", "bit_length",
  "from_bytes", "to_bytes"]

/-- The methods of binary64 numbers only. -/
def floatMethods : List String := ["__getformat__", "fromhex", "hex", "is_integer"]

/-- The methods of all values that have items. -/
def containerMethods : List String := ["__contains__", "__getitem__", "__iter__", "__len__"]

/-- The methods of all values whose items stand in an order of their own. -/
def sequenceMethods : List String := ["__add__", "__mul__", "__rmul__", "count", "index"]

/-- The methods of texts only. -/
def textMethods : List String := [
  "__getnewargs__", "__mod__", "__rmod__", "capitalize", "casefold", "center", "encode",
  "endswith", "expandtabs", "find", "format", "format_map", "isalnum", "isalpha", "isascii",
  "isdecimal", "isdigit", "isidentifier", "islower", "isnumeric", "isprintable", "isspace",
  "istitle", "isupper", "join", "ljust", "lower", "lstrip", "maketrans", "partition",
  "removeprefix", "removesuffix", "replace", "rfind", "rindex", "rjust", "rpartition", "rsplit",
  "rstrip", "split", "splitlines", "startswith", "strip", "swapcase", "title", "translate",
  "upper", "zfill"]

/-- The methods of lists only. -/
def listMethods : List String := [
  "__class_getitem__", "__delitem__", "__iadd__", "__imul__", "__reversed__", "__setitem__",
  "append", "clear", "copy", "extend", "insert", "pop", "remove", "reverse", "sort"]

/-- The methods of maps only. -/
def mapMethods : List String := [
  "__class_getitem__", "__delitem__", "__ior__", "__or__", "__reversed__", "__ror__",
  "__setitem__", "clear", "copy", "fromkeys", "get", "items", "keys", "pop", "popitem",
  "setdefault", "update", "values"]

/-- The methods of kinds, and their other properties that tell of the interpreter. -/
def typeMethods : List String := [
  "__basicsize__", "__call__", "__dict__", "__dictoffset__", "__flags__", "__instancecheck__",
  "__itemsize__", "__or__", "__prepare__", "__ror__", "__subclasscheck__", "__subclasses__",
  "__text_signature__", "__weakrefoffset__", "mro"]

/-- The parts that some numbers have, which their kind has as properties. -/
def partNames : Kind → List String
  | bool | int => ["real", "imag", "numerator", "denominator"]
  | float => ["real", "imag"]
  | _ => []

/-- The methods of the values of a kind. -/
def methods (k : Kind) : List String :=
  commonMethods ++
    match k with
    | null => ["__bool__"]
    | bool | int => numberMethods ++ integerMethods
    | float => numberMethods ++ floatMethods
    | text => containerMethods ++ sequenceMethods ++ textMethods
    | list => containerMethods ++ sequenceMethods ++ listMethods
    | map => containerMethods ++ mapMethods
    | sequence => containerMethods ++ sequenceMethods ++ ["__class_getitem__", "__getnewargs__"]
    | type => typeMethods
    | any => []

end Kind
end Value
end HelpPages
