import HelpPages.Value.Kind

/-! # Layouts of values in a message

A field of a message template may say how its value is laid out: a fill
character and an alignment, the display of the sign, of a zero and of the marks
of a notation, zero padding, a width, separators between groups of digits, a
precision and the letter of a notation.  This module reads such a layout; every
kind of value that has layouts has a notation for those that name none.
-/
namespace HelpPages
namespace Template

/-- Why a template cannot be filled in. -/
inductive Error where
  /-- No value has the name of a field. -/
  | missing (name : Text)
  /-- A field asks for a value by its position or at an index where none is. -/
  | outOfRange
  /-- A value does not allow what a field asks of it. -/
  | unsuitable
  /-- A field asks for a property that its value does not have. -/
  | noProperty
  /-- A field asks for a method, which shows where the interpreter keeps it. -/
  | hidden
  /-- An integer is too large for the notation that a field asks for. -/
  | overflow
  /-- A layout asks for a text that is too long to be made. -/
  | tooLong
  /-- The template or a layout in it breaks the rules of templates. -/
  | malformed (message : Text)
deriving DecidableEq, Repr

/-- The error of a template whose value has no text. -/
def Error.ofInteger (e : Integer.Error) : Error := .malformed e.message

/-- Where a value stands within its width: `split` puts the filling between the
sign and the digits. -/
inductive Align where
  | left | right | center | split
deriving DecidableEq, Repr

/-- The alignment that a character stands for. -/
def Align.ofChar? : CodePoint → Option Align
  | '<' => some .left
  | '>' => some .right
  | '^' => some .center
  | '=' => some .split
  | _ => none

/-- The letter of the notation of a kind of value if the layout names none, or
none for a kind without layouts. -/
def standardLetter? : Value.Kind → Option CodePoint
  | .text => some 's'
  | .int | .bool => some 'd'
  | .float => some '\x00'
  | _ => none

/-- How a value is laid out. -/
structure Spec where
  /-- The character that fills the width. -/
  fill : CodePoint := ' '
  align : Option Align := none
  /-- The character that asks for a sign before all numbers or none. -/
  sign : Option CodePoint := none
  /-- A number shown as zero has no minus sign. -/
  plainZero : Bool := false
  /-- The marks of the notation are shown even where they may be left out. -/
  marked : Bool := false
  zeroPadded : Bool := false
  width : Nat := 0
  /-- The character between groups of digits. -/
  separator : Option CodePoint := none
  precision : Option Nat := none
  letter : CodePoint
deriving DecidableEq, Repr

/-- The largest number that a template may hold. -/
def maxNumber : Nat := Nat.pow 2 63 - 1

/-- The error of a number beyond `maxNumber`. -/
def tooManyDigits : Error := .malformed "Too many decimal digits in format string"

/-- The number at the start of a text, if there is one, and what follows it. -/
def number (t : Text) : Except Error (Option Nat × Text) :=
  let digits := (t.takeWhile fun c => (Text.digitValue? c).isSome).filterMap Text.digitValue?
  if digits = [] then .ok (none, t)
  else if maxNumber < Integer.ofDigits digits then .error tooManyDigits
  else .ok (some (Integer.ofDigits digits), t.drop digits.length)

/-- How a character is named in an error message: itself if it is an ASCII
character up to `last` that is no blank and no control, and its code point
otherwise. -/
def nameChar (last : Nat) (c : CodePoint) : Text :=
  if 32 < c.toNat ∧ c.toNat ≤ last then [c] else "\\x" ++ Text.hexDigits 1 c.toNat

/-- How the letter of a notation is named in an error message. -/
def nameLetter : CodePoint → Text := nameChar 127

/-- The first character of a text if it has a property, and what follows it. -/
def takeIf (p : CodePoint → Bool) : Text → Option CodePoint × Text
  | [] => (none, [])
  | c :: rest => if p c then (some c, rest) else (none, c :: rest)

namespace Spec

/-- The fill character and the alignment at the start of a layout, and what
follows them. -/
def leadingAlign : Text → Option CodePoint × Option Align × Text
  | fill :: a :: rest =>
    match Align.ofChar? a, Align.ofChar? fill with
    | some align, _ => (some fill, some align, rest)
    | none, some align => (none, some align, a :: rest)
    | none, none => (none, none, fill :: a :: rest)
  | [a] => if (Align.ofChar? a).isSome then (none, Align.ofChar? a, []) else (none, none, [a])
  | [] => (none, none, [])

/-- The separator of digits at the start of a text, and what follows it.  Only
one may be given. -/
def leadingSeparator (t : Text) : Except Error (Option CodePoint × Text) :=
  let both : Error := .malformed "Cannot specify both ',' and '_'."
  let (comma, rest) := takeIf (·.is ',') t
  let (line, rest) := takeIf (·.is '_') rest
  match comma, line with
  | some _, some _ => .error both
  | none, some _ => if rest.head? = some ',' then .error both else .ok (line, rest)
  | _, none => .ok (comma, rest)

/-- The precision at the start of a text, and what follows it. -/
def leadingPrecision : Text → Except Error (Option Nat × Text)
  | '.' :: rest => do
    let (precision, rest) ← number rest
    if precision.isNone then throw (.malformed "Format specifier missing precision")
    return (precision, rest)
  | t => .ok (none, t)

/-- The notations with these letters have digits in groups of four, and only the
low line separates them. -/
def hasGroupsOfFour (letter : CodePoint) : Bool := ("boxX" : Text).contains letter

/-- A notation allows a separator of digits. -/
def allowsSeparator (letter separator : CodePoint) : Bool :=
  ("defgEG%F\x00" : Text).contains letter || (hasGroupsOfFour letter && separator == '_')

/-- The layout that a text describes for a kind of value whose notation has the
letter `standard`. -/
def ofText (kind : Value.Kind) (standard : CodePoint) (source : Text) : Except Error Spec := do
  let (fill, align, rest) := leadingAlign source
  let (sign, rest) := takeIf (fun c => c == '+' || c == '-' || c == ' ') rest
  let (plainZero, rest) := takeIf (·.is 'z') rest
  let (marked, rest) := takeIf (·.is '#') rest
  let (zero, rest) := takeIf (fun c => c == '0' && fill.isNone) rest
  let (width, rest) ← number rest
  let (separator, rest) ← leadingSeparator rest
  let (precision, rest) ← leadingPrecision rest
  if 1 < rest.length then
    throw (.malformed ("Invalid format specifier '" ++ source ++ "' for object of type '"
      ++ kind.name ++ "'"))
  let letter := rest.headD standard
  if let some c := separator then
    if !allowsSeparator letter c then
      throw (.malformed ("Cannot specify '" ++ [c] ++ "' with '" ++ nameLetter letter ++ "'."))
  return {
    fill := fill.getD (zero.getD ' '), align, sign, plainZero := plainZero.isSome
    marked := marked.isSome, zeroPadded := zero.isSome, width := width.getD 0, separator
    precision, letter }

end Spec
end Template
end HelpPages
