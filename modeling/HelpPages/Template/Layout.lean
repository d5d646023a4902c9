import HelpPages.Template.Spec

/-! # Values in their layouts

Texts go to the left of the width and numbers to the right unless the layout
says otherwise.  A number is written in four pieces: its sign, the mark of its
base, its whole digits, which a separator may divide into groups, and the rest
of it from the decimal point on.
-/
namespace HelpPages
namespace Template

/-- The pieces of a written number behind its sign. -/
structure Numeral where
  /-- The mark of the base. -/
  mark : Text := []
  /-- The digits before the decimal point. -/
  digits : Text := []
  /-- All that stands behind these digits. -/
  rest : Text := []
deriving DecidableEq, Repr

namespace Numeral

/-- The pieces of a number that is written without the mark of a base. -/
def ofText (t : Text) : Numeral :=
  { digits := t.takeWhile CodePoint.isDigit, rest := t.dropWhile CodePoint.isDigit }

/-- Digits with a separator before every group of `size` digits that has others
before it, counted from the end. -/
def separate (separator : CodePoint) (size : Nat) : Text → Text
  | [] => []
  | d :: rest =>
    if rest ≠ [] ∧ rest.length % size = 0 then d :: separator :: separate separator size rest
    else d :: separate separator size rest

/-- The least number of digits that take up a width together with a separator
between groups of `size`, if there is one. -/
def digitCount (separator : Option CodePoint) (size width : Nat) : Nat :=
  if separator.isSome then width - (width - 1) / (size + 1) else width

/-- The digits filled up with zeros to a width and separated.  Where there are
no digits there are no zeros. -/
def grouped (separator : Option CodePoint) (size width : Nat) (digits : Text) : Text :=
  if digits = [] then []
  else
    let zeros := Text.zeros (digitCount separator size width - digits.length)
    match separator with
    | some c => separate c size (zeros ++ digits)
    | none => zeros ++ digits

end Numeral

/-- The largest precision of a binary64 number. -/
def maxPrecision : Nat := Nat.pow 2 31 - 1

/-- The error of a notation that a kind of value does not have. -/
def unknownNotation (kind : Value.Kind) (letter : CodePoint) : Error :=
  .malformed ("Unknown format code '" ++ nameLetter letter ++ "' for object of type '"
    ++ kind.name ++ "'")

namespace Spec

/-- A start and a body filled up to the width of the layout. -/
def place (spec : Spec) (align : Align) (start body : Text) : Except Error Text :=
  let missing := spec.width - (start.length + body.length)
  let filling (n : Nat) : Text := List.replicate n spec.fill
  if Text.maxLength < missing then .error .tooLong
  else
    .ok <| match align with
      | .left => start ++ body ++ filling missing
      | .right => filling missing ++ start ++ body
      | .center => filling (missing / 2) ++ start ++ body ++ filling (missing - missing / 2)
      | .split => start ++ filling missing ++ body

/-- A text in its layout: the precision cuts it, and what is said of numbers is
an error. -/
def layText (spec : Spec) (kind : Value.Kind) (t : Text) : Except Error Text :=
  let refused (what : String) : Except Error Text :=
    .error (.malformed (what ++ " not allowed in string format specifier"))
  if spec.letter ≠ 's' then .error (unknownNotation kind spec.letter)
  else if spec.sign = some ' ' then refused "Space"
  else if spec.sign.isSome then refused "Sign"
  else if spec.plainZero then refused "Negative zero coercion (z)"
  else if spec.marked then refused "Alternate form (#)"
  else if spec.align = some .split then refused "'=' alignment"
  else spec.place (spec.align.getD .left) [] (t.take (spec.precision.getD t.length))

/-- The text before the digits of a number. -/
def signText (spec : Spec) (negative : Bool) : Text :=
  if negative then "-"
  else
    match spec.sign with
    | some '+' => "+"
    | some ' ' => " "
    | _ => []

/-- A number in its layout. -/
def layNumeral (spec : Spec) (negative : Bool) (n : Numeral) : Except Error Text :=
  let align := spec.align.getD (if spec.zeroPadded then .split else .right)
  let start := spec.signText negative ++ n.mark
  let width := spec.width - (start.length + n.rest.length)
  let zeros := if align = .split ∧ spec.fill = '0' then width else 0
  let size := if hasGroupsOfFour spec.letter then 4 else 3
  if Text.maxLength < zeros then .error .tooLong
  else
    spec.place align start (Numeral.grouped spec.separator size zeros n.digits ++ n.rest)

/-- What stands behind digits without a fraction. -/
def point (spec : Spec) : Text := if spec.marked then "." else []

/-- The digits of `num / den` with a fixed number of places after the point. -/
def fixed (spec : Spec) (places num den : Nat) : Text :=
  let digits := Integer.ofNat (Binary64.roundDiv (num * Nat.pow 10 places) den)
  let digits := Text.zeros (places + 1 - digits.length) ++ digits
  let whole := digits.length - places
  digits.take whole ++ (if places = 0 then spec.point else "." ++ digits.drop whole)

/-- `num / den` rounded to `count` significant digits: the digits, and how many
of them stand before the decimal point. -/
def significant (count num den : Nat) : Text × Int :=
  if num = 0 then (Text.zeros count, 1)
  else
    let top := Binary64.decimalExponent num den
    let power := top - (count - 1 : Nat)
    let rounded :=
      Binary64.roundDiv (num * Nat.pow 10 (-power).toNat) (den * Nat.pow 10 power.toNat)
    if rounded = Nat.pow 10 count then (Integer.ofNat (rounded / 10), top + 2)
    else (Integer.ofNat rounded, top + 1)

/-- A number with one digit before the point and `places` after it. -/
def scientific (spec : Spec) (places num den : Nat) : Text :=
  let (digits, point) := significant (places + 1) num den
  Binary64.scientific digits point spec.point

/-- The most significant digits that a binary64 number has. -/
def maxSignificant : Nat := 767

/-- A number with `count` significant digits, in positional notation if its
exponent lies between -4 and `limit`; zeros at the end are left out unless the
marks of the notation are asked for, and `whole` stands behind the digits of a
positional number without a fraction. -/
def general (spec : Spec) (count num den : Nat) (limit : Int) (whole : Text) : Text :=
  let count := if spec.marked then count else min count maxSignificant
  let (digits, point) := significant count num den
  let short := if spec.marked then digits else Text.dropEndWhile (·.is '0') digits
  let short : Text := if short = [] then "0" else short
  if -4 < point ∧ point ≤ limit then Binary64.positional short point whole
  else Binary64.scientific short point spec.point

/-- The letters of the notations of binary64 numbers. -/
def floatLetters : Text := "\x00eEfFgGn%"

/-- The absolute value of the number `mantissa * 2 ^ exponent` in the notation of
the layout. -/
def absolute (spec : Spec) (mantissa : Nat) (exponent : Int) : Text :=
  let (num, den) := Binary64.ratio mantissa exponent
  let precision := spec.precision.getD 6
  match spec.letter with
  | '\x00' =>
    match spec.precision with
    | none => Binary64.shortestText mantissa exponent spec.point
    | some precision =>
      let count := max precision 1
      spec.general count num den (count - 1 : Int) ".0"
  | 'e' => spec.scientific precision num den
  | 'E' => (spec.scientific precision num den).map CodePoint.toUpper
  | 'g' | 'n' => spec.general (max precision 1) num den (max precision 1) spec.point
  | 'G' =>
    (spec.general (max precision 1) num den (max precision 1) spec.point).map CodePoint.toUpper
  | _ => spec.fixed precision num den

/-- No digit but the zero stands before the exponent of a number. -/
def showsZero (t : Text) : Bool :=
  !(t.takeWhile (!·.toLower.is 'e')).any fun c => c.isDigit && c ≠ '0'

/-- A binary64 number in its layout. -/
def layFloat (spec : Spec) (kind : Value.Kind) (x : Binary64) : Except Error Text :=
  let percent : Text := if spec.letter = '%' then "%" else []
  let special (t : Text) : Text :=
    (if ("EFG" : Text).contains spec.letter then t.map CodePoint.toUpper else t) ++ percent
  -- the number that is shown, a hundred times as large where percents are
  let shown : Binary64 :=
    match x with
    | .finite negative mantissa exponent =>
      if percent = [] ∨ mantissa = 0 then x
      else
        let (num, den) := Binary64.ratio mantissa exponent
        Binary64.ofRatio negative (num * 100) den
    | x => x
  if !floatLetters.contains spec.letter then .error (unknownNotation kind spec.letter)
  else if maxPrecision < spec.precision.getD 0 then .error (.malformed "precision too big")
  else
    match shown with
    | .notANumber => spec.layNumeral false { rest := special "nan" }
    | .infinite negative => spec.layNumeral negative { rest := special "inf" }
    | .finite negative mantissa exponent =>
      let isFilled := spec.marked || ("eEfF%" : Text).contains spec.letter
      if Text.maxLength < spec.precision.getD 0 ∧ isFilled then
        .error .tooLong
      else
        let text := spec.absolute mantissa exponent
        spec.layNumeral (negative && !(spec.plainZero && showsZero text))
          (.ofText (text ++ percent))

/-- The notation shows an integer in decimal digits, of which there may be too many. -/
def isDecimal (spec : Spec) : Bool := ("dn" : Text).contains spec.letter

/-- An integer in its layout; the notations for fractions take it as a binary64
number. -/
def layInt (spec : Spec) (kind : Value.Kind) (i : Int) : Except Error Text :=
  let refused (what : String) : Except Error Text := .error (.malformed what)
  let mark (t : String) : Text := if spec.marked then t else []
  let written (n : Numeral) : Except Error Text :=
    if spec.precision.isSome then
      refused "Precision not allowed in integer format specifier"
    else if spec.plainZero then
      refused "Negative zero coercion (z) not allowed in integer format specifier"
    else if spec.isDecimal && !Integer.isWritable i then
      .error (.ofInteger .unwritable)
    else spec.layNumeral (i < 0) n
  match spec.letter with
  | 'd' | 'n' => written { digits := Integer.ofNat i.natAbs }
  | 'b' => written { mark := mark "0b", digits := Text.ofChars (Nat.toDigits 2 i.natAbs) }
  | 'o' => written { mark := mark "0o", digits := Text.ofChars (Nat.toDigits 8 i.natAbs) }
  | 'x' => written { mark := mark "0x", digits := Text.ofChars (Nat.toDigits 16 i.natAbs) }
  | 'X' =>
    let digits := Text.ofChars (Nat.toDigits 16 i.natAbs)
    written { mark := mark "0X", digits := digits.map CodePoint.toUpper }
  | 'c' =>
    if spec.precision.isSome ∨ spec.plainZero then written {}
    else if spec.sign.isSome then
      refused "Sign not allowed with integer format specifier 'c'"
    else if spec.marked then
      refused "Alternate form (#) not allowed with integer format specifier 'c'"
    else if i < 0 ∨ 0x10FFFF < i then .error .overflow
    else written { rest := [CodePoint.ofNat i.toNat] }
  | letter =>
    if floatLetters.contains letter ∧ letter ≠ '\x00' then
      match Binary64.ofInt? i with
      | some x => spec.layFloat kind x
      | none => .error .overflow
    else .error (unknownNotation kind letter)

end Spec

/-- A value laid out as a text describes.  An empty description shows the value
plainly; values other than texts and numbers have no other layout. -/
def layOut (source : Text) (v : Value) : Except Error Text :=
  if source = [] then v.plain?.mapError .ofInteger
  else
    match standardLetter? v.kind with
    | none => .error .unsuitable
    | some standard => do
      let spec ← Spec.ofText v.kind standard source
      match v with
      | .text t => spec.layText v.kind t
      | .int i => spec.layInt v.kind i
      | .bool b => spec.layInt v.kind (if b then 1 else 0)
      | .float x => spec.layFloat v.kind x
      | _ => throw .unsuitable

end Template
end HelpPages
