import HelpPages.Text.Blank
import HelpPages.Text.Digit
import HelpPages.Text.Quoted

/-! # Integers as text

An integer is written in decimal digits after a minus sign if it is negative.
It is read more freely: blanks around it, a sign of either kind, digits of any
script, and single underscores between digits.  Only numerals of at most 4300
digits are read, and only those are written where an integer is asked for its
text.
-/
namespace HelpPages
namespace Integer

/-- Why a text is not read as an integer, or an integer has no text. -/
inductive Error where
  /-- The text is no numeral. -/
  | malformed (text : Text)
  /-- The numeral has too many digits. -/
  | tooLong (digits : Nat)
  /-- The integer has too many digits to be written. -/
  | unwritable
deriving DecidableEq, Repr

/-- The most digits that a numeral may have. -/
def maxDigits : Nat := 4300

/-- The decimal digits of a natural number. -/
def ofNat (n : Nat) : Text := Text.ofChars (Nat.toDigits 10 n)

/-- The numeral of an integer, however many digits it has. -/
def toText : Int → Text
  | .ofNat n => ofNat n
  | .negSucc n => '-' :: ofNat (n + 1)

/-- The integer has a text: its numeral has no more digits than a numeral may have. -/
def isWritable (i : Int) : Bool := (ofNat i.natAbs).length ≤ maxDigits

/-- The wording of an error. -/
def Error.message : Error → Text
  | .malformed text => "invalid literal for int() with base 10: " ++ (Text.quoted text).take 200
  | .tooLong digits =>
    "Exceeds the limit (4300 digits) for integer string conversion: value has " ++ ofNat digits
      ++ " digits; use sys.set_int_max_str_digits() to increase the limit"
  | .unwritable =>
    "Exceeds the limit (4300 digits) for integer string conversion; "
      ++ "use sys.set_int_max_str_digits() to increase the limit"

/-- The number with these decimal digits, the first being the highest. -/
def ofDigits (digits : List Nat) : Nat := digits.foldl (fun n d => n * 10 + d) 0

/-- The digits at the start of a numeral without sign, single underscores left
out, and what follows them.  An underscore must stand between two digits. -/
def leadingDigits? : Text → Option (List Nat × Text)
  | [] => none
  | c :: rest => do
    let d ← Text.digitValue? c
    match rest with
    | '_' :: more =>
      let (digits, rest) ← leadingDigits? more
      return (d :: digits, rest)
    | e :: more =>
      if (Text.digitValue? e).isSome then
        let (digits, rest) ← leadingDigits? (e :: more)
        return (d :: digits, rest)
      else return ([d], e :: more)
    | [] => return ([d], [])

/-- The sign at the start of a numeral, and what follows it. -/
def sign : Text → Bool × Text
  | '-' :: rest => (true, rest)
  | '+' :: rest => (false, rest)
  | rest => (false, rest)

/-- A blank character that may surround a numeral: any but the information
separators. -/
def isMargin (c : CodePoint) : Bool := Text.isBlank c && !Text.inRanges [(0x1C, 0x1F)] c

/-- The integer that a text stands for. -/
def ofText? (t : Text) : Except Error Int :=
  let (negative, numeral) := sign (Text.trim isMargin t)
  match leadingDigits? numeral with
  | none => .error (.malformed t)
  | some (digits, rest) =>
    if maxDigits < digits.length then .error (.tooLong digits.length)
    else if rest ≠ [] then .error (.malformed t)
    else
      let n : Int := ofDigits digits
      .ok (if negative then -n else n)

end Integer
end HelpPages
