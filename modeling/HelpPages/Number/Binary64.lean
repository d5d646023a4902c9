import HelpPages.Number.Integer

/-! # Double-precision numbers

A number of the binary64 format is a signed mantissa of at most 53 bits times a
power of two, an infinity or no number at all.  All arithmetic on it is exact:
a decimal is rounded to the nearest binary64 number, and a binary64 number is
rounded to a given number of decimal places, with ties to the even neighbour.
-/
namespace HelpPages

/-- A binary64 number; `finite negative m e` is `m * 2 ^ e` with its sign. -/
inductive Binary64 where
  | finite (negative : Bool) (mantissa : Nat) (exponent : Int)
  | infinite (negative : Bool)
  | notANumber
deriving DecidableEq, Repr

namespace Binary64

/-- The quotient rounded to the nearest natural number, a tie to the even one. -/
def roundDiv (num den : Nat) : Nat :=
  let quotient := num / den
  let rest := num % den
  if den < 2 * rest ∨ (2 * rest = den ∧ quotient % 2 = 1) then quotient + 1 else quotient

/-- The largest exponent of a finite number. -/
def maxExponent : Int := 971

/-- The smallest exponent of a number. -/
def minExponent : Int := -1074

/-- The numerator and denominator of `n * base ^ e`. -/
def scaled (n base : Nat) (e : Int) : Nat × Nat := 
  (n * Nat.pow base e.toNat, Nat.pow base (-e).toNat)

/-- The number nearest to `num / den`, both positive. -/
def ofRatio (negative : Bool) (num den : Nat) : Binary64 :=
  let magnitude : Int := (num.log2 : Int) - den.log2 - 52
  -- `num / den` lies between `2 ^ 51` and `2 ^ 53` times `2 ^ magnitude`
  let quotient (e : Int) : Nat × Nat := 
    (num * Nat.pow 2 (-e).toNat, den * Nat.pow 2 e.toNat)
  let exponent := max minExponent
    (if (quotient magnitude).1 / (quotient magnitude).2 < Nat.pow 2 52 then magnitude - 1
      else magnitude)
  let mantissa := roundDiv (quotient exponent).1 (quotient exponent).2
  let (mantissa, exponent) :=
    if mantissa = Nat.pow 2 53 then (Nat.pow 2 52, exponent + 1) else (mantissa, exponent)
  if maxExponent < exponent then .infinite negative else .finite negative mantissa exponent

/-- The number nearest to `digits * 10 ^ power`.  Powers far outside the range of
the format are decided without computing them. -/
def ofDecimal (negative : Bool) (digits : Nat) (power : Int) : Binary64 :=
  let size : Int := (Integer.ofNat digits).length
  if digits = 0 ∨ power + size < -330 then .finite negative 0 0
  else if 310 < power + size then .infinite negative
  else
    let (num, den) := scaled digits 10 power
    ofRatio negative num den

/-- The number nearest to an integer, or none beyond the finite range. -/
def ofInt? (i : Int) : Option Binary64 :=
  match ofDecimal (i < 0) i.natAbs 0 with
  | .infinite _ => none
  | x => some x

/-- The numerator and denominator of the absolute value of a finite number. -/
def ratio (mantissa : Nat) (exponent : Int) : Nat × Nat := scaled mantissa 2 exponent

/-- The exponent `p` with `10 ^ p ≤ num / den < 10 ^ (p + 1)`, both positive. -/
def decimalExponent (num den : Nat) : Int :=
  if den ≤ num then (Integer.ofNat (num / den)).length - 1
  else -((Integer.ofNat ((den + num - 1) / num - 1)).length : Int)

/-- The least multiple of a positive number that is no smaller, with the sign of
the number if it is zero. -/
def roundUpTo (unit : Nat) : Binary64 → Binary64
  | .finite negative mantissa exponent =>
    let (num, den) := ratio mantissa exponent
    let units := if negative then num / (unit * den) else (num + unit * den - 1) / (unit * den)
    if units = 0 then .finite negative 0 0 else ofRatio negative (units * unit) 1
  | _ => .notANumber

/-- A decimal `digits * 10 ^ power`. -/
structure Decimal where
  digits : Nat
  power : Int
deriving DecidableEq, Repr

/-- `x * 10 ^ power` against `num / den`, as an ordering of exact products. -/
def Decimal.compareRatio (d : Decimal) (num den : Nat) : Ordering :=
  let (n, m) := scaled d.digits 10 d.power
  compare (n * den) (num * m)

/-- The decimals with `n` digits that read back as the number `m * 2 ^ e`: at
most the two neighbours of the number on the grid of `n` digits, the nearer one
first. -/
def readingBack (m : Nat) (e : Int) (n : Nat) : List Decimal :=
  let (num, den) := ratio m e
  let power := decimalExponent num den - (n - 1 : Nat)
  -- the number in units of the grid
  let (unit, scale) := 
    (num * Nat.pow 10 (-power).toNat, den * Nat.pow 10 power.toNat)
  let below := unit / scale
  let nearest := roundDiv unit scale
  let other := if nearest = below then below + 1 else below
  -- the numbers that round to `m * 2 ^ e` lie between two midpoints
  let (low, lowDen) :=
    if m = Nat.pow 2 52 ∧ minExponent < e then ratio (4 * m - 1) (e - 2)
    else ratio (2 * m - 1) (e - 1)
  let (high, highDen) := ratio (2 * m + 1) (e - 1)
  ([nearest, other].map (Decimal.mk · power)).filter fun d =>
    match d.compareRatio low lowDen, d.compareRatio high highDen with
    | .gt, .lt => true
    | .eq, _ => m % 2 = 0
    | _, .eq => m % 2 = 0
    | _, _ => false

/-- The shortest decimal that reads back as `m * 2 ^ e`, and of those the nearest
to it; 17 digits always read back. -/
def shortest (m : Nat) (e : Int) : Decimal :=
  ((List.range 17).findSome? fun n => (readingBack m e (n + 1)).head?).getD ⟨0, 0⟩

/-- The digits of a decimal without zeros at the end, and the number of its
digits before the decimal point. -/
def Decimal.spread (d : Decimal) : Text × Int :=
  let digits := Integer.ofNat d.digits
  (Text.dropEndWhile (·.is '0') digits, digits.length + d.power)

/-- An exponent as it stands behind an `e`: a sign and at least two digits. -/
def exponentText (e : Int) : Text :=
  let digits := Integer.ofNat e.natAbs
  let sign : CodePoint := if e < 0 then '-' else '+'
  sign :: Text.zeros (2 - digits.length) ++ digits

/-- Digits with a decimal point after the first `point` of them; zeros fill the
places between the digits and the point. -/
def positional (digits : Text) (point : Int) (whole : Text) : Text :=
  if point ≤ 0 then "0." ++ Text.zeros (-point).toNat ++ digits
  else if digits.length ≤ point.toNat then
    digits ++ Text.zeros (point.toNat - digits.length) ++ whole
  else digits.take point.toNat ++ "." ++ digits.drop point.toNat

/-- Digits with a decimal point after the first and the exponent of the first;
`whole` stands behind a single digit. -/
def scientific (digits : Text) (point : Int) (whole : Text) : Text :=
  let fraction := digits.drop 1
  let decimals := if fraction = [] then whole else '.' :: fraction
  digits.take 1 ++ decimals ++ "e" ++ exponentText (point - 1)

/-- The shortest text that reads back as `m * 2 ^ e`.  Numbers from `1e-4` up to
below `1e16` are written positionally and always with a decimal point; `whole`
stands behind a single digit before an exponent. -/
def shortestText (m : Nat) (e : Int) (whole : Text) : Text :=
  if m = 0 then "0.0"
  else
    let (digits, point) := (shortest m e).spread
    if -4 < point ∧ point ≤ 16 then positional digits point ".0"
    else scientific digits point whole

/-- The shortest text that reads back as the number. -/
def toText : Binary64 → Text
  | .notANumber => "nan"
  | .infinite negative => (if negative then "-" else "") ++ "inf"
  | .finite negative mantissa exponent =>
    (if negative then "-" else "") ++ shortestText mantissa exponent []

end Binary64
end HelpPages
