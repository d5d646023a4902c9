/-! # Code points

A code point is a character or half of a surrogate pair.  A document may name
one half of such a pair without the other, so the texts of this library are made
of code points: a half is kept as it is until it is written down, and only then
it matters that it has no form in bytes.
-/
namespace HelpPages

/-- A code point. -/
inductive CodePoint where
  | char (c : Char)
  /-- The half of a surrogate pair at U+D800 and a distance from there. -/
  | half (distance : Fin 0x800)
deriving DecidableEq, Repr

instance : Coe Char CodePoint := ⟨.char⟩

namespace CodePoint

/-- The number of a code point. -/
def toNat : CodePoint → Nat
  | char c => c.toNat
  | half distance => 0xD800 + distance

/-- The code point of a number; beyond U+10FFFF it is the replacement character. -/
def ofNat (number : Nat) : CodePoint :=
  if h : 0xD800 ≤ number ∧ number < 0xE000 then half ⟨number - 0xD800, by omega⟩
  else if number.isValidChar then char (Char.ofNat number)
  else char '\ufffd'

/-- The number of a code point comes back from it. -/
theorem toNat_ofNat {number : Nat} (h : number < 0x110000) : (ofNat number).toNat = number := by
  by_cases half : 0xD800 ≤ number ∧ number < 0xE000
  · rw [ofNat, dif_pos half]
    simp only [toNat]
    omega
  · have valid : number.isValidChar := by
      simp only [Nat.isValidChar]
      omega
    rw [ofNat, dif_neg half, if_pos valid, toNat, Char.ofNat, dif_pos valid]
    rfl

/-- A code point is known by its number. -/
theorem ofNat_toNat (c : CodePoint) : ofNat c.toNat = c := by
  cases c with
  | char c =>
    have valid : c.toNat.isValidChar := c.valid
    have outside : ¬(0xD800 ≤ c.toNat ∧ c.toNat < 0xE000) := by
      simp only [Nat.isValidChar] at valid
      omega
    rw [toNat, ofNat, dif_neg outside, if_pos valid, Char.ofNat_toNat]
  | half distance =>
    have inside : 0xD800 ≤ 0xD800 + distance.val ∧ 0xD800 + distance.val < 0xE000 := by omega
    rw [toNat, ofNat, dif_pos inside]
    simp

/-- The character of a code point, if it is one. -/
def char? : CodePoint → Option Char
  | char c => some c
  | half _ => none

/-- The code point is a character. -/
def isChar (c : CodePoint) : Bool := c.char?.isSome

/-- The code point is a character with a property. -/
def satisfies (p : Char → Bool) : CodePoint → Bool
  | char c => p c
  | half _ => false

/-- The code point is the given character. -/
def is (d : Char) : CodePoint → Bool := satisfies (· == d)

theorem is_iff {d : Char} {c : CodePoint} : c.is d = true ↔ c = d := by
  cases c <;> simp [is, satisfies]

/-- A decimal digit of ASCII. -/
def isDigit : CodePoint → Bool := satisfies Char.isDigit

/-- A letter or a decimal digit of ASCII. -/
def isAlphanum : CodePoint → Bool := satisfies Char.isAlphanum

/-- The code point with another character in the place of its character. -/
def mapChar (f : Char → Char) : CodePoint → CodePoint
  | char c => char (f c)
  | half distance => half distance

/-- A capital letter of ASCII as its small letter. -/
def toLower : CodePoint → CodePoint := mapChar Char.toLower

/-- A small letter of ASCII as its capital letter. -/
def toUpper : CodePoint → CodePoint := mapChar Char.toUpper

/-- The bytes of a code point in UTF-8.  Half of a surrogate pair has none. -/
def toUtf8 : CodePoint → List UInt8
  | char c => String.utf8EncodeChar c
  | half _ => []

/-- The number of bytes that UTF-8 has for code points up to this one. -/
def utf8Size : CodePoint → Nat
  | char c => c.utf8Size
  | half _ => 3

end CodePoint
end HelpPages
