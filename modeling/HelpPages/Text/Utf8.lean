import HelpPages.Text.Basic

/-! # UTF-8

Bytes are read strictly: every character in its shortest form, no surrogates,
nothing beyond U+10FFFF.  Bytes that break these rules are no text.
-/
namespace HelpPages
namespace Text

/-- The six bits of a continuation byte. -/
def continuation? (b : UInt8) : Option Nat :=
  if 0x80 ≤ b ∧ b < 0xC0 then some (b.toNat - 0x80) else none

/-- The character of a code point, if it is one and is at least `least`, the
smallest code point that needs as many bytes. -/
def scalar? (least code : Nat) : Option CodePoint :=
  if least ≤ code ∧ code.isValidChar then some (CodePoint.ofNat code) else none

/-- The text that the bytes encode. -/
def ofUtf8? : List UInt8 → Option Text
  | [] => some []
  | a :: rest =>
    if a < 0x80 then do
      return CodePoint.ofNat a.toNat :: (← ofUtf8? rest)
    else if 0xC0 ≤ a ∧ a < 0xE0 then
      match rest with
      | b :: rest => do
        let char ← scalar? 0x80 ((a.toNat - 0xC0) * 0x40 + (← continuation? b))
        return char :: (← ofUtf8? rest)
      | _ => none
    else if 0xE0 ≤ a ∧ a < 0xF0 then
      match rest with
      | b :: c :: rest => do
        let char ← scalar? 0x800
          ((a.toNat - 0xE0) * 0x1000 + (← continuation? b) * 0x40 + (← continuation? c))
        return char :: (← ofUtf8? rest)
      | _ => none
    else if 0xF0 ≤ a ∧ a < 0xF8 then
      match rest with
      | b :: c :: d :: rest => do
        let char ← scalar? 0x10000
          ((a.toNat - 0xF0) * 0x40000 + (← continuation? b) * 0x1000 + (← continuation? c) * 0x40
            + (← continuation? d))
        return char :: (← ofUtf8? rest)
      | _ => none
    else none

/-- The bytes of a text.  Half of a surrogate pair has none. -/
def toUtf8 (t : Text) : List UInt8 := t.flatMap CodePoint.toUtf8

end Text
end HelpPages
