import HelpPages.Text.Printable

/-! # Quoted texts

A quoted text stands between two quotes and shows every character that is not
printable as an escape.  The quote is `'`, or `"` if the text holds a `'` and
no `"`; inside, the quote itself and the backslash are escaped by a backslash.
-/
namespace HelpPages
namespace Text

/-- At least `n` lower-case hexadecimal digits of a number. -/
def hexDigits (n value : Nat) : Text :=
  let digits := ofChars (Nat.toDigits 16 value)
  zeros (n - digits.length) ++ digits

/-- The quote for a text: the single one unless only the double one spares an
escape. -/
def quoteFor (t : Text) : CodePoint := if t.contains '\'' && !t.contains '"' then '"' else '\''

/-- The escape of a code point. -/
def escapeCode (code : Nat) : Text :=
  if code < 0x100 then "\\x" ++ hexDigits 2 code
  else if code < 0x10000 then "\\u" ++ hexDigits 4 code
  else "\\U" ++ hexDigits 8 code

/-- How a character is written between two quotes. -/
def escapeChar (quote c : CodePoint) : Text :=
  if c = quote ∨ c = '\\' then ['\\', c]
  else if c = '\t' then "\\t"
  else if c = '\n' then "\\n"
  else if c = '\r' then "\\r"
  else if isPrintable c then [c]
  else escapeCode c.toNat

/-- The text with every character beyond ASCII written as an escape. -/
def escapeBeyondAscii (t : Text) : Text :=
  t.flatMap fun c => if c.toNat < 0x80 then [c] else escapeCode c.toNat

/-- The text in quotes. -/
def quoted (t : Text) : Text :=
  let quote := quoteFor t
  quote :: t.flatMap (escapeChar quote) ++ [quote]

end Text
end HelpPages
