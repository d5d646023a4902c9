import HelpPages.Text.Basic

/-! # Blank characters and line breaks

Blank characters are the white space of Unicode with the four information
separators U+001C to U+001F.  Some of them also break a line, alone or, in the
case of a carriage return with a line feed, as a pair.
-/
namespace HelpPages
namespace Text

/-- A white-space character. -/
def isBlank (c : CodePoint) : Bool :=
  inRanges [(0x09, 0x0D), (0x1C, 0x20), (0x85, 0x85), (0xA0, 0xA0), (0x1680, 0x1680),
    (0x2000, 0x200A), (0x2028, 0x2029), (0x202F, 0x202F), (0x205F, 0x205F), (0x3000, 0x3000)] c

/-- A character that ends a line. -/
def isLineBreak (c : CodePoint) : Bool :=
  inRanges [(0x0A, 0x0D), (0x1C, 0x1E), (0x85, 0x85), (0x2028, 0x2029)] c

/-- The text without blank characters at either end. -/
def strip (t : Text) : Text := trim isBlank t

/-- The characters before the first blank character, and what follows the run of
blank characters there. -/
def cutWord (t : Text) : Text × Text :=
  (t.takeWhile (!isBlank ·), (t.dropWhile (!isBlank ·)).dropWhile isBlank)

/-- The characters before the first blank character, and the words after it. -/
def firstWord : Text → Text × List Text
  | [] => ([], [])
  | c :: rest =>
    let (word, words) := firstWord rest
    if isBlank c then ([], if word = [] then words else word :: words) else (c :: word, words)

/-- The words of a text: its longest runs without a blank character. -/
def words (t : Text) : List Text :=
  let (word, rest) := firstWord t
  if word = [] then rest else word :: rest

/-- The lines of a text at every line break; a carriage return and a line feed
are one break, and no line follows a break at the end. -/
def breakLines : Text → List Text
  | [] => []
  | '\r' :: '\n' :: rest => [] :: breakLines rest
  | c :: rest =>
    if isLineBreak c then [] :: breakLines rest
    else
      match breakLines rest with
      | [] => [[c]]
      | line :: lines => (c :: line) :: lines

/-- The lines of a text at a line feed, a carriage return or the pair of both,
which end the line; no line follows a break at the end. -/
def inputLines : Text → List Text
  | [] => []
  | '\r' :: '\n' :: rest => [] :: inputLines rest
  | c :: rest =>
    if c = '\n' ∨ c = '\r' then [] :: inputLines rest
    else
      match inputLines rest with
      | [] => [[c]]
      | line :: lines => (c :: line) :: lines

/-- Carriage returns, alone or before a line feed, written as line feeds. -/
def unifyBreaks : Text → Text
  | [] => []
  | '\r' :: '\n' :: rest => '\n' :: unifyBreaks rest
  | '\r' :: rest => '\n' :: unifyBreaks rest
  | c :: rest => c :: unifyBreaks rest

end Text
end HelpPages
