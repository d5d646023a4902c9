import HelpPages.Text.CodePoint

/-! # Texts

A text is the list of its code points: every rule of this library is a recursion
over that list, and a string literal stands for its characters.  Nearly all code
points are characters, and the rules speak of characters wherever they do the
same with half of a surrogate pair.  This module holds what all the others share:
width, padding, trimming, splitting at a character and replacing one text by
another.
-/
namespace HelpPages

/-- A text, code point by code point. -/
abbrev Text := List CodePoint

namespace Text

/-- The text of some characters. -/
def ofChars (chars : List Char) : Text := chars.map CodePoint.char

/-- The text of a string. -/
def ofString (s : String) : Text := ofChars s.toList

instance : Coe (List Char) Text := ⟨ofChars⟩

instance : Coe String Text := ⟨ofString⟩

/-- Texts are equal if they are found equal code point by code point. -/
instance : LawfulBEq Text := inferInstance

/-- All code points of a text are characters, so that it has a form in bytes. -/
def isEncodable (t : Text) : Bool := t.all CodePoint.isChar

/-- The string of a text, if all its code points are characters. -/
def toString? (t : Text) : Option String :=
  (t.mapM CodePoint.char?).map String.ofList

/-- Characters come back from their text. -/
theorem mapM_char?_ofChars (chars : List Char) :
    (ofChars chars).mapM CodePoint.char? = some chars := by
  induction chars with
  | nil => rfl
  | cons c rest ih =>
    rw [ofChars] at ih
    simp [ofChars, CodePoint.char?, ih]

/-- A string comes back from its text. -/
@[simp] theorem toString?_ofString (s : String) : toString? (ofString s) = some s := by
  rw [toString?, ofString, mapM_char?_ofChars, Option.map_some, String.ofList_toList]

/-- A literal made of characters is their text.  Its characters need not be found in the string,
which is long work for a computation. -/
theorem ofString_ofList (chars : List Char) : ofString (String.ofList chars) = ofChars chars :=
  congrArg ofChars String.toList_ofList

/-- The width of a text: the number of bytes of its UTF-8 form. -/
def width (t : Text) : Nat := t.foldr (fun c w => c.utf8Size + w) 0

@[simp] theorem width_nil : width [] = 0 := rfl

@[simp] theorem width_cons (c : CodePoint) (t : Text) : width (c :: t) = c.utf8Size + width t := rfl

@[simp] theorem width_append (s t : Text) : width (s ++ t) = width s + width t := by
  induction s with
  | nil => simp
  | cons c s ih => rw [List.cons_append, width_cons, width_cons, ih, Nat.add_assoc]

/-- `n` blanks. -/
def spaces (n : Nat) : Text := List.replicate n ' '

@[simp] theorem width_spaces (n : Nat) : width (spaces n) = n := by
  induction n with
  | zero => rfl
  | succ n ih =>
    rw [spaces, List.replicate_succ, width_cons, ← spaces, ih]
    show 1 + n = n + 1
    omega

/-- `n` times the digit zero. -/
def zeros (n : Nat) : Text := List.replicate n '0'

/-- The length of the longest text that is made. -/
def maxLength : Nat := Nat.pow 2 30

/-- Why no text has a length that is asked for. -/
inductive LengthError where
  /-- The length is no signed number of 64 bits. -/
  | overflow
  /-- A text of the length would be too long. -/
  | tooLong
deriving DecidableEq, Repr

/-- The number is a signed number of 64 bits. -/
def isCount (n : Int) : Bool := -(Nat.pow 2 63 : Nat) ≤ n && n < (Nat.pow 2 63 : Nat)

/-- The length of a text of `n` copies of a character, which is empty for a
negative number. -/
def lengthOf (n : Int) : Except LengthError Nat :=
  if !isCount n then .error .overflow
  else if maxLength < n then .error .tooLong
  else .ok n.toNat

/-- The text filled up with blanks to `w` bytes; a wider one stays as it is. -/
def padRight (w : Nat) (t : Text) : Text := t ++ spaces (w - width t)

theorem width_padRight (w : Nat) (t : Text) : width (padRight w t) = max (width t) w := by
  rw [padRight, width_append, width_spaces]
  omega

/-- The text without its longest end in `p`. -/
def dropEndWhile (p : CodePoint → Bool) (t : Text) : Text := (t.reverse.dropWhile p).reverse

/-- The text without its longest start and its longest end in `p`. -/
def trim (p : CodePoint → Bool) (t : Text) : Text := dropEndWhile p (t.dropWhile p)

/-- The piece before the first separator, and the pieces after it. -/
def splitFirst (sep : CodePoint) : Text → Text × List Text
  | [] => ([], [])
  | c :: rest =>
    let (piece, pieces) := splitFirst sep rest
    if c = sep then ([], piece :: pieces) else (c :: piece, pieces)

/-- The pieces between the occurrences of a separator; there is always one more
piece than there are separators. -/
def splitOn (sep : CodePoint) (t : Text) : List Text :=
  (splitFirst sep t).1 :: (splitFirst sep t).2

/-- The texts one after the other with `sep` between neighbours. -/
def joinWith (sep : Text) : List Text → Text
  | [] => []
  | t :: ts => t ++ ts.flatMap (sep ++ ·)

/-- Joining the pieces at the separator gives the text back. -/
theorem joinWith_splitOn (sep : CodePoint) (t : Text) : joinWith [sep] (splitOn sep t) = t := by
  induction t with
  | nil => rfl
  | cons c rest ih =>
    simp only [splitOn, joinWith, List.singleton_append] at ih
    by_cases h : c = sep <;> simp [splitOn, joinWith, splitFirst, h, ih]

/-- Every occurrence of `old`, from the left and without overlap, replaced by
`new`.  An empty `old` occurs nowhere. -/
def replace (old new : Text) : Text → Text
  | [] => []
  | c :: rest =>
    if old ≠ [] ∧ old.isPrefixOf (c :: rest) then
      new ++ replace old new (rest.drop (old.length - 1))
    else c :: replace old new rest
termination_by t => t.length
decreasing_by
  all_goals simp only [List.length_cons, List.length_drop]
  all_goals omega

/-- The code point of the character lies in one of the ranges, ends included. -/
def inRanges (ranges : List (Nat × Nat)) (c : CodePoint) : Bool :=
  ranges.any fun (low, high) => low ≤ c.toNat && c.toNat ≤ high

end Text
end HelpPages
