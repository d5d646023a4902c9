import HelpPages.Text.Blank

/-! # Docstrings

The documentation of a piece of code stands indented in its source.  Its text is
what remains without tabs, without the margin that its lines share and without
empty lines around it.
-/
namespace HelpPages
namespace Docstring

/-- The text with every tab written as blanks up to the next multiple of eight
columns; `column` is where the text starts. -/
def expandTabs (column : Nat) : Text → Text
  | [] => []
  | c :: rest =>
    if c = '\t' then
      Text.spaces (8 - column % 8) ++ expandTabs (column + (8 - column % 8)) rest
    else c :: expandTabs (if c = '\n' ∨ c = '\r' then 0 else column + 1) rest

/-- The number of blank characters before a line. -/
def indent (line : Text) : Nat := (line.takeWhile Text.isBlank).length

/-- The smallest indent of the lines that are not blank, if there are any. -/
def margin (lines : List Text) : Option Nat :=
  ((lines.filter fun line => !line.all Text.isBlank).map indent).min?

/-- The lines without empty ones at either end. -/
def trimLines (lines : List Text) : List Text :=
  ((lines.dropWhile List.isEmpty).reverse.dropWhile List.isEmpty).reverse

/-- The text of a docstring.  The first line stands behind the quotes, so the
margin is that of the lines after it. -/
def clean (doc : Text) : Text :=
  match Text.splitOn '\n' (expandTabs 0 doc) with
  | [] => []
  | first :: rest =>
    let rest := rest.map (·.drop ((margin rest).getD 0))
    Text.joinWith "\n" (trimLines (first.dropWhile Text.isBlank :: rest))

end Docstring
end HelpPages
