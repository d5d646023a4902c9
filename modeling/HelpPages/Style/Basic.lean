import HelpPages.Number.Integer

/-! # Styles

A style is a list of codes for the terminal, and a styled text stands between the escape
sequence with these codes and the one that resets them.  How a description is read as a style
is left to whoever writes in one.
-/
namespace HelpPages

/-- The look of a text: the codes that set it. -/
structure Style where
  codes : List Nat := []
deriving DecidableEq, Repr

namespace Style

/-- The escape sequence that sets codes. -/
def sequence (codes : List Nat) : Text :=
  "\x1b[" ++ Text.joinWith ";" (codes.map Integer.ofNat) ++ "m"

/-- A text in a style.  An empty text stays empty, and a style without codes
changes nothing. -/
def apply (s : Style) (t : Text) : Text :=
  if t = [] ∨ s.codes = [] then t else sequence s.codes ++ t ++ sequence [0]

/-- The style of headings, which is yellow. -/
def headingStyle : Style := ⟨[33]⟩

/-- The style of names and flags, which is green. -/
def emphasisStyle : Style := ⟨[32]⟩

end Style

/-- A pen writes texts in styles, or plainly if it has no colours. -/
structure Pen where
  colored : Bool
deriving DecidableEq, Repr

namespace Pen

/-- The pen that writes plainly. -/
def plain : Pen := ⟨false⟩

/-- A text in a style. -/
def write (p : Pen) (s : Style) (t : Text) : Text := if p.colored then s.apply t else t

/-- A text in the style that a description is read as; nothing is read of the
description unless the style can show. -/
def writeAs {ε : Type} (p : Pen) (read : Text → Except ε Style) (description t : Text) :
    Except ε Text :=
  if p.colored ∧ t ≠ [] then do return (← read description).apply t else .ok t

/-- A heading. -/
def heading (p : Pen) (t : Text) : Text := p.write Style.headingStyle t

/-- A name or a flag. -/
def emphasis (p : Pen) (t : Text) : Text := p.write Style.emphasisStyle t

end Pen
end HelpPages
