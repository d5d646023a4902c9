import HelpPages.Text.Basic

/-! # The name of the program in a page

Usage texts and examples name the program by a token, such as `$0`, which is
replaced by the name under which the program was called.
-/
namespace HelpPages

/-- The token that stands for the program, and the name that replaces it. -/
structure Substitution where
  token : Text := "$0"
  program : Text := "app"
deriving DecidableEq, Repr

namespace Substitution

/-- Nothing is replaced. -/
def none : Substitution := ⟨[], []⟩

/-- The text with every token replaced by the name of the program. -/
def apply (s : Substitution) (t : Text) : Text := Text.replace s.token s.program t

/-- A text without a token to look for stays as it is. -/
theorem apply_empty (program t : Text) : apply ⟨[], program⟩ t = t := by
  simp only [apply]
  induction t with
  | nil => rw [Text.replace]
  | cons c rest ih => rw [Text.replace, if_neg (by simp), ih]

end Substitution
end HelpPages
