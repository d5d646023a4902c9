import HelpPages.Page.Run

/-! # Readers of pages

The token and the name of the program come from settings and may be values of
any kind.  A reader for values that are no texts reads every comment that does
not name the program, and fails at the first line that does.
-/
namespace HelpPages

/-- A way to read comments. -/
inductive Reader where
  | replacing (s : Substitution)
  /-- The token or the name is no text. -/
  | unable
deriving DecidableEq, Repr

namespace Reader

/-- The reader for a token and a name.  A token that is as good as none replaces
nothing. -/
def ofValues (token program : Value) : Reader :=
  if !token.isTruthy then replacing .none
  else
    match token, program with
    | .text token, .text program => replacing ⟨token, program⟩
    | _, _ => unable

/-- The page of a comment, with the remarks on reading it. -/
def read (r : Reader) (comment : Text) : Run Failure Page :=
  match r with
  | replacing s => Page.read s comment
  | unable =>
    let lines := Comment.read comment
    if lines.any Comment.Line.namesProgram then do
      Comment.tellDropped ((lines.takeWhile (!·.namesProgram)).filterMap Comment.Line.dropped?)
      Run.fail .wrongKind
    else Page.read .none comment

/-- The text with every token replaced, which only texts can do. -/
def substitute (r : Reader) (t : Text) : Except Failure Text :=
  match r with
  | replacing s => .ok (s.apply t)
  | unable => .error .wrongKind

end Reader
end HelpPages
