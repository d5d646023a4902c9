import HelpPages.Comment.Lines
import HelpPages.Comment.Tag
import HelpPages.Page.Substitution

/-! # The page of a comment

Every content line of a comment adds to one part of the page: only the order of
the lines within each part matters.  Prose lines form the description, which
ends at the first empty line; what follows is the long description.
-/
namespace HelpPages

open Comment (Line)

/-- The text before the first run of two or more line feeds, and the text behind
the run if there is one. -/
def cutAtGap : Text → Text × Option Text
  | [] => ([], none)
  | '\n' :: '\n' :: rest => ([], some (rest.dropWhile (·.is '\n')))
  | c :: rest =>
    let (before, behind) := cutAtGap rest
    (c :: before, behind)

/-- The description and the long description in a text of prose. -/
def splitDescription (t : Text) : Text × Option Text :=
  cutAtGap (Text.trim (fun c => c = '\n' || c = ' ') t)

/-- What the content lines of a comment say. -/
def Comment.read (comment : Text) : List Line := (Comment.lines comment).map Line.ofText

namespace Page

/-- The page that lines document.  The last usage text counts, and an argument
that is named again keeps its place and takes the last description. -/
def ofLines (s : Substitution) (lines : List Line) : Page :=
  let (description, longDescription) :=
    splitDescription (Text.joinWith "\n" (lines.filterMap Line.prose?))
  { description, longDescription
    usage := (lines.filterMap Line.usage?).getLast?.map s.apply
    args := Entries.ofList (lines.filterMap Line.arg?)
    options := lines.filterMap Line.option?
    examples := (lines.filterMap Line.example?).map fun e => { e with code := s.apply e.code } }

/-- The page of a comment. -/
def ofComment (s : Substitution) (comment : Text) : Page := ofLines s (Comment.read comment)

end Page

end HelpPages
