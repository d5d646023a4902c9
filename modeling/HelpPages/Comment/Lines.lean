import HelpPages.Text.Blank

/-! # The lines of a comment

A doc comment is free text, or a block comment whose lines may start with
asterisks.  Its content lines are what remains without the delimiters, the
asterisks and the blanks around each line.
-/
namespace HelpPages
namespace Comment

/-- The text between the delimiters of a block comment; a text without both of
them stays as it is. -/
def undelimit (t : Text) : Text :=
  match t with
  | '/' :: '*' :: rest =>
    match rest.reverse with
    | '/' :: '*' :: body => body.reverse
    | _ => t
  | _ => t

/-- A line without blanks around it and without the asterisks and blanks at its
start. -/
def cleanLine (line : Text) : Text :=
  (Text.strip line).dropWhile fun c => c = '*' || c = ' '

/-- The content lines of a comment. -/
def lines (comment : Text) : List Text :=
  (Text.splitOn '\n' (undelimit (Text.strip comment))).map cleanLine

end Comment
end HelpPages
