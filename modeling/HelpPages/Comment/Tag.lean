import HelpPages.Page.Basic
import HelpPages.Text.Word

/-! # Tag lines

A content line of a comment may start with a tag that says what it documents:
`@usage`, `@arg`, `@opt`, `@flag` or `@example`.  What follows a tag is read word
by word.  A line that looks like a tag and is none of these says nothing, and
every other line is prose.
-/
namespace HelpPages
namespace Comment

/-- The tags that document something. -/
inductive Tag where
  | usage | arg | opt | flag | example
deriving DecidableEq, Repr

namespace Tag

/-- The tag that a word is. -/
def ofWord? (word : Text) : Option Tag :=
  if word = "@usage" then some usage
  else if word = "@arg" then some arg
  else if word = "@opt" then some opt
  else if word = "@flag" then some flag
  else if word = "@example" then some .example
  else none

end Tag

/-- What a content line says. -/
inductive Line where
  /-- How the command is called. -/
  | usage (text : Text)
  /-- An argument of the command. -/
  | arg (name description : Text)
  /-- An option of the command. -/
  | option (o : CommandOption)
  /-- A call of the command. -/
  | example (e : Example)
  /-- A tag that documents nothing. -/
  | dropped (line : Text)
  /-- A line of the description. -/
  | prose (line : Text)
deriving DecidableEq, Repr

/-- A letter or a digit of ASCII. -/
def isPlain (c : CodePoint) : Bool := c.isAlphanum

/-- A character of a long name. -/
def isNameChar (c : CodePoint) : Bool := isPlain c || c = '_' || c = '=' || c = '-'

/-- A character of a tag. -/
def isTagChar (c : CodePoint) : Bool := isPlain c || c = '_' || c = '-'

/-- A word that is wholly a long name without dashes before it. -/
def isLongName (word : Text) : Bool := word.all isNameChar && word.head?.any (!·.is '-')

/-- The long name that a word is, with or without two dashes before it. -/
def longName? (word : Text) : Option Text :=
  let name :=
    match word with
    | '-' :: '-' :: name => name
    | _ => word
  if isLongName name then some name else none

/-- The flag that a word is: one word character behind a dash. -/
def shortFlag? : Text → Option Text
  | ['-', c] => if Text.isWordChar c then some [c] else none
  | _ => none

/-- The flag that a word of a `@flag` line is: one letter or digit, with or
without a dash. -/
def bareFlag? : Text → Option Text
  | [c] | ['-', c] => if isPlain c then some [c] else none
  | _ => none

/-- The first word of a text if it can be read, and what follows it; otherwise
nothing and the whole text. -/
def takeWord? (read? : Text → Option Text) (t : Text) : Option Text × Text :=
  match read? (Text.cutWord t).1 with
  | some found => (some found, (Text.cutWord t).2)
  | none => (none, t)

/-- The option that the text behind `@opt` documents: a long name, a flag and a
description, each of which may be left out. -/
def readOption (body : Text) : CommandOption :=
  let (longName, rest) := takeWord? longName? body
  let (flag, description) := takeWord? shortFlag? rest
  { longName, flag, description }

/-- The example that the text behind `@example` documents: code between
backticks, and behind a blank what it does. -/
def readExample? : Text → Option Example
  | '\x60' :: rest =>
    match rest.takeWhile (!·.is '\x60'), rest.dropWhile (!·.is '\x60') with
    | [], _ => none
    | code, ['\x60'] => some { code }
    | code, '\x60' :: c :: rest =>
      if Text.isBlank c then some { code, description := rest.dropWhile Text.isBlank } else none
    | _, _ => none
  | _ => none

/-- What a tag says with the text behind it, if the text fits the tag. -/
def Tag.read? (tag : Tag) (body : Text) : Option Line :=
  if body = [] then none
  else
    let (word, rest) := Text.cutWord body
    match tag with
    | .usage => some (.usage body)
    | .arg => some (.arg word rest)
    | .opt => some (.option (readOption body))
    | .flag => (bareFlag? word).map fun flag => .option { flag, description := rest }
    | .example => (readExample? body).map .example

/-- The line starts like a tag. -/
def looksTagged : Text → Bool
  | '@' :: c :: _ => isTagChar c
  | _ => false

/-- What a content line says. -/
def Line.ofText (line : Text) : Line :=
  let (word, body) := Text.cutWord line
  match (Tag.ofWord? word).bind (·.read? body) with
  | some said => said
  | none => if looksTagged line then .dropped line else .prose line

namespace Line

/-- The usage text of a usage line. -/
def usage? : Line → Option Text
  | usage text => some text
  | _ => none

/-- The name and description of an argument line. -/
def arg? : Line → Option (Text × Text)
  | arg name description => some (name, description)
  | _ => none

/-- The option of an option line. -/
def option? : Line → Option CommandOption
  | option o => some o
  | _ => none

/-- The example of an example line. -/
def example? : Line → Option Example
  | .example e => some e
  | _ => none

/-- The text of a dropped line. -/
def dropped? : Line → Option Text
  | dropped line => some line
  | _ => none

/-- The text of a line of prose. -/
def prose? : Line → Option Text
  | prose line => some line
  | _ => none

/-- The line names the program, so a substitution may change it. -/
def namesProgram : Line → Bool
  | usage _ | .example _ => true
  | _ => false

end Line

end Comment
end HelpPages
