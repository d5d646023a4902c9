import HelpPages.Value

/-! # Help pages

A page is the help for one command: what it does, how it is called, its
arguments and options, its sub-commands and some examples.
-/
namespace HelpPages

/-- An option of a command.  It has a long name, a flag of one character, or
both; either stands here without its dashes. -/
structure CommandOption where
  longName : Option Text := none
  flag : Option Text := none
  description : Text := []
deriving DecidableEq, Repr

namespace CommandOption

/-- A name behind its dashes; an absent or empty name has no label. -/
def label (dashes : Text) : Option Text → Text
  | none | some [] => []
  | some name => dashes ++ name

/-- The long name as it is typed. -/
def longLabel (o : CommandOption) : Text := label "--" o.longName

/-- The flag as it is typed. -/
def shortLabel (o : CommandOption) : Text := label "-" o.flag

end CommandOption

/-- A call of a command, and what it does. -/
structure Example where
  code : Text
  description : Text := []
deriving DecidableEq, Repr

/-- The help for one command. -/
structure Page where
  description : Text := []
  longDescription : Option Text := none
  usage : Option Text := none
  args : Entries Text := []
  options : List CommandOption := []
  subCommands : Entries Text := []
  examples : List Example := []
deriving DecidableEq, Repr

namespace Page

/-- The first line of the description, which is what a listing shows. -/
def shortDescription (page : Page) : Text := page.description.takeWhile (!·.is '\n')

/-- The page with one more sub-command. -/
def addSubCommand (name description : Text) (page : Page) : Page :=
  { page with subCommands := page.subCommands.put name description }

end Page
end HelpPages
