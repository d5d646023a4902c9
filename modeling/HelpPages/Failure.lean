import HelpPages.Catalog.Basic
import HelpPages.Files
import HelpPages.Log.Run

/-! # Failures

Everything that may go wrong once the program knows what it has been asked for.
-/
namespace HelpPages

/-- Why a command does not come to its end. -/
inductive Failure where
  /-- The catalog does not have what is asked of it. -/
  | catalog (e : Catalog.Error)
  /-- A setting has a value of the wrong kind. -/
  | wrongKind
  /-- A file cannot be read. -/
  | file (e : FileTree.Error)
  /-- The bytes of an input are no text. -/
  | undecodable
  /-- A text has no form in bytes. -/
  | unencodable
  /-- A number is too long to be read, or to be written. -/
  | number (e : Integer.Error)
  /-- A settings file holds lists and maps that are too deep in each other. -/
  | tooDeep
  /-- A text of a length that is asked for cannot be made. -/
  | length (e : Text.LengthError)
  /-- A field of the input is too long. -/
  | fieldTooLong
  /-- The template of a message cannot be filled in. -/
  | template (e : Template.Error)
  /-- The user interrupted the program. -/
  | interrupted
deriving DecidableEq, Repr

/-- The wording of a failure. -/
def Failure.message : Failure → Text
  | catalog e => e.message
  | wrongKind => "A setting has a value of the wrong kind"
  | file e => e.message
  | undecodable => "The input is not UTF-8 text"
  | unencodable => "A text is not made of characters"
  | number e => e.message
  | tooDeep => "The settings are nested too deep"
  | length .overflow => "A length is out of range"
  | length .tooLong => "A text is too long"
  | fieldTooLong => "A field of the input is too long"
  | template _ => "A message cannot be made"
  | interrupted => "Interrupted"

instance : TemplateFailure Failure := ⟨.template⟩

end HelpPages
