import HelpPages.Failure
import HelpPages.Text.Utf8

/-! # Writing output

Finished text goes to the output of the program, which may take bytes of UTF-8 or keep the text
as it is.  In bytes only texts made of characters can be written.
-/
namespace HelpPages

/-- What takes the output. -/
inductive Sink where
  /-- A stream of bytes of UTF-8. -/
  | utf8
  /-- Memory, which keeps any text. -/
  | memory
deriving DecidableEq, Repr

/-- The sink takes a text. -/
def Sink.takes : Sink → Text → Bool
  | utf8, t => t.isEncodable
  | memory, _ => true

/-- Text for the output, of which nothing is written if the sink does not take it. -/
def Run.print (sink : Sink) (text : Text) : Run Failure Unit :=
  if sink.takes text then Run.put text else Run.fail .unencodable

/-- Finished text for the output; its last line is ended. -/
def Run.write (sink : Sink) (text : Text) : Run Failure Unit :=
  Run.print sink (if text.getLast? = some '\n' then text else text ++ "\n")

end HelpPages
