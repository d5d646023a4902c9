import HelpPages.Log.Basic

/-! # Runs

A run does something that may fail, and tells a console about it on the way.  A message is
made from its template only if the log shows it, and a template that cannot be filled in is
an error at that place: so a run does not just tell things but goes on as they are taken, and
as the log answers whether it shows a channel.  A run is the tree of all that it may do, and
a console leads one way through it.
-/
namespace HelpPages

/-- What a run tells. -/
inductive Event where
  /-- Text for the output. -/
  | output (text : Text)
  /-- A message for the log: a template, and the values for its fields. -/
  | message (level : Int) (channel template : Text) (values : Entries Value)
  /-- A hint for the log. -/
  | hint (id context : Text) (values : Entries Value)
  /-- A complaint that no log holds back. -/
  | complaint (text : Text)

/-- The text for the output. -/
def Event.outputText : Event → Text
  | output text => text
  | _ => []

/-- What a run tells things to: a log with its hints, and an output. -/
structure Console where
  log : Log := {}
  hints : Hints := Hints.standard
  output : Text := []

namespace Console

/-- The console after an event; only a template may be refused. -/
def receive (c : Console) : Event → Except Template.Error Console
  | .output text => .ok { c with output := c.output ++ text }
  | .message level channel template values => do
    return { c with log := ← c.log.emit level channel template values }
  | .hint id context values => do
    return { c with log := ← c.log.hint c.hints id context values }
  | .complaint text => .ok { c with log := c.log.print text }

end Console

/-- Something that is done step by step. -/
inductive Run (ε α : Type) where
  /-- The end, with a result or an error. -/
  | done (outcome : Except ε α)
  /-- Something is told, and it goes on as the event is taken. -/
  | tell (event : Event) (next : Except Template.Error Unit → Run ε α)
  /-- The log is asked whether it shows a channel up to a level. -/
  | ask (level : Int) (channel : Text) (next : Bool → Run ε α)

/-- A kind of error that the error of a template is one of. -/
class TemplateFailure (ε : Type) where
  ofTemplate : Template.Error → ε

namespace Run

variable {δ ε α β : Type}

/-- What the run comes to on a console, and the console behind it. -/
def perform : Run ε α → Console → Except ε α × Console
  | done outcome, c => (outcome, c)
  | tell event next, c =>
    match c.receive event with
    | .ok c => (next (.ok ())).perform c
    | .error e => (next (.error e)).perform c
  | ask level channel next, c => (next (c.log.isActive channel level)).perform c

/-- What the run comes to on a console whose log shows nothing. -/
def outcome : Run ε α → Except ε α
  | done outcome => outcome
  | tell _ next => (next (.ok ())).outcome
  | ask _ _ next => (next false).outcome

/-- What the run writes on a console whose log shows nothing. -/
def output : Run ε α → Text
  | done _ => []
  | tell event next => event.outputText ++ (next (.ok ())).output
  | ask _ _ next => (next false).output

/-! ## Putting runs together -/

/-- The run that goes on from its outcome, be it a result or an error. -/
def attempt (r : Run ε α) (go : Except ε α → Run δ β) : Run δ β :=
  match r with
  | done outcome => go outcome
  | tell event next => tell event fun taken => (next taken).attempt go
  | ask level channel next => ask level channel fun shown => (next shown).attempt go

/-- A result or an error, and nothing told. -/
def ofExcept (x : Except ε α) : Run ε α := done x

/-- A run that fails at once. -/
def fail (e : ε) : Run ε α := done (.error e)

/-- One run after the other, unless the first one fails. -/
protected def bind (r : Run ε α) (f : α → Run ε β) : Run ε β :=
  r.attempt fun
    | .ok a => f a
    | .error e => fail e

instance : Monad (Run ε) where
  pure a := done (.ok a)
  bind := Run.bind

/-- The run with its error seen as another kind of error. -/
def mapError (f : ε → δ) (r : Run ε α) : Run δ α := r.attempt fun x => done (x.mapError f)

/-- The run that goes on with another one if it fails. -/
def recover (r : Run ε α) (handle : ε → Run ε α) : Run ε α :=
  r.attempt fun
    | .ok a => done (.ok a)
    | .error e => handle e

/-- A run that is done only if the log shows a channel up to a level. -/
def whenShown (level : Int) (channel : Text) (r : Run ε Unit) : Run ε Unit :=
  ask level channel fun shown => if shown then r else done (.ok ())

/-! ## Calls -/

/-- A literal cut to a length that fits a line of the log. -/
def shorten (literal : Text) : Text :=
  if 50 < literal.length then literal.take 47 ++ "..." else literal

/-- An argument of a call: its keyword if it is given by one, and its literal if it has one. -/
structure Argument (ε : Type) where
  keyword : Option Text := none
  literal : Except ε Text

/-- An argument as the trace shows it. -/
def Argument.text (a : Argument ε) : Except ε Text :=
  a.literal.map fun literal =>
    match a.keyword with
    | some keyword => keyword ++ "=" ++ shorten literal
    | none => shorten literal

/-- A call: the name of a function and its arguments. -/
structure Call (ε : Type) where
  function : Text
  arguments : List (Argument ε)

/-! ## Telling things -/

variable [TemplateFailure ε]

/-- Something is told; a template that cannot be filled in is an error. -/
def inform (event : Event) : Run ε Unit :=
  tell event fun taken => done (taken.mapError TemplateFailure.ofTemplate)

/-- A message for the log. -/
def emit (level : Int) (channel template : Text) (values : Entries Value) : Run ε Unit :=
  inform (.message level channel template values)

/-- A hint for the log. -/
def hint (id context : Text) (values : Entries Value) : Run ε Unit :=
  inform (.hint id context values)

/-- A complaint that no log holds back. -/
def complain (text : Text) : Run ε Unit := inform (.complaint text)

/-- Text for the output. -/
def put (text : Text) : Run ε Unit := inform (.output text)

/-! ## Traced calls -/

namespace Call

/-- The template of the message before a call. -/
def openingTemplate : Text := "[TRACE] >> \x7bfn\x7d(\x7bargs\x7d)"

/-- The template of the message behind a call that came to a result. -/
def returnedTemplate : Text := "[TRACE] << \x7bfn\x7d returned: \x7bval\x7d"

/-- The template of the message behind a call that failed. -/
def raisedTemplate : Text := "[TRACE] !! \x7bfn\x7d raised: \x7bexc\x7d: \x7bmsg\x7d"

/-- A message of the trace about a call. -/
def tell (call : Call ε) (template : Text) (values : Entries Value) : Run ε Unit :=
  emit 3 "trace" template (("fn", .text call.function) :: values)

end Call

/-- The run of a call as the trace follows it, if the log shows the trace: a message before it,
and one behind it that shows the result, or the kind and the text of an error.  There is none
behind an error without a description, which is no matter of the program. -/
def traced (call : Call ε) (literal : α → Except ε Text)
    (describe : ε → Option (Text × Except ε Text)) (r : Run ε α) : Run ε α :=
  ask 3 "trace" fun shown =>
    if shown then do
      let arguments ← ofExcept (call.arguments.mapM Argument.text)
      call.tell Call.openingTemplate [("args", .text (Text.joinWith ", " arguments))]
      r.attempt fun
        | .ok a => do
          let t ← ofExcept (literal a)
          call.tell Call.returnedTemplate [("val", .text (shorten t))]
          return a
        | .error e =>
          match describe e with
          | none => fail e
          | some (kind, text) => do
            let t ← ofExcept text
            call.tell Call.raisedTemplate [("exc", .text kind), ("msg", .text t)]
            fail e
    else r

end Run

namespace Log

/-- What has been printed, with every text on a line of its own. -/
def text (log : Log) : Text := log.printed.flatMap (· ++ "\n")

end Log
end HelpPages
