import HelpPages.Log.Channel
import HelpPages.Log.Hint

/-! # The log

A log shows messages whose level does not exceed the threshold of their channel.
A threshold of -4 or less shows nothing at all.  The log keeps what it has
printed and which hints were among it.
-/
namespace HelpPages

/-- A log: how much it shows, and what it has shown. -/
structure Log where
  verbosity : Int := 0
  levels : Levels := []
  shown : List Text := []
  printed : List Text := []
deriving DecidableEq, Repr

namespace Log

/-- The threshold of a log that shows nothing. -/
def wall : Int := -4

/-- The level of errors. -/
def errorLevel : Int := -3

/-- The log for a verbosity and specifications of channels. -/
def ofSpecs (verbosity : Int) (specs : List Text) : Except Integer.Error Log := do
  return { verbosity, levels := ← Levels.ofSpecs specs }

/-- The level up to which a channel is shown. -/
def threshold (log : Log) (channel : Text) : Int := (log.levels.get? channel).getD log.verbosity

/-- A message of a level is shown on a channel. -/
def isActive (log : Log) (channel : Text) (level : Int) : Bool :=
  wall < log.threshold channel && level ≤ log.threshold channel

/-- The log with one more text printed. -/
def print (log : Log) (text : Text) : Log := { log with printed := log.printed ++ [text] }

/-- A message whose text is final. -/
def say (log : Log) (level : Int) (channel text : Text) : Log :=
  if log.isActive channel level then log.print text else log

/-- The text of a template; without values it is the template itself. -/
def textOf (message : Text) (values : Entries Value) : Except Template.Error Text :=
  if values = [] then .ok message else Template.fill values message

/-- A message whose text is a template to be filled in if it is shown. -/
def emit (log : Log) (level : Int) (channel message : Text) (values : Entries Value) :
    Except Template.Error Log :=
  if log.isActive channel level then do return log.print (← textOf message values) else .ok log

/-- An error. -/
def error (log : Log) (message : Text) : Log := log.say errorLevel "error" message

/-- A hint for an occasion, shown if it was not shown before. -/
def hint (log : Log) (hints : Hints) (id context : Text) (values : Entries Value) :
    Except Template.Error Log :=
  match hints.get? id with
  | none => .ok log
  | some h =>
    if id ∉ log.shown ∧ context ∈ h.contexts ∧ log.isActive "hint" h.minLevel then do
      let text ← textOf h.message values
      return { log.print text with shown := log.shown ++ [id] }
    else .ok log

end Log
end HelpPages
