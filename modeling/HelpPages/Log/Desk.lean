import HelpPages.Log.Basic

/-! # The log in use

A program has one log that everyone shares, and a part of it may keep a log of
its own for a while.  Opening a new shared log with a faulty specification
leaves everything as it was.
-/
namespace HelpPages

/-- The shared log, the log of its own if there is one, and the hints. -/
structure Desk where
  shared : Log
  own : Option Log := none
  hints : Hints := Hints.standard

namespace Desk

/-- The log in use. -/
def current (d : Desk) : Log := d.own.getD d.shared

/-- The desk with another log in use. -/
def update (d : Desk) (log : Log) : Desk :=
  if d.own.isSome then { d with own := some log } else { d with shared := log }

/-- A new shared log for a verbosity and specifications of channels, in use. -/
def openShared (verbosity : Int) (specs : List Text) (d : Desk) : Except Integer.Error Desk := do
  return { d with shared := ← Log.ofSpecs verbosity specs, own := none }

/-- The shared log in use. -/
def useShared (d : Desk) : Desk := { d with own := none }

/-- A new shared log as it is when nobody has opened one, in use. -/
def reset (d : Desk) : Desk := { d with shared := {}, own := none }

end Desk
end HelpPages
