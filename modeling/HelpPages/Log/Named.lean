import HelpPages.Log.Basic
import HelpPages.Value.Kind

/-! # Messages with named values

A message or a hint comes with named values for its template, and two of the
names have a meaning of their own: the channel of a message and the occasion of a
hint may stand among the values, where they are no values of the template.
Nothing may be given twice, neither these two nor what a message or a hint has
without a name.
-/
namespace HelpPages

/-- The value taken as a number is larger than `n`; none for a value that is no
number. -/
def Value.exceeds? (n : Int) : Value → Option Bool
  | .int i => some (n < i)
  | .bool b => some (n < if b then 1 else 0)
  | .float (.finite negative mantissa exponent) =>
    let (num, den) := Binary64.ratio mantissa exponent
    let num : Int := if negative then -num else num
    some (n * den < num)
  | .float (.infinite negative) => some !negative
  | .float .notANumber => some false
  | _ => none

/-- The entries without one name, and the value at that name. -/
def Entries.takeOut {α : Type} (name : Text) (entries : Entries α) : Option α × Entries α :=
  (entries.get? name, entries.filter fun entry => entry.1 ≠ name)

namespace Log

/-- Why a message with named values is not taken. -/
inductive NamedError where
  /-- Something is given twice. -/
  | twice
  /-- A value is of the wrong kind for its name. -/
  | wrongKind
  /-- The template cannot be filled in. -/
  | template (e : Template.Error)
deriving DecidableEq, Repr

/-- The threshold of what stands for a channel.  Only texts name channels, and
only a value with a hash code can be looked up among the names. -/
def thresholdOf (log : Log) (channel : Value) : Except NamedError Int :=
  match channel with
  | .text name => .ok (log.threshold name)
  | v => if v.kind.isHashable then .ok log.verbosity else .error .wrongKind

/-- What is given for a name, by itself or among the values, and the values
without it. -/
def given (name : Text) (own : Option Value) (values : Entries Value) :
    Except NamedError (Option Value × Entries Value) :=
  let (named, rest) := values.takeOut name
  if own.isSome && named.isSome then .error .twice else .ok (own <|> named, rest)

/-- Some of the names are among the values. -/
def namesAny (names : List String) (values : Entries Value) : Bool :=
  names.any fun name => (values.get? name).isSome

/-- The names of what every message has without a name. -/
def messageNames : List String := ["self", "level", "message"]

/-- A message with named values. -/
def emitNamed (log : Log) (level : Value) (message : Text) (channel : Option Value)
    (values : Entries Value) : Except NamedError Log := do
  if namesAny messageNames values then throw .twice
  let (channel, values) ← given "channel" channel values
  let threshold ← log.thresholdOf (channel.getD (.text "general"))
  if threshold ≤ wall then return log
  match level.exceeds? threshold with
  | none => throw .wrongKind
  | some true => return log
  | some false => return log.print (← (textOf message values).mapError .template)

/-- The names of what every hint has without a name. -/
def hintNames : List String := ["self", "hint_id"]

/-- A hint with named values. -/
def hintNamed (log : Log) (hints : Hints) (id : Text) (context : Option Value)
    (values : Entries Value) : Except NamedError Log := do
  if namesAny hintNames values then throw .twice
  let (context, values) ← given "context" context values
  if id ∈ log.shown ∨ (hints.get? id).isNone then return log
  match context.getD (.text "result") with
  | .text context => (log.hint hints id context values).mapError .template
  | v => if v.kind.isHashable then return log else throw .wrongKind

end Log

namespace Hint

/-- The names of the parts of a hint. -/
def partNames : List String := ["id", "message", "context", "min_level", "category"]

/-- The occasions in a value: texts in a list, or the characters of a text. -/
def contextsOf? : Value → Option (List Text)
  | .list items => some (items.map Value.plain).eraseDups
  | .text t => some (t.map fun c => [c]).eraseDups
  | _ => none

/-- The hint with named parts.  A hint has at least a name and a message, and no
parts of other names. -/
def ofParts? (parts : Entries Value) : Option Hint := do
  if !parts.all fun (name, _) => partNames.any fun known => (known : Text) = name then none
  let id ← parts.get? "id"
  let message ← parts.get? "message"
  let contexts : List Text ← match parts.get? "context" with
    | none => some ["verbose"]
    | some v => contextsOf? v
  let minLevel ← match parts.get? "min_level" with
    | none => some 1
    | some (.int i) => some i
    | some (.bool b) => some (if b then 1 else 0)
    | _ => none
  let category := ((parts.get? "category").map Value.plain).getD "general"
  return { id := id.plain, message := message.plain, contexts, minLevel, category }

end Hint
end HelpPages
