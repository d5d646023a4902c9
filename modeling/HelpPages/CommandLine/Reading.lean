import HelpPages.CommandLine.Role

/-! # Reading command lines

Words are read from left to right.  Switches take the value attached to them or
the plain word behind them.  A run of other words fills the open operands, each
with as many words as it can take; an optional operand for which the run leaves
no word stays empty for good.  Words that nothing takes are left over.
-/
namespace HelpPages
namespace CommandLine

/-- What was found on a command line until its end, with the words left over, or
until a fault. -/
structure Reading (α : Type) where
  items : List (Item α) := []
  outcome : Except Fault (List Text)

namespace Reading

variable {α : Type}

/-- The reading that ends with a fault. -/
def refused (fault : Fault) : Reading α := { outcome := .error fault }

/-- The reading behind items that were found first. -/
def after (items : List (Item α)) (r : Reading α) : Reading α :=
  { r with items := items ++ r.items }

/-- The reading behind a word that is left over. -/
def afterExtra (t : Text) (r : Reading α) : Reading α :=
  { r with outcome := r.outcome.map (t :: ·) }

end Reading

variable {α : Type}

namespace Word

/-- The word is plain. -/
def isPlain (w : Word α) : Bool :=
  match w.role with
  | .plain => true
  | _ => false

/-- The word is the two dashes behind which all is plain. -/
def isDashes (w : Word α) : Bool :=
  match w.role with
  | .dashes => true
  | _ => false

end Word

/-! ## Switches -/

/-- A word with switches: those that are done, the last one, and the text
attached to it. -/
structure Chain (α : Type) where
  done : List (Switch α) := []
  last : Switch α
  attached : Option Text := none

/-- The switches in a word that starts with a short one; every character attached
to a switch without a value is a short switch itself. -/
def Grammar.shortChain (g : Grammar α) (s : Switch α) : Text → Except Fault (Chain α)
  | [] => .error (.attached s.label [])
  | c :: rest =>
    if s.arity ≠ .none then .ok { last := s, attached := some (c :: rest) }
    else
      match g.switch? ['-', c] with
      | none => .error (.attached s.label (c :: rest))
      | some next =>
        match rest with
        | [] => .ok { done := [s], last := next }
        | rest => do
          let chain ← g.shortChain next rest
          return { chain with done := s :: chain.done }

/-- The switches in a word that starts with a switch. -/
def Grammar.chain (g : Grammar α) (s : Switch α) (name : Text) (attached : Option Text) :
    Except Fault (Chain α) :=
  match attached with
  | none => .ok { last := s }
  | some t =>
    if s.arity ≠ .none then .ok { last := s, attached := some t }
    else if isLong name then .error (.attached s.label t)
    else g.shortChain s t

/-- The words of a value; two dashes that stand for a value are none. -/
def withoutDashes (words : List Text) : List Text := words.erase "--"

/-- What a chain of switches finds before some words, and how many of the words it
takes. -/
def Chain.items (chain : Chain α) (following : List (Word α)) :
    Except Fault (List (Item α) × Nat) :=
  let done : List (Item α) := chain.done.map fun s => ⟨s.part, []⟩
  let found (words : List Text) : List (Item α) := done ++ [⟨chain.last.part, words⟩]
  match chain.attached, chain.last.arity, following with
  | some t, _, _ => .ok (found (withoutDashes [t]), 0)
  | none, .none, _ => .ok (found [], 0)
  | none, .optional, w :: _ => .ok (if w.isPlain then (found [w.text], 1) else (found [], 0))
  | none, .optional, [] => .ok (found [], 0)
  | none, .one, w :: _ =>
    if w.isPlain then .ok (found [w.text], 1) else .error (.noValue chain.last.label)
  | none, .one, [] => .error (.noValue chain.last.label)

/-! ## Operands -/

/-- How many words an operand takes, if it can be filled.  The two dashes go with
the words that they stand before or behind. -/
def Operand.span? (o : Operand α) (words : List (Word α)) : Option Nat :=
  let before := (words.takeWhile Word.isDashes).length
  match o.count, words.drop before with
  | .rest, w :: _ => if w.isPlain then some words.length else none
  | .one, w :: following | .optional, w :: following =>
    if w.isPlain then some (before + 1 + (following.takeWhile Word.isDashes).length)
    else if o.count = .optional then some before
    else none
  | .optional, [] => some before
  | _, [] => none

/-- What an operand finds in the words that it takes. -/
def Operand.item (o : Operand α) (words : List Text) : Except Fault (Item α) :=
  let words := if o.count = .rest then words else withoutDashes words
  match words with
  | [] => .ok ⟨o.part, []⟩
  | t :: _ =>
    if o.choices = [] ∨ t ∈ o.choices then .ok ⟨o.part, words⟩
    else .error (.noChoice o.name t o.choices)

/-- What operands found in a run of words: how many words they took, and which
operands are still open. -/
structure Filling (α : Type) where
  items : List (Item α) := []
  fault : Option Fault := none
  taken : Nat := 0
  unfilled : List (Operand α) := []

/-- Fills operands with words from left to right as far as possible. -/
def fill : List (Operand α) → List (Word α) → Filling α
  | [], _ => {}
  | o :: os, words =>
    match o.span? words with
    | none => { unfilled := o :: os }
    | some n =>
      match o.item ((words.take n).map Word.text) with
      | .error fault => { fault := some fault }
      | .ok item =>
        let more := fill os (words.drop n)
        { more with items := item :: more.items, taken := n + more.taken }

/-! ## Command lines -/

/-- The operands that must be filled. -/
def required (operands : List (Operand α)) : List Text :=
  (operands.filter (·.count = .one)).map Operand.name

/-- The reading of words while some operands are open. -/
def Grammar.readFrom (g : Grammar α) (unfilled : List (Operand α)) : List (Word α) → Reading α
  | [] =>
    if required unfilled = [] then { outcome := .ok [] }
    else .refused (.missing (required unfilled))
  | w :: ws =>
    match w.role with
    | .unknown => (g.readFrom unfilled ws).afterExtra w.text
    | .switch s name attached =>
      match g.chain s name attached >>= fun chain => chain.items ws with
      | .error fault => .refused fault
      | .ok (items, n) => (g.readFrom unfilled (ws.drop n)).after items
    | .plain | .dashes =>
      let filling := fill unfilled (w :: ws)
      match filling.fault, filling.taken with
      | some fault, _ => Reading.after filling.items (.refused fault)
      | none, 0 => (g.readFrom filling.unfilled ws).afterExtra w.text
      | none, n + 1 => (g.readFrom filling.unfilled (ws.drop n)).after filling.items
termination_by words => words.length
decreasing_by
  all_goals simp only [List.length_cons, List.length_drop]
  all_goals omega

/-- The reading of a command line. -/
def Grammar.read (g : Grammar α) (line : List Text) : Reading α :=
  match g.words line with
  | .error fault => .refused fault
  | .ok words => g.readFrom g.operands words

end CommandLine
end HelpPages
