import HelpPages.CommandLine.Grammar
import HelpPages.Text.Digit

/-! # Roles of words

Before a command line is read, every word gets a role from its look alone.  A
word that starts with a dash is a switch, spelled out, cut short or with a value
attached; but a single dash, a negative number and what holds a blank are words
like any other if no switch matches.  All words behind two dashes are plain.
-/
namespace HelpPages
namespace CommandLine

/-- What a word is on a command line. -/
inductive Role (α : Type) where
  | plain
  /-- The first two dashes that stand alone. -/
  | dashes
  /-- Looks like a switch and is none. -/
  | unknown
  /-- A switch by one of its spellings, and the text attached to it. -/
  | switch (s : Switch α) (name : Text) (attached : Option Text)

/-- A word with its role. -/
structure Word (α : Type) where
  text : Text
  role : Role α

/-- A part of a word as long as no equals sign is met, and what is behind it. -/
def cutAtEquals (t : Text) : Text × Option Text :=
  match t.dropWhile (!·.is '=') with
  | [] => (t, none)
  | _ :: behind => (t.takeWhile (!·.is '='), some behind)

/-- Decimal digits of any script. -/
def isDigits (t : Text) : Bool := t.all fun c => (Text.digitValue? c).isSome

/-- A dash and a decimal number; it may end the line. -/
def isNegativeNumber : Text → Bool
  | '-' :: t =>
    let t := if t.getLast? = some '\n' then t.dropLast else t
    match t.dropWhile (!·.is '.') with
    | [] => t ≠ [] && isDigits t
    | _ :: decimals => isDigits (t.takeWhile (!·.is '.')) && decimals ≠ [] && isDigits decimals
  | _ => false

variable {α : Type}

/-- The switches that a word may be cut short from, or that it starts with, with
their spellings and the text attached to them. -/
def Grammar.candidates (g : Grammar α) : Text → List (Switch α × Text × Option Text)
  | '-' :: '-' :: t =>
    let (start, attached) := cutAtEquals ('-' :: '-' :: t)
    (g.spellings.filter fun (_, name) => start.isPrefixOf name).map fun (s, name) =>
      (s, name, attached)
  | '-' :: c :: t =>
    (g.spellings.filter fun (_, name) => name = "-" ++ [c]).map fun (s, name) => (s, name, some t)
  | _ => []

/-- The role of a word that starts with a dash and spells no switch out. -/
def Grammar.matchedRole (g : Grammar α) (t : Text) : Except Fault (Role α) :=
  match g.candidates t with
  | [(s, name, attached)] => .ok (.switch s name attached)
  | [] => .ok (if isNegativeNumber t ∨ t.contains ' ' then .plain else .unknown)
  | several => .error (.ambiguous t (several.map fun (_, name, _) => name))

/-- The role of a word. -/
def Grammar.role (g : Grammar α) (t : Text) : Except Fault (Role α) :=
  if t.head? ≠ some '-' then .ok .plain
  else
    match g.switch? t with
    | some s => .ok (.switch s t none)
    | none =>
      if t = "-" then .ok .plain
      else
        match cutAtEquals t with
        | (name, some attached) =>
          match g.switch? name with
          | some s => .ok (.switch s name (some attached))
          | none => g.matchedRole t
        | (_, none) => g.matchedRole t

/-- The words of a command line with their roles. -/
def Grammar.words (g : Grammar α) : List Text → Except Fault (List (Word α))
  | [] => .ok []
  | t :: ts =>
    if t = "--" then .ok (⟨t, .dashes⟩ :: ts.map (⟨·, .plain⟩))
    else do
      let role ← g.role t
      return ⟨t, role⟩ :: (← g.words ts)

end CommandLine
end HelpPages
