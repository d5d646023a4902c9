import HelpPages.Number.Binary64

/-! # Values

A value is what a settings file, a table cell or a message template may hold:
nothing, a truth value, a number, a text, a list or a map with texts as keys in
the order of their first appearance.  It is shown in two ways: plainly, where a
text stands for itself, and as a literal, where a text is quoted.  Neither way
shows a value with an integer that has too many digits.
-/
namespace HelpPages

/-- A dynamic value. -/
inductive Value where
  | null
  | bool (b : Bool)
  | int (i : Int)
  | float (x : Binary64)
  | text (t : Text)
  | list (items : List Value)
  | map (entries : List (Text × Value))
deriving Inhabited

namespace Value

mutual

/-- The literal of a value, however long its numerals are. -/
def literal : Value → Text
  | .null => "None"
  | .bool b => if b then "True" else "False"
  | .int i => Integer.toText i
  | .float x => x.toText
  | .text t => Text.quoted t
  | .list items => "[" ++ Text.joinWith ", " (itemLiterals items) ++ "]"
  | .map entries => "\x7b" ++ Text.joinWith ", " (entryLiterals entries) ++ "\x7d"

/-- The literals of the items of a list. -/
def itemLiterals : List Value → List Text
  | [] => []
  | item :: items => literal item :: itemLiterals items

/-- The literals of the entries of a map. -/
def entryLiterals : List (Text × Value) → List Text
  | [] => []
  | (key, value) :: entries =>
    (Text.quoted key ++ ": " ++ literal value) :: entryLiterals entries

end

/-- The plain text of a value, however long its numerals are. -/
def plain : Value → Text
  | .text t => t
  | v => literal v

@[simp] theorem plain_text (t : Text) : plain (.text t) = t := rfl

mutual

/-- The value has a text: each of its integers has one. -/
def isWritable : Value → Bool
  | .int i => Integer.isWritable i
  | .list items => areWritable items
  | .map entries => haveWritable entries
  | _ => true

/-- All items of a list have texts. -/
def areWritable : List Value → Bool
  | [] => true
  | item :: items => isWritable item && areWritable items

/-- All values of a map have texts. -/
def haveWritable : List (Text × Value) → Bool
  | [] => true
  | (_, value) :: entries => isWritable value && haveWritable entries

end

/-- The literal of a value that has one. -/
def literal? (v : Value) : Except Integer.Error Text :=
  if v.isWritable then .ok v.literal else .error .unwritable

/-- The plain text of a value that has one. -/
def plain? (v : Value) : Except Integer.Error Text :=
  if v.isWritable then .ok v.plain else .error .unwritable

/-- The values that count as a yes: all but nothing, `false`, zero and what is
empty. -/
def isTruthy : Value → Bool
  | .null => false
  | .bool b => b
  | .int i => i ≠ 0
  | .float (.finite _ mantissa _) => mantissa ≠ 0
  | .float _ => true
  | .text t => !t.isEmpty
  | .list items => !items.isEmpty
  | .map entries => !entries.isEmpty

end Value

/-- Pairs of names and values in the order in which the names first appeared. -/
abbrev Entries (α : Type) := List (Text × α)

namespace Entries

variable {α : Type}

/-- The value at a name. -/
def get? (name : Text) : Entries α → Option α
  | [] => none
  | (key, value) :: rest => if key = name then some value else get? name rest

/-- The entries with a value at a name: a known name keeps its place, a new one
comes last. -/
def put (name : Text) (value : α) : Entries α → Entries α
  | [] => [(name, value)]
  | (key, old) :: rest =>
    if key = name then (key, value) :: rest else (key, old) :: put name value rest

/-- The names in their order. -/
def names (entries : Entries α) : List Text := entries.map Prod.fst

/-- The entries that arise by putting pairs in one after the other. -/
def ofList (pairs : List (Text × α)) : Entries α :=
  pairs.foldl (fun entries (name, value) => put name value entries) []

/-- A name that was put in has its value, and no other name changes. -/
theorem get?_put (name key : Text) (value : α) (entries : Entries α) :
    get? key (put name value entries) = if key = name then some value else get? key entries := by
  induction entries with
  | nil => by_cases h : name = key <;> simp [put, get?, h, eq_comm]
  | cons entry rest ih =>
    obtain ⟨k, v⟩ := entry
    by_cases hk : k = name
    · subst hk
      by_cases h : k = key
      · simp [put, get?, h]
      · simp [put, get?, h, Ne.symm h]
    · by_cases h : k = key
      · subst h
        simp [put, get?, hk]
      · simp [put, get?, hk, h, ih]

/-- The names after putting one in: those before, and the name if it is new. -/
theorem names_put (name : Text) (value : α) (entries : Entries α) :
    names (put name value entries) =
      if name ∈ names entries then names entries else names entries ++ [name] := by
  induction entries with
  | nil => rfl
  | cons entry rest ih =>
    obtain ⟨k, v⟩ := entry
    by_cases hk : k = name
    · simp [put, names, hk]
    · have hne : ¬ name = k := fun h => hk h.symm
      simp only [names] at ih
      by_cases hm : name ∈ rest.map Prod.fst <;> simp [put, names, hk, hne, ih, hm]

end Entries
end HelpPages
