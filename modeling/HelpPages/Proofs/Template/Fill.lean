import HelpPages.Proofs.Outcome
import HelpPages.Proofs.Value.Entries
import HelpPages.Log.Basic
import Mathlib.Data.List.TakeWhile

/-! # Templates that can always be filled in

Filling in a template fails at a fault in it, at a name without a value, at a value that does
not allow what the field asks of it, or at an integer with too many digits.  A bare field asks
for no more than its value: it shows it plainly or as its literal.  A template whose fields are
all bare is filled in whatever the values of its names are, if these have texts
(`fill_of_bare`).
-/
namespace HelpPages
namespace Template

/-- A name in a field that neither stands for a position nor leads to a part of its value. -/
structure IsName (name : Text) : Prop where
  nonempty : name ≠ []
  lettered : ∀ c ∈ name.head?, Text.digitValue? c = none
  whole : ∀ c ∈ name, c ≠ .char '.' ∧ c ≠ .char '['

instance (name : Text) : Decidable (IsName name) :=
  decidable_of_iff (name ≠ [] ∧ (∀ c ∈ name.head?, Text.digitValue? c = none) ∧
      ∀ c ∈ name, c ≠ .char '.' ∧ c ≠ .char '[')
    ⟨fun h => ⟨h.1, h.2.1, h.2.2⟩, fun h => ⟨h.1, h.2, h.3⟩⟩

/-- A field that shows the value of one of some names plainly, or as its literal. -/
structure Field.IsBare (names : List Text) (f : Field) : Prop where
  known : f.source ∈ names
  name : IsName f.source
  form : f.form = none ∨ f.form = some (.char 'r')
  layout : f.layout = []

instance (names : List Text) (f : Field) : Decidable (f.IsBare names) :=
  decidable_of_iff (f.source ∈ names ∧ IsName f.source ∧
      (f.form = none ∨ f.form = some (.char 'r')) ∧ f.layout = [])
    ⟨fun h => ⟨h.1, h.2.1, h.2.2.1, h.2.2.2⟩, fun h => ⟨h.1, h.2, h.3, h.4⟩⟩

/-- The piece stands for itself, or it is a bare field. -/
def Piece.IsBare (names : List Text) : Piece → Prop
  | .char _ => True
  | .field f => f.IsBare names
  | .fault _ => False

instance (names : List Text) : (piece : Piece) → Decidable (piece.IsBare names)
  | .char _ => inferInstanceAs (Decidable True)
  | .field f => inferInstanceAs (Decidable (f.IsBare names))
  | .fault _ => inferInstanceAs (Decidable False)

/-- The template has bare fields only. -/
def HasBareFields (names : List Text) (template : Text) : Prop :=
  ∀ piece ∈ pieces template, piece.IsBare names

instance (names : List Text) (template : Text) : Decidable (HasBareFields names template) :=
  inferInstanceAs (Decidable (∀ piece ∈ pieces template, piece.IsBare names))

variable {values : Entries Value}

theorem IsName.wholeNumber? {name : Text} (h : IsName name) : wholeNumber? name = .ok none := by
  obtain ⟨c, rest, rfl⟩ := List.exists_cons_of_ne_nil h.nonempty
  have hc : Text.digitValue? c = none := h.lettered c rfl
  have hnumber : number (c :: rest) = .ok (none, c :: rest) := by
    simp [number, hc]
  rw [Template.wholeNumber?, hnumber]
  rfl

/-- A name leads to its value. -/
theorem IsName.lookUp {name : Text} {v : Value} (h : IsName name)
    (hv : values.get? name = some v) : lookUp values name = .ok (.value v) := by
  have hstep : ∀ c ∈ name, (!(decide (c = .char '.') || decide (c = .char '['))) = true :=
    fun c hc => by simp [h.whole c hc]
  have htake : name.takeWhile (fun c => !(decide (c = .char '.') || decide (c = .char '['))) =
      name := List.takeWhile_eq_self_iff.mpr hstep
  have hdrop : name.dropWhile (fun c => !(decide (c = .char '.') || decide (c = .char '['))) =
      [] := List.dropWhile_eq_nil_iff.mpr hstep
  simp only [Template.lookUp, htake, hdrop, h.wholeNumber?, hv, bind, Except.bind]
  simp [h.nonempty, stepsFrom]
  rfl

/-- What a field shows of its value. -/
def Field.shown (f : Field) (v : Value) : Text := if f.form = none then v.plain else v.literal

/-- What a piece shows of some values. -/
def Piece.shown (values : Entries Value) : Piece → Text
  | .char c => [c]
  | .field f => ((values.get? f.source).map f.shown).getD []
  | .fault _ => []

/-- A value that has texts is laid out as itself. -/
theorem layOutItem_of_isWritable {v : Value} (h : v.isWritable = true) :
    layOutItem [] (.value v) = .ok v.plain := by
  rw [layOutItem, layOut, if_pos rfl, Value.plain?, if_pos h]
  rfl

/-- A bare field shows a value that has texts. -/
theorem Field.IsBare.show_value {names : List Text} {f : Field} (h : f.IsBare names) {v : Value}
    (writable : v.isWritable = true) :
    (inForm (.value v) f.form >>= layOutItem f.layout) = .ok (f.shown v) := by
  rw [h.layout, shown]
  rcases h.form with hform | hform
  · rw [hform, if_pos rfl]
    exact layOutItem_of_isWritable writable
  · have hliteral : inForm (.value v) f.form = .ok (.value (.text v.literal)) := by
      rw [hform, inForm, Item.literal, Value.literal?, if_pos writable]
      rfl
    rw [hliteral, if_neg (by rw [hform]; nofun)]
    exact layOutItem_of_isWritable (v := .text v.literal) rfl

/-- **A template with bare fields only is filled in whatever its values are**, if they have texts:
each field shows its value. -/
theorem fill_of_bare {template : Text} (h : HasBareFields values.names template)
    (writable : ∀ entry ∈ values, entry.2.isWritable = true) :
    fill values template = .ok ((pieces template).flatMap (·.shown values)) := by
  rw [fill, maxDepth, fillTo]
  refine bind_eq_ok_iff.mpr
    ⟨(pieces template).map (·.shown values), mapM_of_forall fun piece hpiece => ?_, rfl⟩
  have hbare := h piece hpiece
  cases piece with
  | char c => rfl
  | fault message => exact hbare.elim
  | field f =>
    have hfield : f.IsBare values.names := hbare
    obtain ⟨v, hv⟩ : ∃ v, values.get? f.source = some v := by
      cases hv : values.get? f.source with
      | some v => exact ⟨v, rfl⟩
      | none => exact absurd hfield.known (Entries.get?_eq_none_iff.mp hv)
    have hshown := hfield.show_value (writable _ (Entries.mem_of_get?_eq_some hv))
    rw [hfield.layout] at hshown
    simp only [hfield.name.lookUp hv, hfield.layout, Piece.shown, hv]
    exact hshown

end Template

/-- The text of a message whose template is cut into characters and bare fields. -/
theorem Log.textOf_of_pieces {template : Text} {pieces : List Template.Piece} (names : List Text)
    {values : Entries Value} (cut : Template.pieces template = pieces)
    (bare : ∀ piece ∈ pieces, piece.IsBare names) (given : values.names = names)
    (nonempty : values ≠ []) (writable : ∀ entry ∈ values, entry.2.isWritable = true) :
    textOf template values = .ok (pieces.flatMap (·.shown values)) := by
  subst cut
  rw [textOf, if_neg nonempty]
  exact Template.fill_of_bare (given ▸ bare) writable

end HelpPages
