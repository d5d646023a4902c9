import HelpPages.Proofs.Outcome
import HelpPages.Table.Config
import Mathlib.Data.List.Basic

/-! # Options of a table

The choices of a table are given as options, under field names or short names, so that several
options may give one choice.  The last of them counts, and it is the only one whose value is
looked at: options are refused for a key that names no choice, or for a last value that is no
truth value (`Config.ofOptions_outcome`).
-/
namespace HelpPages
namespace Table

/-- The key is the field name or the short name of the choice. -/
def Choice.IsNamedBy (choice : Choice) (key : Text) : Prop :=
  key = choice.name ∨ key = choice.shortName

namespace Choice

variable {choice : Choice} {key : Text}

instance : Decidable (choice.IsNamedBy key) := inferInstanceAs (Decidable (_ ∨ _))

/-- A key gives the one choice that it names. -/
theorem ofOption?_eq_some_iff : ofOption? key = some choice ↔ choice.IsNamedBy key := by
  constructor
  · intro h
    have hnamed := List.find?_some h
    simp only [decide_eq_true_eq] at hnamed
    exact hnamed.imp Eq.symm Eq.symm
  · rintro (rfl | rfl)
    · cases choice <;> decide
    · cases choice <;> decide

theorem ofOption?_eq_none_iff :
    ofOption? key = none ↔ ∀ choice : Choice, ¬ choice.IsNamedBy key := by
  rw [Option.eq_none_iff_forall_ne_some]
  exact forall_congr' fun choice => not_congr ofOption?_eq_some_iff

end Choice

/-! ### The last value of a choice -/

/-- The value is the last one that options give for a choice. -/
def IsLast (options : Entries Value) (choice : Choice) (value : Value) : Prop :=
  ∃ before key behind, options = before ++ (key, value) :: behind ∧ choice.IsNamedBy key ∧
    ∀ entry ∈ behind, ¬ choice.IsNamedBy entry.1

/-- No option gives the choice. -/
def IsUnnamed (options : Entries Value) (choice : Choice) : Prop :=
  ∀ entry ∈ options, ¬ choice.IsNamedBy entry.1

/-- All keys name choices. -/
def AreKnown (options : Entries Value) : Prop :=
  ∀ entry ∈ options, ∃ choice : Choice, choice.IsNamedBy entry.1

/-- The last value that options give for a choice, if there is one. -/
def last? (options : Entries Value) (choice : Choice) : Option Value :=
  ((options.filter fun entry => choice.IsNamedBy entry.1).getLast?).map Prod.snd

variable {options : Entries Value} {choice : Choice} {value : Value}

theorem last?_eq_none_iff : last? options choice = none ↔ IsUnnamed options choice := by
  rw [last?, Option.map_eq_none_iff, List.getLast?_eq_none_iff, List.filter_eq_nil_iff]
  simp only [decide_eq_true_eq, IsUnnamed]

theorem last?_eq_some_iff : last? options choice = some value ↔ IsLast options choice value := by
  rw [last?, Option.map_eq_some_iff]
  simp only [List.getLast?_eq_some_iff]
  constructor
  · rintro ⟨⟨key, _⟩, ⟨front, hfilter⟩, rfl⟩
    obtain ⟨before, rest, hoptions, -, hrest⟩ := List.filter_eq_append_iff.mp hfilter
    obtain ⟨skipped, behind, rfl, -, hnamed, hbehind⟩ := List.filter_eq_cons_iff.mp hrest
    refine ⟨before ++ skipped, key, behind, by rw [hoptions, List.append_assoc], ?_, ?_⟩
    · simpa using hnamed
    · simpa using List.filter_eq_nil_iff.mp hbehind
  · rintro ⟨before, key, behind, rfl, hnamed, hbehind⟩
    refine ⟨(key, value), ⟨before.filter fun entry => choice.IsNamedBy entry.1, ?_⟩, rfl⟩
    have hnone : (behind.filter fun entry => choice.IsNamedBy entry.1) = [] :=
      List.filter_eq_nil_iff.mpr fun entry hentry => by simpa using hbehind entry hentry
    rw [List.filter_append, List.filter_cons_of_pos (by simpa using hnamed), hnone]

/-! ### Values for choices -/

namespace Config

/-- The truth value of a choice. -/
def get (config : Config) : Choice → Bool
  | .border => config.border
  | .frame => config.frame
  | .skipEmpty => config.skipEmpty
  | .header => config.header

variable {values : List (Choice × Value)} {config : Config} {e : ConfigError}

theorem ofChoices_eq_ok_iff :
    ofChoices values = .ok config ↔ ∀ choice, chosen values choice = .ok (config.get choice) := by
  constructor
  · intro h
    obtain ⟨border, hborder, h⟩ := bind_eq_ok_iff.mp h
    obtain ⟨frame, hframe, h⟩ := bind_eq_ok_iff.mp h
    obtain ⟨skipEmpty, hskipEmpty, h⟩ := bind_eq_ok_iff.mp h
    obtain ⟨header, hheader, h⟩ := bind_eq_ok_iff.mp h
    cases h
    intro choice
    cases choice with
    | border => exact hborder
    | frame => exact hframe
    | skipEmpty => exact hskipEmpty
    | header => exact hheader
  · intro h
    simp only [ofChoices, h]
    rfl

/-- The truth values of all choices, in their order, make a configuration. -/
def ofBools (bools : List Bool) : Config where
  border := bools.getD 0 false
  frame := bools.getD 1 false
  skipEmpty := bools.getD 2 false
  header := bools.getD 3 false

theorem ofChoices_eq (values : List (Choice × Value)) :
    ofChoices values = (Choice.all.mapM (chosen values)).map ofBools := by
  simp only [ofChoices, Choice.all, List.mapM_cons, List.mapM_nil]
  cases chosen values .border with
  | error e => rfl
  | ok border =>
    cases chosen values .frame with
    | error e => rfl
    | ok frame =>
      cases chosen values .skipEmpty with
      | error e => rfl
      | ok skipEmpty => cases chosen values .header <;> rfl

/-- Values fail at the first choice whose value is no truth value. -/
theorem ofChoices_eq_error_iff :
    ofChoices values = .error e ↔ ∃ earlier choice later, Choice.all = earlier ++ choice :: later ∧
      (∀ other ∈ earlier, ∃ b, chosen values other = .ok b) ∧ chosen values choice = .error e := by
  rw [ofChoices_eq, map_eq_error_iff, mapM_eq_error_iff]

/-! ### Options as values for choices -/

/-- The choice that an option gives, with its value. -/
def choiceOf (option : Text × Value) : Except ConfigError (Choice × Value) :=
  match Choice.ofOption? option.1 with
  | some choice => .ok (choice, option.2)
  | none => .error (.unknownOption option.1)

theorem ofOptions_eq (options : Entries Value) :
    ofOptions options = options.mapM choiceOf >>= ofChoices := rfl

theorem choiceOf_eq_ok_iff {option : Text × Value} {found : Choice × Value} :
    choiceOf option = .ok found ↔ found.1.IsNamedBy option.1 ∧ found.2 = option.2 := by
  obtain ⟨choice, value⟩ := found
  rw [← Choice.ofOption?_eq_some_iff, choiceOf]
  cases Choice.ofOption? option.1 with
  | none => simp
  | some other => simp [eq_comm]

theorem choiceOf_eq_error_iff {option : Text × Value} :
    choiceOf option = .error e ↔
      e = .unknownOption option.1 ∧ ∀ choice : Choice, ¬ choice.IsNamedBy option.1 := by
  rw [← Choice.ofOption?_eq_none_iff, choiceOf]
  cases Choice.ofOption? option.1 with
  | none => simp [eq_comm]
  | some choice => simp

/-- Options give values for choices if their keys are known, and only then. -/
theorem exists_mapM_choiceOf_iff :
    (∃ values, options.mapM choiceOf = .ok values) ↔ AreKnown options := by
  have hoption : ∀ option, (∃ found, choiceOf option = .ok found) ↔
      ∃ choice : Choice, choice.IsNamedBy option.1 := by
    intro option
    constructor
    · rintro ⟨found, h⟩
      exact ⟨found.1, (choiceOf_eq_ok_iff.mp h).1⟩
    · rintro ⟨choice, hnamed⟩
      exact ⟨(choice, option.2), choiceOf_eq_ok_iff.mpr ⟨hnamed, rfl⟩⟩
  constructor
  · rintro ⟨values, h⟩ option hmem
    exact (hoption option).mp (exists_of_mapM h option hmem)
  · intro h
    exact exists_mapM fun option hmem => (hoption option).mpr (h option hmem)

/-- Each choice has the values of its options, in their order. -/
theorem map_filter_of_mapM (h : options.mapM choiceOf = .ok values) (choice : Choice) :
    (values.filter fun value => value.1 = choice).map Prod.snd =
      (options.filter fun entry => choice.IsNamedBy entry.1).map Prod.snd := by
  induction options generalizing values with
  | nil => cases h; rfl
  | cons option options ih =>
    rw [List.mapM_cons] at h
    obtain ⟨⟨other, value⟩, hoption, h⟩ := bind_eq_ok_iff.mp h
    obtain ⟨rest, hrest, hdone⟩ := bind_eq_ok_iff.mp h
    cases hdone
    obtain ⟨hnamed, rfl⟩ := choiceOf_eq_ok_iff.mp hoption
    have hiff : other = choice ↔ choice.IsNamedBy option.1 := by
      rw [← Choice.ofOption?_eq_some_iff, Choice.ofOption?_eq_some_iff.mpr hnamed, Option.some_inj]
    by_cases hchoice : other = choice
    · rw [List.filter_cons_of_pos (by simpa using hchoice),
        List.filter_cons_of_pos (by simpa using hiff.mp hchoice), List.map_cons, List.map_cons,
        ih hrest]
    · rw [List.filter_cons_of_neg (by simpa using hchoice),
        List.filter_cons_of_neg (by simpa using fun hn => hchoice (hiff.mpr hn)), ih hrest]

theorem chosen_eq_of_mapM (h : options.mapM choiceOf = .ok values) (choice : Choice) :
    chosen values choice =
      match last? options choice with
      | none => .ok false
      | some (.bool b) => .ok b
      | some value => .error (.notBool choice value) := by
  have hlast : ((values.filter fun value => value.1 = choice).getLast?).map Prod.snd =
      last? options choice := by
    rw [← List.getLast?_map, map_filter_of_mapM h, List.getLast?_map, last?]
  rw [← hlast, chosen]
  cases (values.filter fun value => value.1 = choice).getLast? with
  | none => rfl
  | some found =>
    obtain ⟨other, value⟩ := found
    cases value <;> rfl

/-! ### What becomes of options -/

variable {b : Bool}

theorem chosen_eq_ok_iff (h : options.mapM choiceOf = .ok values) :
    chosen values choice = .ok b ↔
      IsLast options choice (.bool b) ∨ IsUnnamed options choice ∧ b = false := by
  rw [chosen_eq_of_mapM h, ← last?_eq_some_iff, ← last?_eq_none_iff]
  cases last? options choice with
  | none => simp [eq_comm]
  | some value => cases value <;> simp

theorem chosen_eq_error_iff (h : options.mapM choiceOf = .ok values) :
    chosen values choice = .error e ↔
      ∃ value, IsLast options choice value ∧ (∀ b, value ≠ .bool b) ∧
        e = .notBool choice value := by
  simp only [chosen_eq_of_mapM h, ← last?_eq_some_iff]
  cases last? options choice with
  | none => simp
  | some value => cases value <;> simp [eq_comm]

/-- The last value of the choice is a truth value, if options give it one. -/
def IsSound (options : Entries Value) (choice : Choice) : Prop :=
  ∀ value, IsLast options choice value → ∃ b, value = .bool b

theorem exists_chosen_iff (h : options.mapM choiceOf = .ok values) :
    (∃ b, chosen values choice = .ok b) ↔ IsSound options choice := by
  rw [exists_eq_ok_iff]
  simp only [ne_eq, chosen_eq_error_iff h, not_exists, not_and, IsSound]
  constructor
  · intro hno value hlast
    by_contra hkind
    exact hno _ value hlast (fun b hb => hkind ⟨b, hb⟩) rfl
  · rintro hsound e value hlast hkind -
    obtain ⟨b, rfl⟩ := hsound value hlast
    exact hkind b rfl

/-- Why options make no configuration: the first key that names no choice, or else the first
choice whose last value is no truth value. -/
inductive Refuses (options : Entries Value) : ConfigError → Prop
  | unknown {before behind : Entries Value} {key : Text} {value : Value}
      (split : options = before ++ (key, value) :: behind) (known : AreKnown before)
      (unnamed : ∀ choice : Choice, ¬ choice.IsNamedBy key) : Refuses options (.unknownOption key)
  | notBool {earlier later : List Choice} {choice : Choice} {value : Value}
      (known : AreKnown options) (order : Choice.all = earlier ++ choice :: later)
      (sound : ∀ other ∈ earlier, IsSound options other) (last : IsLast options choice value)
      (kind : ∀ b, value ≠ .bool b) : Refuses options (.notBool choice value)

theorem mapM_choiceOf_eq_error_iff :
    options.mapM choiceOf = .error e ↔ ∃ before key value behind,
      options = before ++ (key, value) :: behind ∧ AreKnown before ∧
        (∀ choice : Choice, ¬ choice.IsNamedBy key) ∧ e = .unknownOption key := by
  rw [mapM_eq_error_iff]
  constructor
  · rintro ⟨before, ⟨key, value⟩, behind, hoptions, hbefore, hkey⟩
    obtain ⟨rfl, hunnamed⟩ := choiceOf_eq_error_iff.mp hkey
    exact ⟨before, key, value, behind, hoptions,
      exists_mapM_choiceOf_iff.mp (exists_mapM hbefore), hunnamed, rfl⟩
  · rintro ⟨before, key, value, behind, hoptions, hknown, hunnamed, rfl⟩
    obtain ⟨_, hbefore⟩ := exists_mapM_choiceOf_iff.mpr hknown
    exact ⟨before, (key, value), behind, hoptions, exists_of_mapM hbefore,
      choiceOf_eq_error_iff.mpr ⟨rfl, hunnamed⟩⟩

theorem ofOptions_eq_error_iff : ofOptions options = .error e ↔ Refuses options e := by
  rw [ofOptions_eq, bind_eq_error_iff, mapM_choiceOf_eq_error_iff]
  constructor
  · rintro (⟨before, key, value, behind, hoptions, hknown, hunnamed, rfl⟩ | ⟨values, hvalues, h⟩)
    · exact .unknown hoptions hknown hunnamed
    · obtain ⟨earlier, choice, later, hall, hearlier, hchoice⟩ := ofChoices_eq_error_iff.mp h
      obtain ⟨value, hlast, hkind, rfl⟩ := (chosen_eq_error_iff hvalues).mp hchoice
      exact .notBool (exists_mapM_choiceOf_iff.mp ⟨values, hvalues⟩) hall
        (fun other hother => (exists_chosen_iff hvalues).mp (hearlier other hother)) hlast hkind
  · intro h
    cases h with
    | unknown split known unnamed => exact .inl ⟨_, _, _, _, split, known, unnamed, rfl⟩
    | notBool known order sound last kind =>
      obtain ⟨values, hvalues⟩ := exists_mapM_choiceOf_iff.mpr known
      have herror := (chosen_eq_error_iff hvalues).mpr ⟨_, last, kind, rfl⟩
      exact .inr ⟨values, hvalues, ofChoices_eq_error_iff.mpr ⟨_, _, _, order,
        fun other hother => (exists_chosen_iff hvalues).mpr (sound other hother), herror⟩⟩

theorem ofOptions_eq_ok_iff :
    ofOptions options = .ok config ↔ AreKnown options ∧ ∀ choice,
      IsLast options choice (.bool (config.get choice)) ∨
        IsUnnamed options choice ∧ config.get choice = false := by
  rw [ofOptions_eq, bind_eq_ok_iff, ← exists_mapM_choiceOf_iff]
  constructor
  · rintro ⟨values, hvalues, h⟩
    exact ⟨⟨values, hvalues⟩, fun choice =>
      (chosen_eq_ok_iff hvalues).mp (ofChoices_eq_ok_iff.mp h choice)⟩
  · rintro ⟨⟨values, hvalues⟩, h⟩
    exact ⟨values, hvalues, ofChoices_eq_ok_iff.mpr fun choice =>
      (chosen_eq_ok_iff hvalues).mpr (h choice)⟩

/-- Options make a configuration if their keys are known and the last value of each choice is a
truth value. -/
theorem exists_ofOptions_iff :
    (∃ config, ofOptions options = .ok config) ↔
      AreKnown options ∧ ∀ choice, IsSound options choice := by
  constructor
  · rintro ⟨config, h⟩
    obtain ⟨values, hvalues, h⟩ := bind_eq_ok_iff.mp h
    exact ⟨exists_mapM_choiceOf_iff.mp ⟨values, hvalues⟩, fun choice =>
      (exists_chosen_iff hvalues).mp ⟨_, ofChoices_eq_ok_iff.mp h choice⟩⟩
  · rintro ⟨hknown, hsound⟩
    obtain ⟨values, hvalues⟩ := exists_mapM_choiceOf_iff.mpr hknown
    obtain ⟨bools, hbools⟩ : ∃ bools, Choice.all.mapM (chosen values) = .ok bools :=
      exists_mapM fun choice _ => (exists_chosen_iff hvalues).mpr (hsound choice)
    refine ⟨ofBools bools, bind_eq_ok_iff.mpr ⟨values, hvalues, ?_⟩⟩
    rw [ofChoices_eq, hbools]
    rfl

/-- **Options are refused for a key that names no choice, or else for a choice whose last value
is no truth value; otherwise each choice is as its last option says, and off if there is none.**
A value that a later option replaces is not looked at. -/
theorem ofOptions_outcome (options : Entries Value) :
    ((∃ e, ofOptions options = .error e) ↔
      ¬ AreKnown options ∨ ∃ choice, ¬ IsSound options choice) ∧
    (∀ e, ofOptions options = .error e ↔ Refuses options e) ∧
    ∀ config, ofOptions options = .ok config ↔ AreKnown options ∧ ∀ choice,
      IsLast options choice (.bool (config.get choice)) ∨
        IsUnnamed options choice ∧ config.get choice = false := by
  refine ⟨?_, fun e => ofOptions_eq_error_iff, fun config => ofOptions_eq_ok_iff⟩
  rw [exists_eq_error_iff, exists_ofOptions_iff, not_and_or, not_forall]

/-- A value that is no truth value goes unnoticed behind the field name of its choice. -/
example : ofOptions [("border", .int 3), ("draw_border", .bool true)] = .ok { border := true } := by
  rfl

end Config
end Table
end HelpPages
