import HelpPages.Log.Desk
import HelpPages.Proofs.Number.Numeral
import HelpPages.Proofs.Outcome
import HelpPages.Proofs.Value.Entries

/-! # Opening a shared log

A new shared log is opened with specifications of channels, and this is all or nothing
(`Desk.openShared_allOrNothing`).  One faulty specification, wherever it stands, leaves the
desk as it was.  Otherwise the specifications are applied one after the other, and what holds
of the levels after some of them is kept by one more (`Levels.AreSetBy.put`): they are those of
the trace and of the named channels, and the last specification that names a channel has set
its level.
-/
namespace HelpPages
namespace Channel
namespace Spec

/-- **What a specification means.**  It names a channel without a level, with an empty one or
with the text of an integer behind the first colon. -/
inductive Means : Text → Spec → Prop where
  | bare {name : Text} (plain : CodePoint.char ':' ∉ name) : Means name ⟨name, 0⟩
  | empty {name : Text} (plain : CodePoint.char ':' ∉ name) : Means (name ++ ":") ⟨name, 0⟩
  | level {name part : Text} {n : Int} (plain : CodePoint.char ':' ∉ name)
      (denotes : Integer.Denotes part n) : Means (name ++ ":" ++ part) ⟨name, n⟩

/-- The text behind the first colon of a specification is not empty, and it is no integer. -/
inductive IsFaulty : Text → Prop where
  | intro {name part : Text} (plain : CodePoint.char ':' ∉ name) (hne : part ≠ [])
      (hpart : ∀ n, ¬ Integer.Denotes part n) : IsFaulty (name ++ ":" ++ part)

/-- The specification is for a channel. -/
def Names (t name : Text) : Prop := ∃ level, Means t ⟨name, level⟩

variable {t name part : Text} {spec : Spec}

/-- A specification is a name, alone or before a colon and a text. -/
theorem exists_name (t : Text) : ∃ name, CodePoint.char ':' ∉ name ∧
    (t = name ∨ ∃ part, t = name ++ ":" ++ part) := by
  refine ⟨t.takeWhile (!·.is ':'), fun hmem => ?_, ?_⟩
  · have hcolon := List.mem_takeWhile_imp hmem
    rw [CodePoint.is_iff.mpr rfl] at hcolon
    cases hcolon
  · have ht := List.takeWhile_append_dropWhile (p := (!·.is ':')) (l := t)
    cases hrest : t.dropWhile (!·.is ':') with
    | nil =>
      rw [hrest, List.append_nil] at ht
      exact .inl ht.symm
    | cons c part =>
      have hc : (!c.is ':') = false :=
        Text.not_of_head?_dropWhile (t := t) (by rw [hrest]; rfl)
      obtain rfl : c = .char ':' := CodePoint.is_iff.mp (by simpa using hc)
      rw [hrest] at ht
      exact .inr ⟨part, by rw [List.append_assoc]; exact ht.symm⟩

theorem not_is_of_notMem (plain : CodePoint.char ':' ∉ name) :
    ∀ c ∈ name, (!c.is ':') = true := fun c hc => by
  have hne : ¬ c.is ':' = true := fun he => plain (CodePoint.is_iff.mp he ▸ hc)
  simp [hne]

theorem ofText_name (plain : CodePoint.char ':' ∉ name) : ofText name = .ok ⟨name, 0⟩ := by
  rw [ofText, List.takeWhile_eq_self_iff.mpr (not_is_of_notMem plain),
    List.dropWhile_eq_nil_iff.mpr (not_is_of_notMem plain)]
  rfl

theorem ofText_part (plain : CodePoint.char ':' ∉ name) (part : Text) :
    ofText (name ++ ":" ++ part) =
      if part = [] then .ok ⟨name, 0⟩ else (Integer.ofText? part).map (⟨name, ·⟩) := by
  have htake : (name ++ ":" ++ part).takeWhile (!·.is ':') = name := by
    rw [List.append_assoc, List.takeWhile_append_of_pos (not_is_of_notMem plain)]
    exact List.append_nil name
  have hdrop : (name ++ ":" ++ part).dropWhile (!·.is ':') = .char ':' :: part := by
    rw [List.append_assoc, List.dropWhile_append_of_pos (not_is_of_notMem plain)]
    rfl
  rw [ofText, htake, hdrop]
  cases part with
  | nil => rfl
  | cons c rest =>
    rw [if_neg (List.cons_ne_nil c rest)]
    cases h : Integer.ofText? (c :: rest) with
    | ok n => simp [h]; rfl
    | error e => simp [h]; rfl

/-- **Reading a specification.**  It is read as what it means. -/
theorem ofText_eq_ok_iff : ofText t = .ok spec ↔ Means t spec := by
  constructor
  · intro h
    obtain ⟨name, plain, rfl | ⟨part, rfl⟩⟩ := exists_name t
    · obtain rfl := Except.ok.inj ((ofText_name plain).symm.trans h)
      exact .bare plain
    · rw [ofText_part plain] at h
      split at h
      next hpart =>
        obtain rfl := Except.ok.inj h
        rw [hpart, List.append_nil]
        exact .empty plain
      · cases hn : Integer.ofText? part with
        | error e =>
          rw [hn] at h
          cases h
        | ok n =>
          rw [hn] at h
          obtain rfl := Except.ok.inj h
          exact .level plain (Integer.ofText?_eq_ok_iff.mp hn)
  · rintro (plain | plain | ⟨plain, denotes⟩)
    · exact ofText_name plain
    · have h := ofText_part plain []
      rwa [List.append_nil] at h
    · rw [ofText_part plain, if_neg denotes.ne_nil, Integer.ofText?_eq_ok_iff.mpr denotes]
      rfl

/-- A specification is refused if it is faulty. -/
theorem exists_ofText_eq_error_iff : (∃ e, ofText t = .error e) ↔ IsFaulty t := by
  constructor
  · rintro ⟨e, h⟩
    obtain ⟨name, plain, rfl | ⟨part, rfl⟩⟩ := exists_name t
    · cases (ofText_name plain).symm.trans h
    · rw [ofText_part plain] at h
      split at h
      · cases h
      next hne =>
        refine .intro plain hne fun n denotes => ?_
        rw [Integer.ofText?_eq_ok_iff.mpr denotes] at h
        cases h
  · rintro ⟨plain, hne, hpart⟩
    rw [ofText_part plain, if_neg hne]
    cases hn : Integer.ofText? _ with
    | ok n => exact absurd (Integer.ofText?_eq_ok_iff.mp hn) (hpart n)
    | error e => exact ⟨e, rfl⟩

theorem exists_ofText_eq_ok_iff : (∃ spec, ofText t = .ok spec) ↔ ¬ IsFaulty t := by
  rw [← exists_ofText_eq_error_iff, exists_eq_error_iff, not_not]

theorem Means.not_isFaulty (h : Means t spec) : ¬ IsFaulty t :=
  exists_ofText_eq_ok_iff.mp ⟨spec, ofText_eq_ok_iff.mpr h⟩

/-- A specification means one thing. -/
theorem Means.eq {other : Spec} (h : Means t spec) (h' : Means t other) : spec = other :=
  Except.ok.inj ((ofText_eq_ok_iff.mpr h).symm.trans (ofText_eq_ok_iff.mpr h'))

theorem Means.names_iff (h : Means t spec) {name : Text} : Names t name ↔ name = spec.name := by
  constructor
  · rintro ⟨level, h'⟩
    rw [h.eq h']
  · rintro rfl
    exact ⟨spec.level, h⟩

instance (t : Text) : Decidable (IsFaulty t) :=
  match h : ofText t with
  | .ok spec => isFalse (exists_ofText_eq_ok_iff.mp ⟨spec, h⟩)
  | .error e => isTrue (exists_ofText_eq_error_iff.mp ⟨e, h⟩)

end Spec
end Channel

/-! ### Levels -/

namespace Levels

open Channel (Spec)

/-- The level is the one that the last specification for a channel gives. -/
def IsLast (specs : List Text) (name : Text) (level : Int) : Prop :=
  ∃ before t behind, specs = before ++ t :: behind ∧ Spec.Means t ⟨name, level⟩ ∧
    ∀ other ∈ behind, ¬ Spec.Names other name

/-- **The levels that specifications set.**  They are those of the trace and of the named
channels, each of them the one that its last specification gives, and the trace is off if none
is for it. -/
structure AreSetBy (specs : List Text) (levels : Levels) : Prop where
  nodup : (Entries.names levels).Nodup
  names : ∀ name, name ∈ Entries.names levels ↔ name = "trace" ∨ ∃ t ∈ specs, Spec.Names t name
  last : ∀ name level, IsLast specs name level → levels.get? name = some level
  untraced : (∀ t ∈ specs, ¬ Spec.Names t "trace") → levels.get? "trace" = some (-1)

variable {specs : List Text} {levels : Levels}

/-- Without specifications there is only the level of the trace. -/
theorem areSetBy_nil : AreSetBy [] [("trace", -1)] where
  nodup := List.nodup_cons.mpr ⟨List.not_mem_nil, List.nodup_nil⟩
  names name := by simp [Entries.names]
  last name level := by
    rintro ⟨before, t, behind, h, -⟩
    cases before <;> cases h
  untraced _ := rfl

/-- **One more specification** sets the level of its channel. -/
theorem AreSetBy.put (h : AreSetBy specs levels) {t : Text} {spec : Spec}
    (hspec : Spec.Means t spec) :
    AreSetBy (specs ++ [t]) (Entries.put spec.name spec.level levels) where
  nodup := Entries.nodup_names_put h.nodup spec.name spec.level
  names name := by
    have hspecs : (∃ u ∈ specs ++ [t], Spec.Names u name) ↔
        (∃ u ∈ specs, Spec.Names u name) ∨ name = spec.name := by
      simp only [List.mem_append, List.mem_singleton, or_and_right, exists_or, exists_eq_left,
        hspec.names_iff]
    rw [Entries.mem_names_put, hspecs, h.names, or_assoc]
  last name level := by
    rintro ⟨before, u, behind, hsplit, hu, hbehind⟩
    rw [Entries.get?_put]
    -- the last one for the channel is the new one, or the new one is for another channel
    rcases List.eq_nil_or_concat behind with rfl | ⟨front, v, rfl⟩
    · obtain ⟨-, he⟩ := List.append_inj' hsplit rfl
      obtain rfl := List.singleton_inj.mp he
      obtain rfl := hspec.eq hu
      rw [if_pos rfl]
    · rw [List.concat_eq_append, ← List.cons_append, ← List.append_assoc] at hsplit
      obtain ⟨rfl, he⟩ := List.append_inj' hsplit rfl
      obtain rfl := List.singleton_inj.mp he
      have hne : name ≠ spec.name := fun he => hbehind t (by simp) (hspec.names_iff.mpr he)
      rw [if_neg hne]
      exact h.last name level ⟨before, u, front, rfl, hu, fun other hother =>
        hbehind other (by simp [hother])⟩
  untraced hnone := by
    have hne : Text.ofString "trace" ≠ spec.name := fun he =>
      hnone t (List.mem_append_right _ (List.mem_singleton_self t)) (hspec.names_iff.mpr he)
    rw [Entries.get?_put, if_neg hne]
    exact h.untraced fun u hu => hnone u (List.mem_append_left _ hu)

/-- **All specifications** one after the other set the levels. -/
theorem AreSetBy.foldl {more : List Text} {read : List Spec} (h : AreSetBy specs levels)
    (hread : more.mapM Spec.ofText = .ok read) :
    AreSetBy (specs ++ more)
      (read.foldl (fun levels spec => Entries.put spec.name spec.level levels) levels) := by
  induction more generalizing specs levels read with
  | nil =>
    cases hread
    rwa [List.append_nil]
  | cons t more ih =>
    rw [List.mapM_cons] at hread
    obtain ⟨spec, hspec, hread⟩ := bind_eq_ok_iff.mp hread
    obtain ⟨rest, hrest, hread⟩ := bind_eq_ok_iff.mp hread
    cases hread
    have hput := ih (h.put (Spec.ofText_eq_ok_iff.mp hspec)) hrest
    rwa [List.append_assoc] at hput

/-- The levels of specifications are those that they set. -/
theorem areSetBy_of_ofSpecs (h : ofSpecs specs = .ok levels) : AreSetBy specs levels := by
  obtain ⟨read, hread, hlevels⟩ := bind_eq_ok_iff.mp h
  cases hlevels
  exact areSetBy_nil.foldl hread

/-- Specifications that are not faulty set levels. -/
theorem exists_areSetBy (hfine : ∀ t ∈ specs, ¬ Spec.IsFaulty t) :
    ∃ levels, ofSpecs specs = .ok levels ∧ AreSetBy specs levels := by
  obtain ⟨levels, hlevels⟩ : ∃ levels, ofSpecs specs = .ok levels :=
    exists_bind (exists_mapM fun t ht => Spec.exists_ofText_eq_ok_iff.mpr (hfine t ht))
      fun _ => ⟨_, rfl⟩
  exact ⟨levels, hlevels, areSetBy_of_ofSpecs hlevels⟩

/-- A faulty specification is refused, wherever it stands. -/
theorem exists_ofSpecs_eq_error (h : ∃ t ∈ specs, Spec.IsFaulty t) :
    ∃ e, ofSpecs specs = .error e := by
  refine exists_eq_error_iff.mpr ?_
  rintro ⟨levels, hlevels⟩
  obtain ⟨read, hread, -⟩ := bind_eq_ok_iff.mp hlevels
  obtain ⟨t, ht, hfaulty⟩ := h
  exact Spec.exists_ofText_eq_ok_iff.mp (exists_of_mapM hread t ht) hfaulty

end Levels

/-! ### The desk -/

namespace Desk

open Channel (Spec)

/-- The desk after a shared log was opened, or after it was refused. -/
def opened (verbosity : Int) (specs : List Text) (d : Desk) : Desk :=
  match d.openShared verbosity specs with
  | .ok d => d
  | .error _ => d

variable (verbosity : Int) (d : Desk) {specs : List Text}

/-- A faulty specification leaves the desk as it is. -/
theorem openShared_of_faulty (h : ∃ t ∈ specs, Spec.IsFaulty t) :
    (∃ e, d.openShared verbosity specs = .error e) ∧ d.opened verbosity specs = d := by
  obtain ⟨e, he⟩ := Levels.exists_ofSpecs_eq_error h
  have hopen : d.openShared verbosity specs = .error e := by
    rw [openShared, Log.ofSpecs, he]
    rfl
  exact ⟨⟨e, hopen⟩, by rw [opened, hopen]⟩

/-- Without a faulty specification there is a new shared log. -/
theorem openShared_of_fine (h : ∀ t ∈ specs, ¬ Spec.IsFaulty t) :
    ∃ levels : Levels, levels.AreSetBy specs ∧ d.openShared verbosity specs = .ok
      { d with shared := { verbosity, levels, shown := [], printed := [] }, own := none } := by
  obtain ⟨levels, hlevels, hset⟩ := Levels.exists_areSetBy h
  refine ⟨levels, hset, ?_⟩
  rw [openShared, Log.ofSpecs, hlevels]
  rfl

/-- The text of an integer behind the name of a channel sets its level. -/
theorem get?_opened_of_isLast {name : Text} {level : Int}
    (h : ∀ t ∈ specs, ¬ Spec.IsFaulty t) (hlast : Levels.IsLast specs name level) :
    (d.opened verbosity specs).shared.levels.get? name = some level := by
  obtain ⟨levels, hset, hopen⟩ := openShared_of_fine verbosity d h
  rw [opened, hopen]
  exact hset.last name level hlast

/-- **Opening is all or nothing.**  For any verbosity and specifications and at any desk: if a
specification is faulty, opening is refused and the desk stays as it is; otherwise the new
shared log is in use, with the verbosity and the levels that the specifications set, and it has
shown nothing.  The text of an integer behind a name sets the level of the channel to it, if
no specification behind it is for the channel. -/
theorem openShared_allOrNothing (verbosity : Int) (specs : List Text) (d : Desk) :
    ((∃ t ∈ specs, Spec.IsFaulty t) →
      (∃ e, d.openShared verbosity specs = .error e) ∧ d.opened verbosity specs = d) ∧
    ((∀ t ∈ specs, ¬ Spec.IsFaulty t) → ∃ levels : Levels, levels.AreSetBy specs ∧
      d.openShared verbosity specs = .ok
        { d with shared := { verbosity, levels, shown := [], printed := [] }, own := none }) ∧
    ∀ (before behind : List Text) (name : Text) (n : Int),
      specs = before ++ (name ++ ":" ++ Integer.toText n) :: behind →
      CodePoint.char ':' ∉ name → n.natAbs < Nat.pow 10 Integer.maxDigits →
      (∀ t ∈ before ++ behind, ¬ Spec.IsFaulty t) → (∀ t ∈ behind, ¬ Spec.Names t name) →
      (d.opened verbosity specs).shared.levels.get? name = some n := by
  refine ⟨openShared_of_faulty verbosity d, openShared_of_fine verbosity d, ?_⟩
  rintro before behind name n rfl plain small hfine hlast
  have hmeans : Spec.Means (name ++ ":" ++ Integer.toText n) ⟨name, n⟩ :=
    .level plain (Integer.denotes_toText small)
  refine get?_opened_of_isLast verbosity d (fun t ht => ?_) ⟨before, _, behind, rfl, hmeans, hlast⟩
  rcases List.mem_append.mp ht with ht | ht
  · exact hfine t (List.mem_append_left _ ht)
  · rcases List.mem_cons.mp ht with rfl | ht
    · exact hmeans.not_isFaulty
    · exact hfine t (List.mem_append_right _ ht)

/-- A level that is refused stands between others.  The levels of other specifications are read
behind a sign, between blanks, with an underscore or in the digits of another script, and the
last one for a channel counts. -/
theorem openShared_allOrNothing_mixedSpecs :
    let d : Desk := { shared := { verbosity := 2, shown := ["help.list"] }, own := some {} }
    let faulty : List Text := ["parse:3", "trace:1_", "parse:1"]
    let fine : List Text := ["parse:3", "trace", "error: -1_0 ", "parse:+\u0662", "hint:"]
    let set : Levels := [("trace", 0), ("parse", 2), ("error", -10), ("hint", 0)]
    ((∃ e, d.openShared 1 faulty = .error e) ∧ d.opened 1 faulty = d) ∧
      (∃ levels : Levels, levels.AreSetBy fine ∧ d.openShared 1 fine = .ok
        { d with shared := { verbosity := 1, levels, shown := [], printed := [] }, own := none }) ∧
      (d.opened 1 fine).shared.levels = set ∧
      (d.opened 0 ["trace", "a b:-12", "parse"]).shared.levels.get? "a b" = some (-12) := by
  intro d faulty fine set
  have small (digits : Nat) (h : 2 ≤ digits) : (-12 : Int).natAbs < Nat.pow 10 digits :=
    Nat.lt_of_lt_of_le (show 12 < 10 ^ 2 by decide) (Nat.pow_le_pow_right (by decide) h)
  refine ⟨(openShared_allOrNothing 1 faulty d).1 (by decide +kernel),
    (openShared_allOrNothing 1 fine d).2.1 (by decide +kernel), by decide +kernel,
    (openShared_allOrNothing 0 _ d).2.2 ["trace"] ["parse"] "a b" (-12) rfl (by decide)
      (small _ (by decide)) (by decide) ?_⟩
  intro t ht
  have parse : Spec.Means "parse" ⟨"parse", 0⟩ := .bare (by decide)
  rw [List.mem_singleton.mp ht, parse.names_iff]
  decide

end Desk
end HelpPages
