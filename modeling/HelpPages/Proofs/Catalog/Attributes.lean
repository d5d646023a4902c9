import HelpPages.Proofs.Catalog.Pages

/-! # Targets without sub-commands

The scan for sub-commands goes by the kind of the target: a text or a function has none,
so `sources` is empty for it.  A look-up goes by the members that can be reached, and a
function has members of its own: whatever was set on it under the name of a sub-command
is found there.  So a text has no sub-command in either sense, while for a function the
look-up finds what the listing leaves out (`Target.Answers`, `resolve_of_leaf`).
-/
namespace HelpPages

namespace Target

variable {target : Target} {sub doc : Text}

/-- A target without sub-commands has something to say about a sub-command: it is a function
with an attribute of the name that is looked up, and the attribute can be called without
a class. -/
inductive Answers : Target → Text → Text → Prop
  | attribute {own : Option Text} {members : Entries Member} {sub : Text} {m : Member}
      (attached : members.get? (memberName sub) = some m)
      (free : m.kind ≠ .classMethod) (callable : m.kind ≠ .value) :
      Answers (.function own members) sub (docText m.doc)

/-- A text has nothing to say but itself. -/
theorem not_answers_text (text sub doc : Text) : ¬ (Target.text text).Answers sub doc := nofun

/-- Without a class, everything can be called but values and the methods of classes. -/
theorem reachPlain_eq_iff {m : Member} :
    reachPlain m = ⟨true, doc⟩ ↔
      m.kind ≠ .classMethod ∧ m.kind ≠ .value ∧ doc = docText m.doc := by
  obtain ⟨kind, own⟩ := m
  cases kind <;> simp [reachPlain, eq_comm]

/-- What a look-up finds on a target without sub-commands is what the target answers. -/
theorem access_eq_found_iff_answers (known : Entries Class) (leaf : ¬ target.CarriesSubCommands) :
    target.access known (memberName sub) = .found ⟨true, doc⟩ ↔ target.Answers sub doc := by
  cases target with
  | text text => exact ⟨nofun, nofun⟩
  | module own members beyond => exact absurd trivial leaf
  | type k beyond => exact absurd trivial leaf
  | function own members =>
    rw [access, reach?]
    cases hm : members.get? (memberName sub) with
    | none =>
      constructor
      · intro hfound
        cases hfound
      · rintro ⟨attached, -, -⟩
        rw [hm] at attached
        cases attached
    | some m =>
      rw [Option.map_some]
      constructor
      · intro hfound
        obtain ⟨free, callable, rfl⟩ := reachPlain_eq_iff.mp (Answer.found.inj hfound)
        exact .attribute hm free callable
      · rintro ⟨attached, free, callable⟩
        obtain rfl := Option.some.inj (hm.symm.trans attached)
        exact congrArg Answer.found (reachPlain_eq_iff.mpr ⟨free, callable, rfl⟩)

/-- A target without sub-commands has no errors of its own. -/
theorem access_ne_raises (known : Entries Class) (leaf : ¬ target.CarriesSubCommands)
    (name kind message : Text) : target.access known name ≠ .raises kind message := by
  intro h
  rw [access] at h
  split at h
  · cases h
  · cases target with
    | text text => cases h
    | function own members => cases h
    | module own members beyond => exact absurd trivial leaf
    | type k beyond => exact absurd trivial leaf

/-- The scan has nothing to go through. -/
theorem memberNames_of_leaf (leaf : ¬ target.CarriesSubCommands) : target.memberNames = [] := by
  cases target with
  | text text => rfl
  | function own members => rfl
  | module own members beyond => exact absurd trivial leaf
  | type k beyond => exact absurd trivial leaf

end Target

/-- Reading a comment never fails for what the catalog refuses. -/
theorem Reader.pageOf_ne_catalog (reader : Reader) (comment : Text) (e : Catalog.Error) :
    reader.pageOf comment ≠ .error (.catalog e) := by
  intro h
  cases reader with
  | replacing s => cases h
  | unable =>
    rw [pageOf] at h
    split at h
    · cases h
    · cases h

namespace Catalog

variable {c : Catalog} {target : Target} {name sub : Text}

/-- A sub-command has no page exactly if it is not resolved. -/
theorem outcome_loadPage_eq_unknown_iff (c : Catalog) (hsub : sub ≠ []) (reader : Reader) :
    (c.loadPage reader name (some sub)).outcome =
        .error (.catalog (.unknownSubCommand sub name)) ↔
      c.resolve name sub = .error (.unknownSubCommand sub name) := by
  cases hresolve : c.resolve name sub with
  | error e =>
    have hunresolved : c.resolve name ((some sub).getD []) = .error e := hresolve
    rw [outcome_loadPage_of_unresolved c reader hunresolved]
    exact ⟨fun h => by cases h; rfl, fun h => by cases h; rfl⟩
  | ok doc =>
    refine ⟨fun hload => ?_, nofun⟩
    have hresolved : c.resolve name ((some sub).getD []) = .ok doc := hresolve
    rw [outcome_loadPage_of_resolve c reader hresolved] at hload
    rcases bind_eq_error_iff.mp hload with hread | ⟨page, -, hpage⟩
    · exact absurd hread (reader.pageOf_ne_catalog doc _)
    · rw [Option.getD_some, if_neg hsub] at hpage
      cases hpage

/-- **The attributes of a function are found, though none is listed.**  A command with a text
or a function lists no sub-commands.  A sub-command of it is resolved exactly if the target
answers for it, which a text never does and a function does with an attribute of that name
that can be called; the page is then the page of what is said about the attribute.  In all
other cases there is no such sub-command, for the look-up and for the page. -/
theorem resolve_of_leaf (registered : c.get name = .ok target)
    (leaf : ¬ target.CarriesSubCommands) (hsub : sub ≠ []) :
    c.sources name = .ok [] ∧
    (∀ doc, c.resolve name sub = .ok doc ↔ target.Answers sub doc) ∧
    (∀ s doc, target.Answers sub doc →
      (c.loadPage (.replacing s) name (some sub)).outcome = .ok (Page.ofComment s doc)) ∧
    (∀ text, target = .text text → ∀ doc, ¬ target.Answers sub doc) ∧
    (c.resolve name sub = .error (.unknownSubCommand sub name) ↔
      ∀ doc, ¬ target.Answers sub doc) ∧
    ∀ reader, (c.loadPage reader name (some sub)).outcome =
        .error (.catalog (.unknownSubCommand sub name)) ↔
      ∀ doc, ¬ target.Answers sub doc := by
  have hanswers : ∀ doc, c.resolve name sub = .ok doc ↔ target.Answers sub doc := fun doc => by
    rw [resolve_of_get registered hsub, ofAnswer_eq_ok_iff,
      Target.access_eq_found_iff_answers c.classes leaf]
  have hunknown : c.resolve name sub = .error (.unknownSubCommand sub name) ↔
      ∀ doc, ¬ target.Answers sub doc := by
    rw [resolve_of_get registered hsub, ofAnswer_eq_unknown_iff]
    refine ⟨fun h doc hdoc => h.1 doc ?_, fun h => ⟨fun doc hdoc => h doc ?_, ?_⟩⟩
    · exact (Target.access_eq_found_iff_answers c.classes leaf).mpr hdoc
    · exact (Target.access_eq_found_iff_answers c.classes leaf).mp hdoc
    · exact Target.access_ne_raises c.classes leaf _
  refine ⟨?_, hanswers, fun s doc h => outcome_loadPage_some s hsub ((hanswers doc).mpr h),
    fun text htext doc => htext ▸ Target.not_answers_text text sub doc, hunknown,
    fun reader => (outcome_loadPage_eq_unknown_iff c hsub reader).trans hunknown⟩
  rw [sources_of_get registered, sourcesOf, Target.memberNames_of_leaf leaf]
  rfl

/-- A function with an attribute that has the name of a sub-command. -/
def greetCatalog : Catalog :=
  let loudly : Member := { kind := .function, doc := some "Greets loudly." }
  { commands := [("greet", .function (some "Greets.") [("execute_loudly", loudly)])] }

theorem resolve_of_leaf_greet :
    ∃ target, greetCatalog.get "greet" = .ok target ∧ ¬ target.CarriesSubCommands ∧
      ("loudly" : Text) ≠ [] ∧ target.Answers "loudly" "Greets loudly." ∧
      greetCatalog.sources "greet" = .ok [] ∧
      (∀ doc, greetCatalog.resolve "greet" "loudly" = .ok doc ↔ target.Answers "loudly" doc) ∧
      (∀ s doc, target.Answers "loudly" doc →
        (greetCatalog.loadPage (.replacing s) "greet" (some "loudly")).outcome =
          .ok (Page.ofComment s doc)) ∧
      (∀ text, target = .text text → ∀ doc, ¬ target.Answers "loudly" doc) ∧
      (greetCatalog.resolve "greet" "loudly" = .error (.unknownSubCommand "loudly" "greet") ↔
        ∀ doc, ¬ target.Answers "loudly" doc) ∧
      ∀ reader, (greetCatalog.loadPage reader "greet" (some "loudly")).outcome =
          .error (.catalog (.unknownSubCommand "loudly" "greet")) ↔
        ∀ doc, ¬ target.Answers "loudly" doc :=
  have attached : Entries.get? (memberName "loudly")
      [("execute_loudly", { kind := .function, doc := some "Greets loudly." : Member })] =
      some { kind := .function, doc := some "Greets loudly." } := rfl
  ⟨_, rfl, id, by decide, .attribute attached nofun nofun, resolve_of_leaf rfl id (by decide)⟩

end Catalog
end HelpPages
