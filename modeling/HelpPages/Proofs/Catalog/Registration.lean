import HelpPages.Proofs.Catalog.Pages
import HelpPages.Proofs.Log.Remarks
import Mathlib.Data.List.Induction

/-! # Registration

Commands are registered one after the other, and classes may be made between them.  A name that
is taken is refused, and nothing comes of the call (`Registry.after_register_of_mem`).  A new
name comes last, and about every other name the catalog says what it said before, in the same
words to the log (`Catalog.AgreesOn`), since what it says of a command is found from the target
of the command and the known classes alone.  So the catalog after any calls holds the names in
the order of their first registrations, each with the target that it had there
(`Registry.run_registered`).
-/
namespace HelpPages

namespace Entries

variable {α : Type} {name : Text}

theorem get?_append (name : Text) (entries more : Entries α) :
    get? name (entries ++ more) = (get? name entries).or (get? name more) := by
  induction entries with
  | nil => rfl
  | cons entry entries ih =>
    obtain ⟨key, value⟩ := entry
    by_cases hkey : key = name
    · rw [List.cons_append, get?, get?, if_pos hkey, if_pos hkey, Option.some_or]
    · rw [List.cons_append, get?, get?, if_neg hkey, if_neg hkey, ih]

end Entries

namespace Catalog

variable {c d next : Catalog} {target : Target} {name : Text}

/-! ### What is seen of a command -/

/-- Two catalogs say the same of a name: whether it is registered, what its sub-commands are,
what is said about it and about each of them, its pages and its short description, and what is
told to the log on the way. -/
structure AgreesOn (c d : Catalog) (name : Text) : Prop where
  mem_names : name ∈ c.names ↔ name ∈ d.names
  get : c.get name = d.get name
  sources : c.sources name = d.sources name
  resolve : ∀ sub, c.resolve name sub = d.resolve name sub
  lookUp : ∀ sub given, c.lookUp name sub given = d.lookUp name sub given
  loadPage : ∀ reader sub, c.loadPage reader name sub = d.loadPage reader name sub
  describe : ∀ reader, c.describeAll reader [name] = d.describeAll reader [name]

theorem mem_names_iff : name ∈ c.names ↔ ∃ target, c.get name = .ok target := by
  refine ⟨exists_get_of_mem_names, fun ⟨target, htarget⟩ => ?_⟩
  rw [get] at htarget
  split at htarget
  · next hget => exact Entries.mem_names_of_get?_eq_some hget
  · cases htarget

/-- Only the target of a command and the known classes have a say in what is seen of it. -/
theorem agreesOn_of_get (hclasses : c.classes = d.classes) (hget : c.get name = d.get name) :
    c.AgreesOn d name := by
  have hadd : c.addSource = d.addSource := by
    funext target sources member
    rw [addSource, addSource, hclasses]
  have hsources : c.sources name = d.sources name := by
    have hall : c.sourcesOf = d.sourcesOf := by
      funext target
      rw [sourcesOf, sourcesOf, hadd]
    rw [Catalog.sources, Catalog.sources, hget, hall]
  have hresolve : ∀ sub, c.resolve name sub = d.resolve name sub := fun sub => by
    rw [Catalog.resolve, Catalog.resolve, hget, hclasses]
  have hlookUp : ∀ sub given, c.lookUp name sub given = d.lookUp name sub given :=
    fun sub given => by rw [Catalog.lookUp, Catalog.lookUp, hresolve]
  exact {
    mem_names := by rw [mem_names_iff, mem_names_iff, hget]
    get := hget
    sources := hsources
    resolve := hresolve
    lookUp := hlookUp
    loadPage := fun reader sub => by
      rw [Catalog.loadPage, Catalog.loadPage, hlookUp, hsources]
    describe := fun reader => by
      rw [describeAll, describeAll, hlookUp]
      rfl }

/-! ### Listings -/

theorem describeAll_cons (c : Catalog) (reader : Reader) (name : Text) (names : List Text) :
    c.describeAll reader (name :: names) = do
      let first ← c.describeAll reader [name]
      return first ++ (← c.describeAll reader names) := by
  simp only [describeAll, bind_assoc, pure_bind, List.cons_append, List.nil_append]

theorem describeAll_append (c : Catalog) (reader : Reader) (names more : List Text) :
    c.describeAll reader (names ++ more) = do
      let first ← c.describeAll reader names
      return first ++ (← c.describeAll reader more) := by
  induction names with
  | nil => simp only [List.nil_append, describeAll, pure_bind, bind_pure]
  | cons name names ih =>
    rw [List.cons_append, describeAll_cons, ih, describeAll_cons c reader name names]
    simp only [bind_assoc, pure_bind, List.append_assoc]

/-- Catalogs that agree on some names list them in the same way. -/
theorem describeAll_congr {names : List Text} (h : ∀ name ∈ names, c.AgreesOn d name)
    (reader : Reader) : c.describeAll reader names = d.describeAll reader names := by
  induction names with
  | nil => rfl
  | cons name names ih =>
    obtain ⟨hname, hnames⟩ := List.forall_mem_cons.mp h
    rw [describeAll_cons, hname.describe reader, ih hnames, ← describeAll_cons]

/-! ### One registration -/

/-- What a catalog is after a new name: the name is the last one and has its target, the listing
is longer by its entry, and all the other names are as they were. -/
structure IsExtended (c : Catalog) (name : Text) (target : Target) (next : Catalog) : Prop where
  names : next.names = c.names ++ [name]
  get : next.get name = .ok target
  others : ∀ other, other ≠ name → next.AgreesOn c other
  shortDescriptions : ∀ reader, next.shortDescriptions reader = do
    let listing ← c.shortDescriptions reader
    return listing ++ (← next.describeAll reader [name])

/-- The catalog with a command behind all others. -/
def extend (c : Catalog) (name : Text) (target : Target) : Catalog :=
  { c with commands := c.commands ++ [(name, target)] }

theorem registerTold_of_mem (h : name ∈ c.names) (target : Target) :
    c.registerTold name target = Run.fail (.catalog (.duplicate name)) := by
  rw [registerTold, register, if_pos h]
  rfl

/-- The remark on a new command. -/
def registered (name : Text) : Text := "registered command '" ++ name ++ "'"

theorem textOf_registeredTemplate (name : Text) :
    Log.textOf registeredTemplate [("name", .text name)] = .ok (registered name) := by
  have hcut : Template.pieces registeredTemplate =
      ("registered command '" : Text).map .char ++ .field ⟨"name", none, []⟩ ::
        ("'" : Text).map .char := by
    rw [registeredTemplate]
    repeat rw [Text.ofString_ofList]
    decide
  rw [Log.textOf_of_pieces ["name"] hcut (by decide) rfl (List.cons_ne_nil _ _)
    (List.forall_mem_singleton.mpr rfl)]
  simp [List.flatMap_map, Template.Piece.shown, Template.Field.shown, Entries.get?, registered]

/-- A new command is told to the log. -/
theorem remarks_registerTold (h : name ∉ c.names) (target : Target) :
    (c.registerTold name target).Remarks (.ok (c.extend name target)) 2 "catalog"
      [registered name] := by
  rw [registerTold, register, if_neg h]
  show (Run.emit 2 "catalog" registeredTemplate [("name", .text name)] >>= _ :
    Run Failure Catalog).Remarks _ _ _ _
  rw [← List.append_nil [registered name]]
  exact (Run.remarks_emit 2 "catalog" (textOf_registeredTemplate name)).bind
    (Run.remarks_done _ _ _)

/-- A target is found under the first entry with its name. -/
theorem get_eq_ok_iff : c.get name = .ok target ↔ c.commands.get? name = some target := by
  rw [get]
  split
  · next found hfound => simp [hfound]
  · next hnone => simp [hnone]

theorem get_extend (c : Catalog) (name : Text) (target : Target) (other : Text) :
    (c.extend name target).commands.get? other =
      (c.commands.get? other).or (if name = other then some target else none) :=
  Entries.get?_append other c.commands [(name, target)]

theorem isExtended_extend (h : name ∉ c.names) (target : Target) :
    c.IsExtended name target (c.extend name target) := by
  have hnone : c.commands.get? name = none := Entries.get?_eq_none_iff.mpr h
  have hothers : ∀ other, other ≠ name → (c.extend name target).AgreesOn c other := by
    intro other hne
    refine agreesOn_of_get rfl ?_
    rw [get, get_extend, if_neg (Ne.symm hne), Option.or_none, get]
  have hnames : (c.extend name target).names = c.names ++ [name] := List.map_append
  refine ⟨hnames, get_eq_ok_iff.mpr ?_, hothers, fun reader => ?_⟩
  · rw [get_extend, hnone, if_pos rfl, Option.none_or]
  · have hold : ∀ other ∈ c.names, (c.extend name target).AgreesOn c other := fun other hother =>
      hothers other fun he => h (he ▸ hother)
    rw [shortDescriptions, hnames, describeAll_append, describeAll_congr hold, ← shortDescriptions]

end Catalog

/-! ### Many registrations -/

/-- A catalog that is filled, and the log that is told about it. -/
structure Registry where
  catalog : Catalog := {}
  log : Log := {}

namespace Registry

/-- What is done to fill a catalog: a command is registered, or a class is made and known by its
name from then on. -/
inductive Act where
  | register (name : Text) (target : Target)
  | define (k : Class)

/-- The command that an act registers, whether or not it is accepted. -/
def Act.registration? : Act → Option (Text × Target)
  | .register name target => some (name, target)
  | .define _ => none

/-- The registrations among some acts. -/
def registrations (acts : List Act) : Entries Target := acts.filterMap Act.registration?

/-- The registry after an act.  A registration that fails leaves the catalog as it was, and what
it has told on the way is in the log. -/
def after (hints : Hints) (r : Registry) : Act → Registry
  | .register name target =>
    let done := (r.catalog.registerTold name target).perform { log := r.log, hints }
    { catalog := done.1.toOption.getD r.catalog, log := done.2.log }
  | .define k => { r with catalog := r.catalog.define k }

/-- The registry after acts, one after the other. -/
def run (hints : Hints) (r : Registry) (acts : List Act) : Registry := acts.foldl (after hints) r

variable {hints : Hints} {r : Registry} {name : Text}

theorem run_append (hints : Hints) (r : Registry) (acts more : List Act) :
    run hints r (acts ++ more) = run hints (run hints r acts) more :=
  List.foldl_append

/-- Nothing comes of a name that is taken. -/
theorem after_register_of_mem (h : name ∈ r.catalog.names) (target : Target) :
    r.after hints (.register name target) = r := by
  rw [after, Catalog.registerTold_of_mem h]
  rfl

theorem after_register_of_notMem (h : name ∉ r.catalog.names) (target : Target) :
    r.after hints (.register name target) =
      { catalog := r.catalog.extend name target
        log := r.log.say 2 "catalog" ("registered command '" ++ name ++ "'") } := by
  rw [after, Catalog.remarks_registerTold h, Log.say]
  by_cases hactive : r.log.isActive "catalog" 2 = true
  · rw [if_pos hactive, Console.heard_of_isActive hactive]
    rfl
  · rw [if_neg hactive, Console.heard_of_not_isActive hactive]
    rfl

/-- **One act.**  A look-up finds the target that it found before, and one that found nothing
finds the target that is registered under the name. -/
theorem get?_after (hints : Hints) (r : Registry) (a : Act) (name : Text) :
    (r.after hints a).catalog.commands.get? name =
      (r.catalog.commands.get? name).or (Entries.get? name (registrations [a])) := by
  cases a with
  | define k => exact (Option.or_none).symm
  | register new target =>
    by_cases hmem : new ∈ r.catalog.names
    · rw [after_register_of_mem hmem]
      by_cases hname : new = name
      · subst hname
        obtain ⟨old, hold⟩ := Catalog.mem_names_iff.mp hmem
        rw [Catalog.get_eq_ok_iff.mp hold, Option.some_or]
      · have hnone : Entries.get? name (registrations [.register new target]) = none := if_neg hname
        rw [hnone, Option.or_none]
    · rw [after_register_of_notMem hmem]
      exact Catalog.get_extend r.catalog new target name

/-- **Many acts.**  The first target of a name is found for good. -/
theorem get?_run (hints : Hints) (r : Registry) (acts : List Act) (name : Text) :
    (r.run hints acts).catalog.commands.get? name =
      (r.catalog.commands.get? name).or (Entries.get? name (registrations acts)) := by
  induction acts generalizing r with
  | nil => exact (Option.or_none).symm
  | cons a acts ih =>
    have hsplit : registrations (a :: acts) = registrations [a] ++ registrations acts :=
      List.filterMap_append (l := [a])
    rw [run, List.foldl_cons, ← run, ih, get?_after, hsplit, Entries.get?_append, Option.or_assoc]

/-- The names after a registration: a new one is listed behind the others. -/
theorem names_after_register (hints : Hints) (r : Registry) (name : Text) (target : Target) :
    (r.after hints (.register name target)).catalog.names =
      if name ∈ r.catalog.names then r.catalog.names else r.catalog.names ++ [name] := by
  split
  · next hmem => rw [after_register_of_mem hmem]
  · next hnew =>
    rw [after_register_of_notMem hnew, (Catalog.isExtended_extend hnew target).names]

/-- **Many acts.**  The names stand in the order of their first registrations. -/
theorem names_run (hints : Hints) {r : Registry} (hempty : r.catalog.names = []) (acts : List Act) :
    (r.run hints acts).catalog.names = (registrations acts).names.eraseDups := by
  -- what the last act adds hangs on the names that the acts before it have registered
  induction acts using List.reverseRecOn with
  | nil => exact hempty
  | append_singleton acts a ih =>
    rw [run_append]
    cases a with
    | define k =>
      have hnone : registrations (acts ++ [.define k]) = registrations acts := by
        rw [registrations, List.filterMap_append]
        exact List.append_nil _
      rw [hnone]
      exact ih
    | register name target =>
      have hone : registrations (acts ++ [.register name target]) =
          registrations acts ++ [(name, target)] := List.filterMap_append
      have hmem : name ∈ (registrations acts).names.eraseDups ↔ name ∈ (registrations acts).names :=
        List.mem_eraseDups
      rw [hone, Entries.names, List.map_append, ← Entries.names, List.eraseDups_append, ← ih]
      show (after hints (r.run hints acts) (.register name target)).catalog.names = _
      rw [names_after_register, ih]
      by_cases hknown : name ∈ (registrations acts).names
      · rw [if_pos (hmem.mpr hknown)]
        simp [List.removeAll, hknown]
      · rw [if_neg (mt hmem.mp hknown)]
        simp [List.removeAll, hknown]
        rfl

theorem nodup_names_after (hints : Hints) (h : r.catalog.names.Nodup) (a : Act) :
    (r.after hints a).catalog.names.Nodup := by
  cases a with
  | define k => exact h
  | register name target =>
    rw [names_after_register]
    split
    · exact h
    · next hnew => exact List.concat_eq_append ▸ h.concat hnew

theorem nodup_names_run (hints : Hints) (h : r.catalog.names.Nodup) (acts : List Act) :
    (r.run hints acts).catalog.names.Nodup := by
  induction acts generalizing r with
  | nil => exact h
  | cons a acts ih => exact ih (nodup_names_after hints h a)

/-- **A catalog keeps what is registered first.**  Commands are registered in a catalog that has
none, and classes may be made meanwhile.  The catalog then lists every name that was registered
once, in the order of the first registrations, and has for each name the target of the first
one; a target that it has for a name stays there whatever is done later.  A further registration
of one of its names fails and leaves everything as it is, the log included.  One of a new name
succeeds and tells so to the log; then the name is the last one and has its target, the listing
is longer by its entry, and nothing that is seen of any other name changes. -/
theorem run_registered (hints : Hints) (known : Entries Class) (log : Log) (acts : List Act) :
    let r := run hints { catalog := { classes := known }, log } acts
    r.catalog.names = (registrations acts).names.eraseDups ∧ r.catalog.names.Nodup ∧
    (∀ name target, r.catalog.get name = .ok target ↔
      (registrations acts).get? name = some target) ∧
    (∀ name target more, r.catalog.get name = .ok target →
      (r.run hints more).catalog.get name = .ok target) ∧
    ∀ name target,
      (name ∈ r.catalog.names →
        (r.catalog.registerTold name target).outcome = .error (.catalog (.duplicate name)) ∧
        r.after hints (.register name target) = r) ∧
      (name ∉ r.catalog.names → ∃ next,
        (r.catalog.registerTold name target).outcome = .ok next ∧
        r.after hints (.register name target) =
          { catalog := next
            log := r.log.say 2 "catalog" ("registered command '" ++ name ++ "'") } ∧
        r.catalog.IsExtended name target next) := by
  intro r
  have hempty : ({ catalog := { classes := known }, log } : Registry).catalog.names.Nodup :=
    List.nodup_nil
  refine ⟨names_run hints rfl acts, nodup_names_run hints hempty acts, ?_, ?_, ?_⟩
  · intro name target
    rw [Catalog.get_eq_ok_iff, get?_run]
    rfl
  · intro name target more hget
    rw [Catalog.get_eq_ok_iff] at hget ⊢
    rw [get?_run, hget, Option.some_or]
  · refine fun name target => ⟨fun hmem => ⟨?_, after_register_of_mem hmem target⟩, fun hnew => ?_⟩
    · rw [Catalog.registerTold_of_mem hmem]
      rfl
    · refine ⟨r.catalog.extend name target, ?_, after_register_of_notMem hnew target,
        Catalog.isExtended_extend hnew target⟩
      exact (Catalog.remarks_registerTold hnew target).outcome_eq

/-- Three names, one of them with a class that is made just before and one registered twice. -/
def mixedActs : List Act :=
  let release := Class.mk 0 "Release" (some "Releases.") [] []
  [.register "copy" (.text "Copies."), .define release, .register "release" (.type release),
    .register "copy" (.text "Copies again."), .register "list" (.text "Lists.")]

theorem run_registered_mixedActs :
    let r := run Hints.standard { log := { verbosity := 2 } } mixedActs
    r.catalog.names = ["copy", "release", "list"] ∧ r.log.printed.length = 3 ∧
      r.catalog.get "copy" = .ok (.text "Copies.") ∧
      (∀ more, (r.run Hints.standard more).catalog.get "copy" = .ok (.text "Copies.")) ∧
      r.after Hints.standard (.register "list" (.text "Lists again.")) = r ∧
      ∃ next, (r.catalog.registerTold "move" (.text "Moves.")).outcome = .ok next ∧
        r.catalog.IsExtended "move" (.text "Moves.") next := by
  have h := run_registered Hints.standard [] { verbosity := 2 } mixedActs
  obtain ⟨-, -, -, hkept, hregister⟩ := h
  have hcopy : Catalog.get (run Hints.standard { log := { verbosity := 2 } } mixedActs).catalog
      "copy" = .ok (.text "Copies.") := rfl
  obtain ⟨next, houtcome, -, hnext⟩ := (hregister "move" (.text "Moves.")).2 (by decide)
  exact ⟨by decide +kernel, by decide +kernel, hcopy, fun more => hkept _ _ more hcopy,
    ((hregister "list" (.text "Lists again.")).1 (by decide)).2, next, houtcome, hnext⟩

end Registry
end HelpPages
