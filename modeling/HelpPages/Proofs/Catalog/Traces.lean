import HelpPages.Proofs.Catalog.Pages
import HelpPages.Proofs.Log.Opening
import HelpPages.Proofs.Log.Tracing

/-! # Look-ups in the trace

Loading a page makes one look-up, and listing all commands makes one for each of them, up to the
first one whose page cannot be read.  Nothing else that they tell looks like a line of the trace,
so that the trace shows these look-ups and their order (`Catalog.hasTrace_loadPage`,
`Catalog.hasTrace_describeAll`).  The program traces only if it is asked to: a log that was opened
without a specification for the trace shows none of it (`Desk.threshold_trace`).
-/
namespace HelpPages
namespace Catalog

variable {c : Catalog} {name : Text}

/-! ### The lines of a look-up -/

/-- A look-up as the trace sees it. -/
def lookUpCall (given : List Value) : Run.Call Failure where
  function := lookUpName
  arguments := { literal := .ok traceName } ::
    given.map fun v => { literal := v.literal?.mapError .number }

/-- The texts that the trace shows for the arguments of a look-up. -/
def lookUpTexts (given : List Value) : List Text :=
  traceName :: given.map fun v => Run.shorten v.literal

/-- The line of the trace behind a look-up. -/
def lookUpClosing (given : List Value) : Except Error Text → Text
  | .ok doc => (lookUpCall given).returned doc.quoted
  | .error (.duplicate name) =>
    (lookUpCall given).raised "ValueError" (Error.message (.duplicate name))
  | .error (.raised kind message) => (lookUpCall given).raised kind message
  | .error e => (lookUpCall given).raised "NotFound" e.message

/-- The two lines of a look-up in the trace. -/
def lookUpLines (c : Catalog) (name : Text) (sub : Option Text) (given : List Value) : List Text :=
  [(lookUpCall given).opening (lookUpTexts given),
    lookUpClosing given (c.resolve name (sub.getD []))]

/-- Values that have texts are shown by the trace. -/
theorem mapM_text_lookUpCall {given : List Value}
    (writable : ∀ v ∈ given, v.isWritable = true) :
    (lookUpCall given).arguments.mapM Run.Argument.text = .ok (lookUpTexts given) := by
  have hgiven : (given.map fun v => ({ literal := v.literal?.mapError Failure.number } :
      Run.Argument Failure)).mapM Run.Argument.text =
        .ok (given.map fun v => Run.shorten v.literal) := by
    rw [List.mapM_map]
    refine mapM_of_forall fun v hv => ?_
    rw [Function.comp_apply, Value.literal?, if_pos (writable v hv)]
    rfl
  rw [lookUpCall, List.mapM_cons, hgiven]
  rfl

/-- Every look-up is closed: the text that it finds has a literal, and an error of the catalog is
described. -/
theorem closes_lookUp (given : List Value) (found : Except Error Text) :
    (lookUpCall given).Closes (fun doc => .ok doc.quoted) describe (found.mapError Failure.catalog)
      (lookUpClosing given found) := by
  cases found with
  | ok doc => exact .returned rfl
  | error e => cases e <;> exact .raised rfl

/-! ### Runs of look-ups -/

theorem hasTrace_lookUp (c : Catalog) (name : Text) (sub : Option Text) {given : List Value}
    (writable : ∀ v ∈ given, v.isWritable = true) :
    (c.lookUp name sub given).HasTrace (c.lookUpLines name sub given) :=
  (Run.hasTrace_done _).traced (lookUpCall given) _ _ (mapM_text_lookUpCall writable)
    (closes_lookUp given _)

theorem hasTrace_addSubCommands (reader : Reader) (page : Page) (sources : Entries Text) :
    (addSubCommands reader page sources).HasTrace [] := by
  induction sources generalizing page with
  | nil => exact Run.hasTrace_done _
  | cons source sources ih => exact (reader.hasTrace_read source.2).bind fun _ _ => ih _

/-- The names that a look-up is given have texts. -/
theorem isWritable_of_mem_bothGiven (name : Text) (sub : Option Text) :
    ∀ v ∈ bothGiven name sub, v.isWritable = true := by
  cases sub with
  | none => exact List.forall_mem_cons.mpr ⟨rfl, List.forall_mem_singleton.mpr rfl⟩
  | some sub => exact List.forall_mem_cons.mpr ⟨rfl, List.forall_mem_singleton.mpr rfl⟩

/-- **Loading a page** makes one look-up. -/
theorem hasTrace_loadPage (c : Catalog) (reader : Reader) (name : Text) (sub : Option Text) :
    (c.loadPage reader name sub).HasTrace (c.lookUpLines name sub (bothGiven name sub)) := by
  refine (c.hasTrace_lookUp name sub (isWritable_of_mem_bothGiven name sub)).bind fun doc _ => ?_
  refine (reader.hasTrace_read doc).bind fun page _ => ?_
  split
  · exact (Run.hasTrace_done _).bind fun sources _ => hasTrace_addSubCommands reader page sources
  · exact Run.hasTrace_done _

/-- The page of a command cannot be read. -/
def IsUnreadable (c : Catalog) (reader : Reader) (name : Text) : Prop :=
  ∃ e, ((c.resolve name []).mapError Failure.catalog >>= reader.pageOf) = .error e

/-- Looking up a command and reading its page. -/
theorem hasTrace_lookUp_read (c : Catalog) (reader : Reader) (name : Text) :
    (c.lookUp name none [.text name] >>= reader.read).HasTrace
      (c.lookUpLines name none [.text name]) :=
  (c.hasTrace_lookUp name none (List.forall_mem_singleton.mpr rfl)).bind fun doc _ =>
    reader.hasTrace_read doc

theorem outcome_lookUp_read (c : Catalog) (reader : Reader) (name : Text) :
    (c.lookUp name none [.text name] >>= reader.read).outcome =
      ((c.resolve name []).mapError Failure.catalog >>= reader.pageOf) := by
  rw [Run.outcome_bind, outcome_lookUp]
  exact congrArg _ (funext reader.outcome_read)

/-- Behind a command whose page cannot be read there is no look-up. -/
theorem hasTrace_describeAll_of_isUnreadable {reader : Reader} (h : c.IsUnreadable reader name)
    (names : List Text) :
    (c.describeAll reader (name :: names)).HasTrace (c.lookUpLines name none [.text name]) := by
  obtain ⟨e, he⟩ := h
  rw [describeAll, ← bind_assoc]
  exact (c.hasTrace_lookUp_read reader name).bind_of_error
    ((c.outcome_lookUp_read reader name).trans he)

/-- **Describing commands** makes one look-up for each of them in order, up to the first one
whose page cannot be read. -/
theorem hasTrace_describeAll (c : Catalog) (reader : Reader) (names : List Text) :
    ∃ done left, names = done ++ left ∧
      (c.describeAll reader names).HasTrace
        (done.flatMap fun name => c.lookUpLines name none [.text name]) ∧
      (left ≠ [] → ∃ name, done.getLast? = some name ∧ c.IsUnreadable reader name) := by
  induction names with
  | nil => exact ⟨[], [], rfl, Run.hasTrace_done _, fun h => absurd rfl h⟩
  | cons name names ih =>
    cases hpage : (c.lookUp name none [.text name] >>= reader.read).outcome with
    | error e =>
      have hunreadable : c.IsUnreadable reader name :=
        ⟨e, (c.outcome_lookUp_read reader name).symm.trans hpage⟩
      refine ⟨[name], names, rfl, ?_, fun _ => ⟨name, rfl, hunreadable⟩⟩
      rw [List.flatMap_singleton]
      exact hasTrace_describeAll_of_isUnreadable hunreadable names
    | ok page =>
      obtain ⟨done, left, rfl, hrest, hleft⟩ := ih
      refine ⟨name :: done, left, rfl, ?_, fun h => ?_⟩
      · rw [describeAll, ← bind_assoc, List.flatMap_cons]
        exact (c.hasTrace_lookUp_read reader name).bind_of_ok hpage
          (hrest.bind fun _ _ => Run.hasTrace_done _)
      · obtain ⟨last, hlast, hunreadable⟩ := hleft h
        exact ⟨last, by rw [List.getLast?_cons, hlast]; rfl, hunreadable⟩

/-- A reader with texts to put in reads the page of every command. -/
theorem not_isUnreadable_replacing (s : Substitution) (h : name ∈ c.names) :
    ¬ c.IsUnreadable (.replacing s) name := by
  rintro ⟨e, he⟩
  obtain ⟨target, htarget⟩ := exists_get_of_mem_names h
  rw [resolve_nil htarget] at he
  cases he

end Catalog

/-- A shared log that is opened without a specification for the trace does not show it. -/
theorem Desk.threshold_trace {verbosity : Int} {specs : List Text} {d opened : Desk}
    (h : d.openShared verbosity specs = .ok opened)
    (hnone : ∀ t ∈ specs, ¬ Channel.Spec.Names t "trace") :
    opened.current.threshold "trace" = -1 := by
  obtain ⟨log, hlog, hopened⟩ := bind_eq_ok_iff.mp h
  obtain ⟨levels, hlevels, hnew⟩ := bind_eq_ok_iff.mp hlog
  cases hopened
  cases hnew
  show (levels.get? "trace").getD verbosity = -1
  rw [(Levels.areSetBy_of_ofSpecs hlevels).untraced hnone]
  rfl

namespace Console

end Console
end HelpPages
