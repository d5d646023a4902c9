import HelpPages.Program
import HelpPages.Proofs.Catalog.Registration
import HelpPages.Proofs.Catalog.Traces
import HelpPages.Proofs.Settings.Layers
import HelpPages.Proofs.Table.Measured

/-! # The log has no say in the program

All that the program tells its log can be told: the fields of its templates are bare, and their
values have texts, since those from settings come from documents.  So no part of the program goes
another way because its log shows more or less: a call behind its flags comes to one outcome and
writes one output, whatever its log is (`Call.isInert_runLine`).
-/
namespace HelpPages

open Run (isInert_pure isInert_fail isInert_ofExcept isInert_put isInert_complain isInert_emit
  isInert_hint)

open Template (HasBareFields)

variable {hints : Hints}

/-! ### Pages and tables -/

namespace Renderer

theorem isInert_draw (r : Renderer) (page : Page) : (r.draw page).IsInert hints :=
  (isInert_tellLayouts _ _).bind fun _ _ => isInert_pure _

theorem isInert_drawCommandList (r : Renderer) (commands : Entries Text) :
    (r.drawCommandList commands).IsInert hints :=
  (isInert_tellLayouts _ _).bind fun _ _ => isInert_pure _

end Renderer

theorem Table.Config.isInert_draw (config : Config) (rows : List (List Text)) :
    (config.draw rows).IsInert hints := by
  obtain ⟨texts, h⟩ := config.exists_remarks_draw rows
  exact h.isInert hints

/-! ### The catalog -/

namespace Catalog

variable (c : Catalog) (reader : Reader)

theorem isInert_lookUp (name : Text) (sub : Option Text) {given : List Value}
    (writable : ∀ v ∈ given, v.isWritable = true) : (c.lookUp name sub given).IsInert hints :=
  (isInert_ofExcept _).traced (lookUpCall given) _ _ (mapM_text_lookUpCall writable)
    (closes_lookUp given _)

theorem isInert_addSubCommands (page : Page) (sources : Entries Text) :
    (addSubCommands reader page sources).IsInert hints := by
  induction sources generalizing page with
  | nil => exact isInert_pure _
  | cons source sources ih => exact (reader.isInert_read _ _).bind fun _ _ => ih _

theorem isInert_loadPage (name : Text) (sub : Option Text) :
    (c.loadPage reader name sub).IsInert hints := by
  refine (c.isInert_lookUp name sub (isWritable_of_mem_bothGiven name sub)).bind fun doc _ => ?_
  refine (reader.isInert_read _ _).bind fun page _ => ?_
  split
  · exact (isInert_ofExcept _).bind fun _ _ => isInert_addSubCommands _ _ _
  · exact isInert_pure _

theorem isInert_describeAll (names : List Text) :
    (c.describeAll reader names).IsInert hints := by
  induction names with
  | nil => exact isInert_pure _
  | cons name names ih =>
    refine (c.isInert_lookUp name none (List.forall_mem_singleton.mpr rfl)).bind fun doc _ => ?_
    refine (reader.isInert_read _ _).bind fun page _ => ?_
    exact ih.bind fun _ _ => isInert_pure _

theorem isInert_registerAll (commands : List (Text × Target)) :
    (c.registerAll commands).IsInert hints := by
  induction commands generalizing c with
  | nil => exact isInert_pure _
  | cons command commands ih =>
    have hemit : (Run.emit 2 "catalog" registeredTemplate [("name", .text command.1)] :
        Run Failure Unit).IsInert hints :=
      Run.isInert_inform (Event.isTaken_message _ _ ⟨_, textOf_registeredTemplate command.1⟩)
    have hregister : (c.registerTold command.1 command.2).IsInert hints :=
      (isInert_ofExcept _).bind fun _ _ => hemit.bind fun _ _ => isInert_pure _
    exact hregister.bind fun c _ => ih c

end Catalog

/-! ### Commands -/

theorem Run.isInert_print (sink : Sink) (text : Text) : (print sink text).IsInert hints := by
  rw [print]
  split
  · exact isInert_put _
  · exact isInert_fail _

theorem Run.isInert_write (sink : Sink) (text : Text) : (write sink text).IsInert hints :=
  isInert_print sink _

/-! The templates of the hints have bare fields. -/

namespace Hint

theorem hasBareFields_details : HasBareFields ["prog"] details.message := by
  rw [details]
  repeat rw [Text.ofString_ofList]
  decide

theorem hasBareFields_list : HasBareFields ["prog"] list.message := by
  rw [list]
  repeat rw [Text.ofString_ofList]
  decide

theorem hasBareFields_subCommands : HasBareFields ["prog", "command"] subCommands.message := by
  rw [subCommands]
  repeat rw [Text.ofString_ofList]
  decide

theorem hasBareFields_header : HasBareFields [] header.message := by
  rw [header]
  repeat rw [Text.ofString_ofList]
  decide

end Hint

section Commands

open Hints (standard)

namespace Help

variable (c : Catalog) {r : Request} (writable : r.program.isWritable = true)
include writable

theorem isInert_showCommands : (showCommands c r).IsInert standard := by
  refine (isInert_ofExcept _).bind fun usage _ => (Run.isInert_write _ _).bind fun _ _ => ?_
  refine (isInert_ofExcept _).bind fun renderer _ => ?_
  refine (c.isInert_describeAll _ _).bind fun commands _ => ?_
  refine (renderer.isInert_drawCommandList _).bind fun text _ => ?_
  refine (Run.isInert_write _ _).bind fun _ _ => ?_
  exact isInert_hint "result" rfl Hint.hasBareFields_details rfl
    (List.forall_mem_singleton.mpr writable)

theorem isInert_showPage : (showPage c r).IsInert standard := by
  refine (c.isInert_loadPage _ _ _).bind fun page _ => ?_
  refine (isInert_ofExcept _).bind fun renderer _ => ?_
  refine (renderer.isInert_draw _).bind fun text _ => (Run.isInert_write _ _).bind fun _ _ => ?_
  split
  · exact isInert_hint "result" rfl Hint.hasBareFields_subCommands rfl
      (List.forall_mem_cons.mpr ⟨writable, List.forall_mem_singleton.mpr rfl⟩)
  · exact isInert_pure _

theorem isInert_run : (run c r).IsInert standard := by
  rw [run]
  split
  · exact isInert_showCommands c writable
  · exact isInert_showPage c writable

end Help

namespace Table

theorem hasBareFields_read : HasBareFields ["n"] readTemplate := by
  rw [readTemplate]
  repeat rw [Text.ofString_ofList]
  decide

theorem isInert_writeRows (sink : Sink) (config : Config) (rows : List (List Text)) :
    (writeRows sink config rows).IsInert standard := by
  refine (isInert_emit 1 "render" hasBareFields_read rfl
    (List.forall_mem_singleton.mpr rfl)).bind fun _ _ => ?_
  refine (config.isInert_draw _).bind fun text _ => (Run.isInert_print _ _).bind fun _ _ => ?_
  split
  · exact isInert_hint "verbose" rfl Hint.hasBareFields_header rfl nofun
  · exact isInert_pure _

theorem isInert_run (files : FileTree) (here : Location) (input : Input) (sink : Sink)
    (r : Request) : (run files here input sink r).IsInert standard :=
  (isInert_ofExcept _).bind fun _ _ => (isInert_ofExcept _).bind fun _ _ =>
    isInert_writeRows _ _ _

end Table

variable {program : Value}

theorem Command.isInert_run (writable : program.isWritable = true) (c : Catalog) (call : Call)
    (settings : Settings) (command : Command) :
    (command.run c call program settings).IsInert standard := by
  cases command with
  | help name sub => exact Help.isInert_run c writable
  | table request => exact Table.isInert_run _ _ _ _ request

/-- The text of an error stands for itself in the log. -/
theorem isInert_tellError (message : Text) : (tellError message).IsInert standard :=
  Run.isInert_inform (Event.isTaken_message _ _ ⟨_, rfl⟩)

theorem isInert_reportFailure (writable : program.isWritable = true) (sink : Sink) (e : Failure) :
    (reportFailure sink program e).IsInert standard := by
  have hunknown : (do
      tellError e.message
      Run.hint Hint.list.id "error" [("prog", program)]
      return 1 : Run Failure Nat).IsInert standard := by
    refine (isInert_tellError _).bind fun _ _ => ?_
    exact (isInert_hint "error" rfl Hint.hasBareFields_list rfl
      (List.forall_mem_singleton.mpr writable)).bind fun _ _ => isInert_pure _
  cases e with
  | catalog e =>
    cases e with
    | unknownCommand name => exact hunknown
    | unknownSubCommand sub name => exact hunknown
    | _ => exact isInert_fail _
  | file f =>
    rw [reportFailure]
    split
    · exact (isInert_tellError _).bind fun _ _ => isInert_pure _
    · exact isInert_fail _
  | interrupted => exact (Run.isInert_write _ _).bind fun _ _ => isInert_pure _
  | _ => exact isInert_fail _

namespace Call

/-- The name of the program has a text if the settings give it one. -/
theorem isWritable_programValue (call : Call) {settings : Settings}
    (h : settings.programName.isWritable = true) :
    (call.programValue settings).isWritable = true := by
  rw [programValue]
  split
  · rfl
  · split
    · exact h
    · rfl

theorem isInert_runCommand (call : Call) {settings : Settings}
    (h : settings.programName.isWritable = true) (command : Command) :
    (call.runCommand settings command).IsInert standard := by
  have hprogram := call.isWritable_programValue h
  refine (Catalog.isInert_registerAll _ _).bind fun catalog _ => ?_
  refine .recover ?_ fun e _ => isInert_reportFailure hprogram _ e
  exact (command.isInert_run hprogram catalog call settings).bind fun _ _ => isInert_pure _

/-- **The log has no say in what a call comes to behind its flags**, nor in what it writes. -/
theorem isInert_runLine (call : Call) (flags : CommandLine.Flags) (line : List Text) :
    (call.runLine flags line).IsInert standard := by
  refine (Settings.isInert_resolve _ _ _ _).bind fun values hvalues => ?_
  rw [Settings.outcome_resolve] at hvalues
  split
  · exact (Run.isInert_write _ _).bind fun _ _ => isInert_pure _
  · exact (isInert_complain _).bind fun _ _ => isInert_pure _
  · cases hlayers : Settings.layers call.place flags.given [] with
    | error e =>
      rw [hlayers] at hvalues
      cases hvalues
    | ok found =>
      rw [hlayers] at hvalues
      cases hvalues
      exact call.isInert_runCommand (Settings.isWritable_programName_ofLayers hlayers) _

end Call
end Commands
end HelpPages
