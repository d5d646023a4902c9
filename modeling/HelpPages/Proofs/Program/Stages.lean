import HelpPages.Proofs.CommandLine.Screens
import HelpPages.Proofs.Program.Inert

/-! # The stages of a call

A call reads its flags and opens a log, reads its settings, reads its command and runs it.  It
may come to its end at each of these stages, and what it comes to is decided by what the stage
itself reads: one lemma for each stage says how.  The log decides nothing behind the flags
(`Call.Begins.ending_eq`, `Call.Begins.output_eq`).
-/
namespace HelpPages

/-! ### Output -/

namespace Sink

variable {sink : Sink} {text : Text}

theorem takes_of_isEncodable (sink : Sink) (h : text.isEncodable = true) :
    sink.takes text = true := by
  cases sink with
  | utf8 => exact h
  | memory => rfl

/-- Ending its last line makes no difference to whether a text is taken. -/
theorem takes_append_feed (sink : Sink) (text : Text) :
    sink.takes (text ++ "\n") = sink.takes text := by
  cases sink with
  | utf8 => exact List.all_append.trans (Bool.and_true _)
  | memory => rfl

end Sink

namespace Run

variable (sink : Sink) (text : Text)

theorem outcome_print : (print sink text).outcome =
    if sink.takes text then .ok () else .error .unencodable := by
  rw [print]
  split <;> rfl

theorem output_print_of_takes {sink : Sink} {text : Text} (h : sink.takes text = true) :
    (print sink text).output = text := by
  rw [print, if_pos h]
  exact List.append_nil _

theorem outcome_write : (write sink text).outcome =
    if sink.takes text then .ok () else .error .unencodable := by
  rw [write, outcome_print]
  split
  · rfl
  · rw [sink.takes_append_feed]

end Run

/-! ### Reported failures -/

/-- The exit code for a failure that the program reports. -/
def Failure.exitCode? : Failure → Option Nat
  | .catalog (.unknownCommand _) | .catalog (.unknownSubCommand ..) => some 1
  | .file e => if e.isOfSystem then some 1 else none
  | .interrupted => some 130
  | _ => none

/-- How a call ends whose command fails. -/
def Failure.ending (e : Failure) : Ending :=
  match e.exitCode? with
  | some code => .exit code
  | none => .failure e

theorem outcome_reportFailure (sink : Sink) (program : Value) (e : Failure) :
    (reportFailure sink program e).outcome =
      match e.exitCode? with
      | some code => .ok code
      | none => .error e := by
  cases e with
  | catalog e => cases e <;> rfl
  | file e =>
    rw [reportFailure, Failure.exitCode?]
    split <;> rfl
  | interrupted =>
    rw [reportFailure, Run.outcome_bind, Run.outcome_write,
      if_pos (sink.takes_of_isEncodable (by decide))]
    rfl
  | _ => rfl

/-! ### The catalog of the program -/

/-- The catalog of the commands of the program. -/
def Catalog.standard : Catalog := { commands := standardCommands }

theorem outcome_registerAll :
    (Catalog.registerAll {} standardCommands).outcome = .ok Catalog.standard := by
  rfl

theorem output_registerAll : (Catalog.registerAll {} standardCommands).output = [] := by
  rfl

/-! ### Screens -/

namespace CommandLine

/-- What is shown instead of asking is one of the screens. -/
theorem Grammar.exists_screen_of_ask {α : Type} {g : Grammar α} {program : Text}
    {screen? : α → Option Text} {line : List Text} {text : Text}
    (h : g.ask program screen? line = .error (.screen text)) :
    ∃ part, screen? part = some text := by
  rw [ask] at h
  split at h
  · next found hfound =>
    cases h
    obtain ⟨item, -, hitem⟩ := List.exists_of_findSome?_eq_some hfound
    exact ⟨item.part, hitem⟩
  · split at h <;> cases h

/-! The screens of the program and of its commands can be written, since all their texts are
strings. -/

theorem isEncodable_mainScreen : mainScreen.isEncodable = true := by
  have hgrammar : grammar.IsEncodable := by
    simp [Grammar.IsEncodable, Switch.IsEncodable, Operand.IsEncodable, grammar, helpSwitch,
      flagSwitches]
  have hmanual : manual.IsEncodable := by
    simp [Manual.IsEncodable, manual, summaries, helpName, helpSummary, tableName, tableSummary,
      Text.isEncodable_joinWith]
  exact Grammar.isEncodable_screen hgrammar (Text.isEncodable_ofString _) hmanual

theorem isEncodable_screen {part : Part} {text : Text} (h : screen? part = some text) :
    text.isEncodable = true := by
  have hversion : Text.isEncodable (programName ++ " " ++ Version.current.text) = true := by decide
  cases part with
  | screen => cases h; exact isEncodable_mainScreen
  | version => cases h; exact hversion
  | _ => cases h

/-- The name of a command behind that of the program can be written. -/
theorem isEncodable_named {name : Text} (h : name.isEncodable = true) :
    (programName ++ " " ++ name).isEncodable = true :=
  Text.isEncodable_append (Text.isEncodable_append (Text.isEncodable_ofString _)
    (Text.isEncodable_ofString _)) h

/-- A manual that is one line can be written if the line can. -/
theorem isEncodable_manual {summary : Text} (h : summary.isEncodable = true) :
    ({ description := summary ++ "." } : Manual).IsEncodable :=
  ⟨Text.isEncodable_append h (Text.isEncodable_ofString _), nofun, rfl⟩

theorem isEncodable_helpScreen {part : HelpPart} {text : Text} (h : helpScreen? part = some text) :
    text.isEncodable = true := by
  have hgrammar : helpGrammar.IsEncodable := by
    simp [Grammar.IsEncodable, Switch.IsEncodable, Operand.IsEncodable, helpGrammar, helpSwitch]
  cases part with
  | screen =>
    cases h
    exact Grammar.isEncodable_screen hgrammar (isEncodable_named (Text.isEncodable_ofString _))
      (isEncodable_manual (Text.isEncodable_ofString _))
  | _ => cases h

theorem isEncodable_tableScreen {part : TablePart} {text : Text}
    (h : tableScreen? part = some text) : text.isEncodable = true := by
  have hnames : (Text.joinWith "," (formats.map Table.Format.name)).isEncodable = true :=
    Text.isEncodable_joinWith (Text.isEncodable_ofString _) (by simp [formats, Table.Format.name])
  have hgrammar : tableGrammar.IsEncodable := by
    simp [Grammar.IsEncodable, Switch.IsEncodable, Operand.IsEncodable, tableGrammar, helpSwitch,
      Text.isEncodable_append, hnames]
  cases part with
  | screen =>
    cases h
    exact Grammar.isEncodable_screen hgrammar (isEncodable_named (Text.isEncodable_ofString _))
      (isEncodable_manual (Text.isEncodable_ofString _))
  | _ => cases h

theorem isEncodable_of_readCommand {words : List Text} {text : Text}
    (h : readCommand words = .error (.screen text)) : text.isEncodable = true := by
  cases words with
  | nil =>
    cases h
    exact isEncodable_mainScreen
  | cons name line =>
    rw [readCommand] at h
    split at h
    · rcases bind_eq_error_iff.mp h with hask | ⟨_, -, hdone⟩
      · obtain ⟨part, hpart⟩ := Grammar.exists_screen_of_ask hask
        exact isEncodable_tableScreen hpart
      · cases hdone
    · rcases bind_eq_error_iff.mp h with hask | ⟨_, -, hdone⟩
      · obtain ⟨part, hpart⟩ := Grammar.exists_screen_of_ask hask
        exact isEncodable_helpScreen hpart
      · cases hdone

end CommandLine

/-- Every screen that a line without flags may ask for can be written. -/
theorem Command.isEncodable_of_read {line : List Text} {text : Text}
    (h : Command.read line = .error (.screen text)) : text.isEncodable = true := by
  rcases bind_eq_error_iff.mp h with hask | ⟨⟨items, extras⟩, -, h⟩
  · obtain ⟨part, hpart⟩ := CommandLine.Grammar.exists_screen_of_ask hask
    exact CommandLine.isEncodable_screen hpart
  · dsimp only at h
    split at h
    · split at h
      · cases h
        exact CommandLine.isEncodable_mainScreen
      · cases h
    · rcases bind_eq_error_iff.mp h with hcommand | ⟨_, -, hdone⟩
      · exact CommandLine.isEncodable_of_readCommand hcommand
      · split at hdone <;> cases hdone

/-! ### Calls -/

namespace Call

open CommandLine (Flags)

/-- A call begins: its flags are read and do not ask for the list of channels, and it has a
log. -/
structure Begins (call : Call) (flags : Flags) (line : List Text) (log : Log) : Prop where
  read : Flags.read (Path.baseName call.path) call.line = .ok (flags, line)
  runs : flags.listsChannels = false
  logs : flags.log = .ok log

variable {call : Call} {flags : Flags} {line : List Text} {log : Log}

/-- The report on a run in which the log has no say: its outcome, its output and some errors. -/
theorem exists_reportOn_eq (log : Log) {run : Run Failure Nat} (h : run.IsInert Hints.standard) :
    ∃ errors, reportOn log run =
      { ending := endingOf run.outcome, output := run.output, errors } := by
  obtain ⟨after, hperform⟩ := h log []
  refine ⟨after.text, ?_⟩
  rw [reportOn, hperform]
  rfl

theorem Begins.run_eq (h : call.Begins flags line log) :
    call.run = reportOn log (call.runLine flags line) := by
  rw [run, h.read]
  simp only [h.runs, h.logs]
  rfl

/-- A call that begins ends as it would with a log that shows nothing. -/
theorem Begins.ending_eq (h : call.Begins flags line log) :
    call.run.ending = endingOf (call.runLine flags line).outcome := by
  obtain ⟨errors, hreport⟩ := exists_reportOn_eq log (call.isInert_runLine flags line)
  rw [h.run_eq, hreport]

/-- A call that begins writes what it would with a log that shows nothing. -/
theorem Begins.output_eq (h : call.Begins flags line log) :
    call.run.output = (call.runLine flags line).output := by
  obtain ⟨errors, hreport⟩ := exists_reportOn_eq log (call.isInert_runLine flags line)
  rw [h.run_eq, hreport]

/-- A call begins, or it ends at once with an exit code. -/
theorem begins_or_exit (call : Call) :
    (∃ flags line log, call.Begins flags line log) ∨
      call.run.ending = .exit 0 ∨ call.run.ending = .exit 2 := by
  rw [run]
  split
  · exact .inr (.inl rfl)
  · exact .inr (.inr rfl)
  · next flags line hread =>
    split
    · exact .inr (.inl rfl)
    · next hruns =>
      split
      · exact .inr (.inr rfl)
      · next log hlog => exact .inl ⟨flags, line, log, hread, Bool.eq_false_iff.mpr hruns, hlog⟩

/-- Settings that cannot be read end a call. -/
theorem outcome_runLine_of_error {e : Failure}
    (h : Settings.layers call.place flags.given [] = .error e) :
    (call.runLine flags line).outcome = .error e := by
  rw [runLine, Run.outcome_bind, Settings.outcome_resolve, h]
  rfl

section

variable {found : List Settings.Layer × Option Text}
  (readable : Settings.layers call.place flags.given [] = .ok found)
include readable

theorem outcome_resolve_of_readable :
    (Settings.resolve call.place flags.given []).outcome = .ok (Settings.values found.1) := by
  rw [Settings.outcome_resolve, readable]
  rfl

/-- Words that are no command end a call with an exit code. -/
theorem outcome_runLine_of_stop {stop : CommandLine.Stop} (h : Command.read line = .error stop) :
    (call.runLine flags line).outcome = .ok 0 ∨ (call.runLine flags line).outcome = .ok 2 := by
  rw [runLine, Run.outcome_bind, outcome_resolve_of_readable readable, h]
  cases stop with
  | screen text =>
    refine .inl ?_
    show (Run.write call.sink text >>= _ : Run Failure Nat).outcome = _
    rw [Run.outcome_bind, Run.outcome_write,
      if_pos (call.sink.takes_of_isEncodable (Command.isEncodable_of_read h))]
    rfl
  | refusal text => exact .inr rfl

/-- With its settings a call runs its command. -/
theorem runLine_of_command {command : Command} (h : Command.read line = .ok command) :
    (call.runLine flags line).outcome =
        (call.runCommand (.ofLayers found.1) command).outcome ∧
      (call.runLine flags line).output =
        (call.runCommand (.ofLayers found.1) command).output := by
  have hvalues := outcome_resolve_of_readable readable
  rw [runLine, Run.outcome_bind, Run.output_bind_of_ok hvalues, Settings.output_resolve,
    hvalues, h]
  exact ⟨rfl, rfl⟩

end

/-- A command that comes to its end has the exit code 0, and one that fails that of the report
on its failure. -/
theorem outcome_runCommand (call : Call) (settings : Settings) (command : Command) :
    (call.runCommand settings command).outcome =
      match (command.run .standard call (call.programValue settings) settings).outcome with
      | .ok _ => .ok 0
      | .error e =>
        match e.exitCode? with
        | some code => .ok code
        | none => .error e := by
  rw [runCommand, Run.outcome_bind, outcome_registerAll]
  show (Run.recover _ _).outcome = _
  rw [Run.outcome_recover, Run.outcome_bind]
  cases (command.run .standard call (call.programValue settings) settings).outcome with
  | ok a => rfl
  | error e => exact outcome_reportFailure _ _ e

/-- What a command writes that comes to its end is the output of the call. -/
theorem output_runCommand_of_ok {settings : Settings} {command : Command}
    (h : (command.run .standard call (call.programValue settings) settings).outcome = .ok ()) :
    (call.runCommand settings command).output =
      (command.run .standard call (call.programValue settings) settings).output := by
  have hcode : (do command.run .standard call (call.programValue settings) settings; return 0 :
      Run Failure Nat).outcome = .ok 0 := by
    rw [Run.outcome_bind, h]
    rfl
  rw [runCommand, Run.output_bind_of_ok outcome_registerAll, output_registerAll]
  show [] ++ (Run.recover _ _).output = _
  rw [Run.output_recover_of_ok hcode, Run.output_bind_of_ok h]
  exact List.append_nil _

/-- A call runs a command with settings: it has begun, its settings can be read, and the words
behind its flags are the command. -/
structure Runs (call : Call) (settings : Settings) (command : Command) : Prop where
  asks : ∃ flags line log found, call.Begins flags line log ∧
    Settings.layers call.place flags.given [] = .ok found ∧ settings = .ofLayers found.1 ∧
      Command.read line = .ok command

variable {settings : Settings} {command : Command}

/-- The name of the program for a call that runs a command has a text. -/
theorem Runs.isWritable_programValue (h : call.Runs settings command) :
    (call.programValue settings).isWritable = true := by
  obtain ⟨flags, line, log, found, -, hreadable, rfl, -⟩ := h
  exact call.isWritable_programValue (Settings.isWritable_programName_ofLayers hreadable)

/-- A call that runs a command ends with the exit code 0, or as its failure is reported. -/
theorem Runs.ending_eq (h : call.Runs settings command) :
    call.run.ending =
      match (command.run .standard call (call.programValue settings) settings).outcome with
      | .ok _ => .exit 0
      | .error e => e.ending := by
  obtain ⟨flags, line, log, found, hbegins, hreadable, rfl, hcommand⟩ := h
  rw [hbegins.ending_eq, (runLine_of_command hreadable hcommand).1, outcome_runCommand]
  cases (command.run .standard call (call.programValue _) _).outcome with
  | ok _ => rfl
  | error e =>
    dsimp only [Failure.ending]
    cases e.exitCode? <;> rfl

/-- The output of a call whose command comes to its end is that of the command. -/
theorem Runs.output_eq (h : call.Runs settings command)
    (done : (command.run .standard call (call.programValue settings) settings).outcome = .ok ()) :
    call.run.output =
      (command.run .standard call (call.programValue settings) settings).output := by
  obtain ⟨flags, line, log, found, hbegins, hreadable, rfl, hcommand⟩ := h
  rw [hbegins.output_eq, (runLine_of_command hreadable hcommand).2, output_runCommand_of_ok done]

end Call
end HelpPages
