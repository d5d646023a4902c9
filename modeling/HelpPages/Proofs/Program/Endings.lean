import HelpPages.Proofs.Program.Failures

/-! # How a call ends

A call ends with an exit code or with a failure.  It fails if its settings cannot be read, or if
its command fails in a way that the program does not report (`Call.run_ending`).  What is
reported, a name that the catalog does not have or a file that the system does not let read, ends
it with the exit code 1.
-/
namespace HelpPages

/-- What goes wrong with a command. -/
inductive Command.Fails (call : Call) (settings : Settings) : Command → Failure → Prop
  | help {e : Failure} {command subCommand : Option Text}
      (fails : Help.Fails
        { command := command.getD [], subCommand, program := call.programValue settings, settings
          sink := call.sink } e) : Fails call settings (.help command subCommand) e
  | table {e : Failure} {request : Table.Request}
      (fails : Table.Fails call.place.files call.place.here call.input request e) :
      Fails call settings (.table request) e

theorem Command.outcome_run_eq_error_iff {call : Call} {settings : Settings} {command : Command}
    {e : Failure} (writable : (call.programValue settings).isWritable = true) :
    (command.run .standard call (call.programValue settings) settings).outcome = .error e ↔
      command.Fails call settings e := by
  cases command with
  | help command subCommand =>
    refine (Help.outcome_run_eq_error_iff writable).trans ⟨.help, fun h => ?_⟩
    cases h with
    | help fails => exact fails
  | table request =>
    refine Table.outcome_run_eq_error_iff.trans ⟨.table, fun h => ?_⟩
    cases h with
    | table fails => exact fails

/-- Help only misses commands and sub-commands that there are not. -/
theorem Command.Fails.exitCode?_of_catalog {call : Call} {settings : Settings} {command : Command}
    {e : Catalog.Error} (h : command.Fails call settings (.catalog e)) :
    (Failure.catalog e).exitCode? = some 1 := by
  cases h with
  | help fails =>
    cases fails with
    | unknown page missing => exact Catalog.exitCode?_of_resolve missing
    | listIndent list named fails => exact absurd rfl (fails.ne_catalog e)
    | pageIndent page found able fails => exact absurd rfl (fails.ne_catalog e)
  | table fails =>
    cases fails with
    | input fails => cases fails

/-- Reported are commands and sub-commands that there are not, files that the system does not let
read, and interruptions. -/
theorem Failure.exitCode?_eq_some {e : Failure} {code : Nat} (h : e.exitCode? = some code) :
    code = 1 ∧ ((∃ c, e = .catalog c) ∨ ∃ f, e = .file f ∧ f.isOfSystem = true) ∨
      code = 130 ∧ e = .interrupted := by
  cases e with
  | catalog c =>
    refine .inl ⟨?_, .inl ⟨c, rfl⟩⟩
    cases c with
    | unknownCommand name => cases h; rfl
    | unknownSubCommand sub name => cases h; rfl
    | _ => cases h
  | file f =>
    rw [exitCode?] at h
    split at h
    · next hsystem =>
      cases h
      exact .inl ⟨rfl, .inr ⟨f, rfl, hsystem⟩⟩
    · cases h
  | interrupted =>
    cases h
    exact .inr ⟨rfl, rfl⟩
  | _ => cases h

namespace Call

/-- What goes wrong with the settings of a call. -/
def SettingsFail (call : Call) (e : Failure) : Prop :=
  ∃ flags line log, call.Begins flags line log ∧ Settings.Fails call.place flags.given e

/-- What goes wrong with the command of a call. -/
def CommandFails (call : Call) (e : Failure) : Prop :=
  ∃ settings command, call.Runs settings command ∧ command.Fails call settings e

variable {call : Call}

theorem ending_of_settingsFail {e : Failure} (h : call.SettingsFail e) :
    call.run.ending = .failure e := by
  obtain ⟨flags, line, log, hbegins, hfails⟩ := h
  rw [hbegins.ending_eq, outcome_runLine_of_error (Settings.layers_eq_error_iff.mpr hfails),
    endingOf]

theorem ending_of_commandFails {e : Failure} (h : call.CommandFails e) :
    call.run.ending = e.ending := by
  obtain ⟨settings, command, hruns, hfails⟩ := h
  rw [hruns.ending_eq,
    (Command.outcome_run_eq_error_iff hruns.isWritable_programValue).mpr hfails]

/-- A call ends with the exit code 0 or 2, or its settings cannot be read, or its command fails. -/
theorem ending_cases (call : Call) :
    (call.run.ending = .exit 0 ∨ call.run.ending = .exit 2) ∨
      (∃ e, call.SettingsFail e) ∨ ∃ e, call.CommandFails e := by
  rcases call.begins_or_exit with ⟨flags, line, log, hbegins⟩ | hexit
  · cases hlayers : Settings.layers call.place flags.given [] with
    | error e =>
      exact .inr (.inl ⟨e, flags, line, log, hbegins, Settings.layers_eq_error_iff.mp hlayers⟩)
    | ok found =>
      cases hcommand : Command.read line with
      | error stop =>
        rw [hbegins.ending_eq]
        rcases outcome_runLine_of_stop hlayers hcommand with hcode | hcode
        · exact .inl (.inl (by rw [hcode, endingOf]))
        · exact .inl (.inr (by rw [hcode, endingOf]))
      | ok command =>
        have hruns : call.Runs (.ofLayers found.1) command :=
          ⟨flags, line, log, found, hbegins, hlayers, rfl, hcommand⟩
        cases hrun : (command.run .standard call (call.programValue (.ofLayers found.1))
            (.ofLayers found.1)).outcome with
        | ok _ => exact .inl (.inl (by rw [hruns.ending_eq, hrun]))
        | error e =>
          exact .inr (.inr ⟨e, _, command, hruns,
            (Command.outcome_run_eq_error_iff hruns.isWritable_programValue).mp hrun⟩)
  · exact .inl hexit

/-- A failure of its settings, or one of its command that is not reported, ends a call. -/
theorem ending_eq_failure_iff {e : Failure} :
    call.run.ending = .failure e ↔
      call.SettingsFail e ∨ call.CommandFails e ∧ e.exitCode? = none := by
  constructor
  · intro h
    -- a call has one ending, so that of the case it falls in is the given one
    rcases call.ending_cases with (hexit | hexit) | ⟨e', hfails⟩ | ⟨e', hfails⟩
    · cases hexit.symm.trans h
    · cases hexit.symm.trans h
    · cases (ending_of_settingsFail hfails).symm.trans h
      exact .inl hfails
    · rw [ending_of_commandFails hfails, Failure.ending] at h
      split at h
      · cases h
      · next hnone =>
        cases h
        exact .inr ⟨hfails, hnone⟩
  · rintro (hfails | ⟨hfails, hnone⟩)
    · exact ending_of_settingsFail hfails
    · rw [ending_of_commandFails hfails, Failure.ending, hnone]

/-- Another exit code than 0 and 2 is that of a failure that is reported. -/
theorem ending_eq_exit_iff {code : Nat} (success : code ≠ 0) (refusal : code ≠ 2) :
    call.run.ending = .exit code ↔ ∃ e, call.CommandFails e ∧ e.exitCode? = some code := by
  constructor
  · intro h
    rcases call.ending_cases with (hexit | hexit) | ⟨e, hfails⟩ | ⟨e, hfails⟩
    · exact absurd (Ending.exit.inj (h.symm.trans hexit)) success
    · exact absurd (Ending.exit.inj (h.symm.trans hexit)) refusal
    · cases (ending_of_settingsFail hfails).symm.trans h
    · refine ⟨e, hfails, ?_⟩
      rw [ending_of_commandFails hfails, Failure.ending] at h
      split at h
      · next hsome =>
        cases h
        exact hsome
      · cases h
  · rintro ⟨e, hfails, hsome⟩
    rw [ending_of_commandFails hfails, Failure.ending, hsome]

/-- A settings file that is no text ends the call before its table is drawn. -/
example :
    ({ line := ["table", "tsv", "t.tsv"]
       place.files.nodes := [(["t.tsv"], .file [0x61]), ([".dochelp.json"], .file [0xff])] } :
      Call).run.ending = .failure .undecodable := by
  decide +kernel

end Call
end HelpPages
