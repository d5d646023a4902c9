import HelpPages.Proofs.CommandLine.Diagnostics
import HelpPages.Proofs.Program.Stages

/-! # Diagnostics of the program

Flags that say how much the log shows have a say in the errors of a call only.  Before a line they
are read for themselves (`CommandLine.Flags.read_diagnosed`), and behind its flags a call does the
same on every log: a message that is shown has its template filled in and one that is held back
has not, but filling in never goes wrong (`Call.isInert_runLine`).
-/
namespace HelpPages
namespace Call

open CommandLine (Diagnostic Flags)

/-- The call with diagnostic flags before its line. -/
def diagnosed (call : Call) (diagnostics : List Diagnostic) : Call :=
  { call with line := CommandLine.diagnosed diagnostics call.line }

/-- What a call does depends on no flags but those for its settings. -/
theorem runLine_diagnosed (call : Call) (diagnostics : List Diagnostic) {flags more : Flags}
    (h : more.given = flags.given) (line : List Text) :
    (call.diagnosed diagnostics).runLine more line = call.runLine flags line := by
  rw [runLine, runLine, h]
  rfl

/-- What a call does behind its flags ends in the same way and writes the same output on every
log. -/
theorem reportOn_runLine_agree (call : Call) (flags : Flags) (line : List Text) (log other : Log) :
    (reportOn log (call.runLine flags line)).ending =
        (reportOn other (call.runLine flags line)).ending ∧
      (reportOn log (call.runLine flags line)).output =
        (reportOn other (call.runLine flags line)).output := by
  obtain ⟨errors, hlog⟩ := exists_reportOn_eq log (call.isInert_runLine flags line)
  obtain ⟨others, hother⟩ := exists_reportOn_eq other (call.isInert_runLine flags line)
  rw [hlog, hother]
  exact ⟨rfl, rfl⟩

/-- **Diagnostics change no result.**  Whatever flags for the log stand before its line, a call
ends in the same way and writes the same output.  And whatever its log shows, what a call does
behind its flags comes to the same outcome, so nothing goes wrong where it tells the log
something. -/
theorem run_diagnosed (call : Call) {diagnostics : List Diagnostic}
    (valid : ∀ d ∈ diagnostics, d.IsValid) :
    (call.diagnosed diagnostics).run.ending = call.run.ending ∧
    (call.diagnosed diagnostics).run.output = call.run.output ∧
    ∀ flags line, (call.runLine flags line).IsInert Hints.standard := by
  obtain ⟨hstop, hflags⟩ := Flags.read_diagnosed valid (Path.baseName call.path) call.line
  suffices hagree : (call.diagnosed diagnostics).run.ending = call.run.ending ∧
      (call.diagnosed diagnostics).run.output = call.run.output from
    ⟨hagree.1, hagree.2, call.isInert_runLine⟩
  cases hread : Flags.read (Path.baseName call.path) call.line with
  | error stop =>
    have hmore : Flags.read (Path.baseName (call.diagnosed diagnostics).path)
        (call.diagnosed diagnostics).line = .error stop := hstop stop hread
    rw [run, run, hread, hmore]
    exact ⟨rfl, rfl⟩
  | ok found =>
    obtain ⟨flags, rest⟩ := found
    obtain ⟨more, hfound, hextends⟩ := hflags flags rest hread
    have hmore : Flags.read (Path.baseName (call.diagnosed diagnostics).path)
        (call.diagnosed diagnostics).line = .ok (more, rest) := hfound
    have hlog := hextends.exists_log_iff fun t ht => Diagnostic.exists_of_mem_specs valid ht
    rw [run, run, hread, hmore]
    simp only [hextends.listsChannels_eq]
    split
    · exact ⟨rfl, rfl⟩
    · -- both calls get a log, or neither does
      cases hother : flags.log with
      | ok other =>
        obtain ⟨log, hlog⟩ := hlog.mpr ⟨other, hother⟩
        rw [hlog, call.runLine_diagnosed diagnostics hextends.given_eq]
        exact call.reportOn_runLine_agree flags rest log other
      | error e =>
        cases hown : more.log with
        | ok log =>
          obtain ⟨other, hok⟩ := hlog.mp ⟨log, hown⟩
          rw [hother] at hok
          cases hok
        | error e => exact ⟨rfl, rfl⟩

/-- Flags that show more and less, a channel up to a level, and one without a level. -/
def sampleDiagnostics : List Diagnostic :=
  [.louder, .shown "parse" (some " 3"), .quieter, .shown "trace" (some []), .shown "hint" none]

/-- A call for the page of a sub-command. -/
def sampleCall : Call := { line := ["help", "--no-color", "table", "csv"], program := "docs" }

theorem run_diagnosed_sample :
    (∀ d ∈ sampleDiagnostics, d.IsValid) ∧
      (sampleCall.diagnosed sampleDiagnostics).run.ending = sampleCall.run.ending ∧
      (sampleCall.diagnosed sampleDiagnostics).run.output = sampleCall.run.output ∧
      ∀ flags line, (sampleCall.runLine flags line).IsInert Hints.standard := by
  have hlevel : ∀ digits ∈ some (" 3" : Text), digits = [] ∨ ∃ i, Integer.ofText? digits = .ok i :=
    fun digits hdigits => Or.inr ⟨3, by rw [← Option.some.inj hdigits]; rfl⟩
  have hnone : ∀ digits ∈ some ([] : Text), digits = [] ∨ ∃ i, Integer.ofText? digits = .ok i :=
    fun digits hdigits => Or.inl (Option.some.inj hdigits).symm
  have valid : ∀ d ∈ sampleDiagnostics, d.IsValid := by
    simp only [sampleDiagnostics, List.forall_mem_cons]
    exact ⟨trivial, ⟨by decide, by decide, hlevel⟩, trivial, ⟨by decide, by decide, hnone⟩,
      ⟨by decide, by decide, nofun⟩, nofun⟩
  exact ⟨valid, sampleCall.run_diagnosed valid⟩

end Call
end HelpPages
