import HelpPages.Proofs.Outcome
import HelpPages.Proofs.Template.Fill

/-! # Runs in which the log has no say

A message that is shown has its template filled in, and one that is held back has not, so a
message whose template cannot be filled in would go wrong in a log that shows much and pass in
one that shows little.  A run in which the log has no say (`Run.IsInert`) comes to its outcome
and writes its output on every console, and leaves no more behind than another log.  A run is
one if its parts are: going on from an outcome keeps to it (`Run.IsInert.attempt`), and telling
something does if every log takes it (`Event.IsTaken`).
-/
namespace HelpPages

open Template (HasBareFields)

variable {hints : Hints}

/-- Every log takes the event. -/
def Event.IsTaken (hints : Hints) (event : Event) : Prop :=
  ∀ log output, ∃ after, Console.receive { log, hints, output } event =
    .ok { log := after, hints, output := output ++ event.outputText }

namespace Log

/-- A message has a text if its fields are bare and their values have texts. -/
theorem exists_textOf {template : Text} {values : Entries Value} {names : List Text}
    (bare : HasBareFields names template) (given : values.names = names)
    (writable : ∀ entry ∈ values, entry.2.isWritable = true) :
    ∃ text, textOf template values = .ok text := by
  rw [textOf]
  split
  · exact ⟨_, rfl⟩
  · exact ⟨_, Template.fill_of_bare (given ▸ bare) writable⟩

end Log

namespace Event

/-- An event that is no output is taken by a log. -/
theorem isTaken_of_log {event : Event} (silent : event.outputText = [])
    (h : ∀ log output, ∃ after, Console.receive { log, hints, output } event =
      .ok { log := after, hints, output }) : event.IsTaken hints := by
  intro log output
  rw [silent, List.append_nil]
  exact h log output

theorem isTaken_message (level : Int) (channel : Text) {template : Text} {values : Entries Value}
    (h : ∃ text, Log.textOf template values = .ok text) :
    (message level channel template values).IsTaken hints := by
  refine isTaken_of_log rfl fun log output => ?_
  obtain ⟨text, htext⟩ := h
  rw [Console.receive, Log.emit]
  split
  · exact ⟨log.print text, by rw [htext]; rfl⟩
  · exact ⟨log, rfl⟩

theorem isTaken_hint {id : Text} (context : Text) {values : Entries Value}
    (h : ∀ hint, hints.get? id = some hint → ∃ text, Log.textOf hint.message values = .ok text) :
    (hint id context values).IsTaken hints := by
  refine isTaken_of_log rfl fun log output => ?_
  rw [Console.receive, Log.hint]
  split
  · exact ⟨log, rfl⟩
  · next known hknown =>
    obtain ⟨text, htext⟩ := h known hknown
    split
    · exact ⟨_, by rw [htext]; rfl⟩
    · exact ⟨log, rfl⟩

theorem isTaken_complaint (text : Text) : (complaint text).IsTaken hints :=
  isTaken_of_log rfl fun log _ => ⟨log.print text, rfl⟩

end Event

namespace Run

variable {δ ε α β : Type}

/-- The log has no say in the run: on every console with these hints it comes to its outcome and
writes its output, and leaves nothing else behind than another log. -/
def IsInert (hints : Hints) (r : Run ε α) : Prop :=
  ∀ log output, ∃ after, r.perform { log, hints, output } =
    (r.outcome, { log := after, hints, output := output ++ r.output })

theorem isInert_done (x : Except ε α) : (done x).IsInert hints := fun log output =>
  ⟨log, by show _ = (x, Console.mk log hints (output ++ [])); rw [List.append_nil]; rfl⟩

theorem isInert_pure (a : α) : (pure a : Run ε α).IsInert hints := isInert_done (.ok a)

theorem isInert_ofExcept (x : Except ε α) : (ofExcept x).IsInert hints := isInert_done x

theorem isInert_fail (e : ε) : (fail e : Run ε α).IsInert hints := isInert_done (.error e)

section

variable [TemplateFailure ε]

theorem isInert_inform {event : Event} (h : event.IsTaken hints) :
    (inform event : Run ε Unit).IsInert hints := by
  intro log output
  obtain ⟨after, htaken⟩ := h log output
  refine ⟨after, ?_⟩
  rw [inform, perform, htaken]
  show _ = (Except.ok (), Console.mk after hints (output ++ (event.outputText ++ [])))
  rw [List.append_nil]
  rfl

/-- A message is told whose fields are bare and whose values have texts. -/
theorem isInert_emit (level : Int) (channel : Text) {template : Text} {values : Entries Value}
    {names : List Text} (bare : HasBareFields names template) (given : values.names = names)
    (writable : ∀ entry ∈ values, entry.2.isWritable = true) :
    (emit level channel template values : Run ε Unit).IsInert hints :=
  isInert_inform (Event.isTaken_message _ _ (Log.exists_textOf bare given writable))

/-- A registered hint is told whose fields are bare and whose values have texts. -/
theorem isInert_hint {known : Hint} (context : Text) {values : Entries Value} {names : List Text}
    (registered : hints.get? known.id = some known) (bare : HasBareFields names known.message)
    (given : values.names = names) (writable : ∀ entry ∈ values, entry.2.isWritable = true) :
    (hint known.id context values : Run ε Unit).IsInert hints := by
  refine isInert_inform (Event.isTaken_hint _ fun other hother => ?_)
  obtain rfl : known = other := Option.some.inj (registered.symm.trans hother)
  exact Log.exists_textOf bare given writable

theorem isInert_put (text : Text) : (put text : Run ε Unit).IsInert hints :=
  isInert_inform fun log _ => ⟨log, rfl⟩

theorem isInert_complain (text : Text) : (complain text : Run ε Unit).IsInert hints :=
  isInert_inform (Event.isTaken_complaint text)

end

namespace IsInert

variable {r : Run ε α}

/-- A run goes on from its outcome on every console. -/
theorem attempt {go : Except ε α → Run δ β} (hr : r.IsInert hints)
    (hgo : (go r.outcome).IsInert hints) : (r.attempt go).IsInert hints := by
  intro log output
  obtain ⟨middle, hfirst⟩ := hr log output
  obtain ⟨after, hrest⟩ := hgo middle (output ++ r.output)
  refine ⟨after, ?_⟩
  rw [perform_attempt, hfirst, hrest, outcome_attempt, output_attempt, List.append_assoc]

theorem bind {f : α → Run ε β} (hr : r.IsInert hints)
    (hf : ∀ a, r.outcome = .ok a → (f a).IsInert hints) : (r >>= f).IsInert hints := by
  refine hr.attempt ?_
  cases h : r.outcome with
  | ok a => exact hf a h
  | error e => exact isInert_fail e

theorem recover {handle : ε → Run ε α} (hr : r.IsInert hints)
    (hhandle : ∀ e, r.outcome = .error e → (handle e).IsInert hints) :
    (r.recover handle).IsInert hints := by
  refine hr.attempt ?_
  cases h : r.outcome with
  | ok a => exact isInert_done _
  | error e => exact hhandle e h

/-- A run that only tells things may be left out. -/
theorem whenShown {r : Run ε Unit} (level : Int) (channel : Text) (hr : r.IsInert hints)
    (done : r.outcome = .ok ()) (silent : r.output = []) :
    (r.whenShown level channel).IsInert hints := by
  intro log output
  have hskip : ∃ after, (pure () : Run ε Unit).perform { log, hints, output } = _ :=
    isInert_pure () log output
  obtain ⟨after, h⟩ := hr log output
  rw [done, silent] at h
  show ∃ after, (if log.isActive channel level then r else _).perform _ = _
  split
  · exact ⟨after, h⟩
  · exact hskip

end IsInert
end Run
end HelpPages
