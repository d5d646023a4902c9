import HelpPages.Log.Named
import HelpPages.Proofs.Outcome
import Mathlib.Data.List.Nodup

/-! # Hints are shown once

A session is a log in use with the hints that are registered meanwhile.  A message, an error or
a hint leaves a session as it was or has its text printed (`Session.after_emit_cases`,
`Session.after_error`, `Session.after_hint_cases`).  What a session has shown is read off the
texts that came to be printed: the hint of a call for one whose text was printed
(`printedHint`).  The record that the log keeps is this list at every moment, no hint is in it
twice, and whether the next call prints a hint depends on this list and on what the call offers,
not on the calls in vain before it (`shown_run`).
-/
namespace HelpPages

namespace Log

variable {log after : Log} {level : Value} {message : Text} {channel : Option Value}
  {hints : Hints} {id : Text} {context : Option Value} {values : Entries Value} {text : Text}

/-- A message has a text to print: nothing is given twice, its level is a number that does not
exceed the threshold of its channel, which is above the wall, and its template can be filled
in. -/
def Emits (log : Log) (level : Value) (message : Text) (channel : Option Value)
    (values : Entries Value) (text : Text) : Prop :=
  namesAny messageNames values = false ∧
    ∃ place rest threshold,
      given "channel" channel values = .ok (place, rest) ∧
      log.thresholdOf (place.getD (.text "general")) = .ok threshold ∧
      wall < threshold ∧
      level.exceeds? threshold = some false ∧
      textOf message rest = .ok text

/-- A call for a hint offers a text: nothing is given twice, the hint is registered and meant
for the occasion, its level passes the threshold for hints, which is above the wall, and its
template can be filled in. -/
def Offers (log : Log) (hints : Hints) (id : Text) (context : Option Value)
    (values : Entries Value) (text : Text) : Prop :=
  namesAny hintNames values = false ∧
    ∃ hint occasion rest,
      given "context" context values = .ok (occasion, rest) ∧
      hints.get? id = some hint ∧
      (∃ name ∈ hint.contexts, occasion.getD (.text "result") = .text name) ∧
      (wall < log.threshold "hint" ∧ hint.minLevel ≤ log.threshold "hint") ∧
      textOf hint.message rest = .ok text

/-- The log after the text of a hint is printed and the hint recorded. -/
def showHint (log : Log) (id text : Text) : Log :=
  { log.print text with shown := log.shown ++ [id] }

theorem isActive_iff {channel : Text} {level : Int} :
    log.isActive channel level = true ↔
      wall < log.threshold channel ∧ level ≤ log.threshold channel := by
  rw [isActive, Bool.and_eq_true, decide_eq_true_iff, decide_eq_true_iff]

/-- A message is held back, or its text is printed. -/
theorem emitNamed_cases (h : log.emitNamed level message channel values = .ok after) :
    after = log ∨ ∃ text, log.Emits level message channel values text ∧ after = log.print text := by
  rw [emitNamed] at h
  split at h
  · cases h
  next hnames =>
  obtain ⟨⟨place, rest⟩, hgiven, h⟩ := bind_eq_ok_iff.mp h
  obtain ⟨threshold, hthreshold, h⟩ := bind_eq_ok_iff.mp h
  split at h
  · exact .inl (Except.ok.inj h).symm
  next hwall =>
  split at h
  · cases h
  · exact .inl (Except.ok.inj h).symm
  next hlevel =>
  obtain ⟨text, htext, h⟩ := bind_eq_ok_iff.mp h
  refine .inr ⟨text, ⟨Bool.eq_false_iff.mpr hnames, place, rest, threshold, hgiven, hthreshold,
    Int.not_le.mp hwall, hlevel, mapError_eq_ok_iff.mp htext⟩, ?_⟩
  exact (Except.ok.inj h).symm

/-- A text of a message is printed. -/
theorem emitNamed_of_emits (h : log.Emits level message channel values text) :
    log.emitNamed level message channel values = .ok (log.print text) := by
  obtain ⟨hnames, place, rest, threshold, hgiven, hthreshold, hwall, hlevel, htext⟩ := h
  rw [emitNamed, if_neg (by rw [hnames]; exact Bool.false_ne_true), hgiven]
  show (log.thresholdOf (place.getD (.text "general")) >>= _) = _
  rw [hthreshold]
  show (if _ then _ else _) = _
  rw [if_neg (Int.not_le.mpr hwall), hlevel, htext]
  rfl

/-- A call for a hint does nothing, or it offers a text for a hint not shown before, which is
printed and recorded. -/
theorem hintNamed_cases (h : log.hintNamed hints id context values = .ok after) :
    after = log ∨
      ∃ text, id ∉ log.shown ∧ log.Offers hints id context values text ∧
        after = log.showHint id text := by
  rw [hintNamed] at h
  split at h
  · cases h
  next hnames =>
  obtain ⟨⟨occasion, rest⟩, hgiven, h⟩ := bind_eq_ok_iff.mp h
  dsimp only at h
  split at h
  · exact .inl (Except.ok.inj h).symm
  split at h
  · next name hname =>
    rw [mapError_eq_ok_iff, hint] at h
    split at h
    · exact .inl (Except.ok.inj h).symm
    · next hint hhint =>
      split at h
      · next hshown =>
        obtain ⟨hnew, hcontext, hactive⟩ := hshown
        obtain ⟨text, htext, h⟩ := bind_eq_ok_iff.mp h
        refine .inr ⟨text, hnew, ⟨Bool.eq_false_iff.mpr hnames, hint, occasion, rest, hgiven,
          hhint, ⟨name, hcontext, hname⟩, isActive_iff.mp hactive, htext⟩, ?_⟩
        exact (Except.ok.inj h).symm
      · exact .inl (Except.ok.inj h).symm
  · split at h
    · exact .inl (Except.ok.inj h).symm
    · cases h

/-- A text that is offered for a hint not shown before is printed, and the hint recorded. -/
theorem hintNamed_of_offers (hnew : id ∉ log.shown)
    (h : log.Offers hints id context values text) :
    log.hintNamed hints id context values = .ok (log.showHint id text) := by
  obtain ⟨hnames, hint, occasion, rest, hgiven, hhint, ⟨name, hcontext, hname⟩, hactive,
    htext⟩ := h
  have hknown : ¬ (id ∈ log.shown ∨ (hints.get? id).isNone = true) := by
    rw [hhint]
    exact not_or.mpr ⟨hnew, Bool.false_ne_true⟩
  have hshown : id ∉ log.shown ∧ name ∈ hint.contexts ∧
      log.isActive "hint" hint.minLevel = true :=
    ⟨hnew, hcontext, isActive_iff.mpr hactive⟩
  rw [hintNamed, if_neg (by rw [hnames]; exact Bool.false_ne_true), hgiven]
  show (if _ then _ else _) = _
  rw [if_neg hknown, hname]
  show (log.hint hints id name rest).mapError _ = _
  rw [Log.hint, hhint]
  show Except.mapError _ (if _ then _ else _) = _
  rw [if_pos hshown, htext]
  rfl

theorem ne_showHint (log : Log) (id text : Text) : (log.showHint id text).printed ≠ log.printed :=
  fun h => List.cons_ne_nil text [] (List.append_right_eq_self.mp h)

end Log

/-- A log in use, and the hints that are registered. -/
structure Session where
  log : Log
  hints : Hints := []

namespace Session

/-- What is done in a session. -/
inductive Act where
  | emit (level : Value) (message : Text) (channel : Option Value) (values : Entries Value)
  | error (message : Text)
  | hint (id : Text) (context : Option Value) (values : Entries Value)
  | register (hint : Hint)
  | registerAll (hints : List Hint)

/-- A session with a new log. -/
def start (verbosity : Int) (levels : Levels) (hints : Hints) : Session :=
  { log := { verbosity, levels }, hints }

/-- The session with another log. -/
def withLog (s : Session) (log : Log) : Session := { s with log }

/-- The session after an act, or why the act goes wrong. -/
def act (s : Session) : Act → Except Log.NamedError Session
  | .emit level message channel values =>
    s.withLog <$> s.log.emitNamed level message channel values
  | .error message => .ok (s.withLog (s.log.error message))
  | .hint id context values => s.withLog <$> s.log.hintNamed s.hints id context values
  | .register hint => .ok { s with hints := s.hints.register hint }
  | .registerAll hints =>
    .ok { s with hints := hints.foldl (fun known hint => known.register hint) s.hints }

/-- The session after an act.  An act that goes wrong leaves it as it was. -/
def after (s : Session) (a : Act) : Session :=
  match s.act a with
  | .ok next => next
  | .error _ => s

/-- The session after acts, one after the other. -/
def run (s : Session) (acts : List Act) : Session := acts.foldl after s

/-- The hint whose text an act prints: that of a call for a hint behind which something was
printed. -/
def printedHint (s : Session) (a : Act) : Option Text :=
  match a with
  | .hint id _ _ => if (s.after a).log.printed = s.log.printed then none else some id
  | _ => none

/-- The hints whose texts acts print, in order. -/
def printedHints (s : Session) : List Act → List Text
  | [] => []
  | a :: acts => (s.printedHint a).toList ++ (s.after a).printedHints acts

variable (s : Session)

theorem run_cons (a : Act) (acts : List Act) : s.run (a :: acts) = (s.after a).run acts := rfl

/-- A message leaves the session as it was, or its text is printed. -/
theorem after_emit_cases (level : Value) (message : Text) (channel : Option Value)
    (values : Entries Value) :
    s.after (.emit level message channel values) = s ∨
      ∃ text, s.log.Emits level message channel values text ∧
        s.after (.emit level message channel values) = s.withLog (s.log.print text) := by
  rw [after, act]
  cases h : s.log.emitNamed level message channel values with
  | error e => exact .inl rfl
  | ok log =>
    obtain rfl | ⟨text, hemits, rfl⟩ := Log.emitNamed_cases h
    · exact .inl rfl
    · exact .inr ⟨text, hemits, rfl⟩

/-- A text of a message is printed. -/
theorem after_emit_of_emits {level : Value} {message : Text} {channel : Option Value}
    {values : Entries Value} {text : Text}
    (h : s.log.Emits level message channel values text) :
    s.after (.emit level message channel values) = s.withLog (s.log.print text) := by
  rw [after, act, Log.emitNamed_of_emits h]
  rfl

/-- An error is printed if errors are shown, and leaves the session as it was otherwise. -/
theorem after_error (message : Text) :
    s.after (.error message) =
      if s.log.isActive "error" Log.errorLevel then s.withLog (s.log.print message) else s := by
  show s.withLog (if _ then _ else _) = _
  split
  · rfl
  · rfl

/-- A call for a hint leaves the session as it was, or prints the text that it offers for a
hint not shown before. -/
theorem after_hint_cases (id : Text) (context : Option Value) (values : Entries Value) :
    s.after (.hint id context values) = s ∨
      ∃ text, id ∉ s.log.shown ∧ s.log.Offers s.hints id context values text ∧
        s.after (.hint id context values) = s.withLog (s.log.showHint id text) := by
  rw [after, act]
  cases h : s.log.hintNamed s.hints id context values with
  | error e => exact .inl rfl
  | ok log =>
    obtain rfl | ⟨text, hnew, hoffers, rfl⟩ := Log.hintNamed_cases h
    · exact .inl rfl
    · exact .inr ⟨text, hnew, hoffers, rfl⟩

/-- A call for a hint prints a text exactly if it offers it for a hint not shown before. -/
theorem after_hint_iff (id : Text) (context : Option Value) (values : Entries Value)
    (text : Text) :
    s.after (.hint id context values) = s.withLog (s.log.showHint id text) ↔
      id ∉ s.log.shown ∧ s.log.Offers s.hints id context values text := by
  constructor
  · intro h
    obtain hsame | ⟨t, hnew, hoffers, hshow⟩ := s.after_hint_cases id context values
    · have hprinted := congrArg (·.log.printed) (hsame.symm.trans h)
      exact absurd hprinted.symm (s.log.ne_showHint id text)
    · have hprinted : s.log.printed ++ [t] = s.log.printed ++ [text] :=
        congrArg (·.log.printed) (hshow.symm.trans h)
      obtain rfl : t = text := by simpa using hprinted
      exact ⟨hnew, hoffers⟩
  · intro ⟨hnew, hoffers⟩
    rw [after, act, Log.hintNamed_of_offers hnew hoffers]
    rfl

/-- **One act.**  The record of shown hints grows by the hint whose text the act prints, which
is one that it does not have. -/
theorem shown_after (a : Act) :
    (s.after a).log.shown = s.log.shown ++ (s.printedHint a).toList ∧
      ∀ id ∈ s.printedHint a, id ∉ s.log.shown := by
  cases a with
  | emit level message channel values =>
    refine ⟨?_, nofun⟩
    obtain h | ⟨text, -, h⟩ := s.after_emit_cases level message channel values
    · rw [h]
      exact (List.append_nil _).symm
    · rw [h]
      exact (List.append_nil _).symm
  | error message =>
    refine ⟨?_, nofun⟩
    rw [after_error]
    split
    · exact (List.append_nil _).symm
    · exact (List.append_nil _).symm
  | hint id context values =>
    obtain h | ⟨text, hnew, -, h⟩ := s.after_hint_cases id context values
    · rw [printedHint, h, if_pos rfl]
      exact ⟨(List.append_nil _).symm, nofun⟩
    · have hprinted : (s.withLog (s.log.showHint id text)).log.printed ≠ s.log.printed :=
        s.log.ne_showHint id text
      rw [printedHint, h, if_neg hprinted]
      refine ⟨rfl, fun other hother => ?_⟩
      cases hother
      exact hnew
  | register hint => exact ⟨(List.append_nil _).symm, nofun⟩
  | registerAll hints => exact ⟨(List.append_nil _).symm, nofun⟩

/-- **Many acts.**  The record of shown hints grows by the hints whose texts the acts print. -/
theorem shown_run_append (acts : List Act) :
    (s.run acts).log.shown = s.log.shown ++ s.printedHints acts := by
  induction acts generalizing s with
  | nil => exact (List.append_nil _).symm
  | cons a acts ih =>
    rw [run_cons, ih, (s.shown_after a).1, printedHints, List.append_assoc]

/-- No hint is recorded twice. -/
theorem nodup_shown_run (acts : List Act) (h : s.log.shown.Nodup) :
    (s.run acts).log.shown.Nodup := by
  induction acts generalizing s with
  | nil => exact h
  | cons a acts ih =>
    refine ih (s.after a) ?_
    obtain ⟨hshown, hnew⟩ := s.shown_after a
    rw [hshown]
    cases ha : s.printedHint a with
    | none => simpa using h
    | some id =>
      have hconcat := h.concat (hnew id ha)
      rwa [List.concat_eq_append] at hconcat

/-- **Hints are shown once, and the record of them is exact.**  After any acts in a session
with a new log, the record is the list of the hints whose texts were printed, and no hint is
in it twice.  A further call prints a text exactly if it offers it for a hint whose text was
not printed yet, and otherwise leaves the session as it was. -/
theorem shown_run (verbosity : Int) (levels : Levels) (hints : Hints) (acts : List Act) :
    let first := start verbosity levels hints
    let s := first.run acts
    s.log.shown = first.printedHints acts ∧ (first.printedHints acts).Nodup ∧
      ∀ id context values,
        (∀ text, s.after (.hint id context values) = s.withLog (s.log.showHint id text) ↔
          id ∉ first.printedHints acts ∧ s.log.Offers s.hints id context values text) ∧
        (s.after (.hint id context values) = s ∨
          ∃ text, s.after (.hint id context values) = s.withLog (s.log.showHint id text)) := by
  intro first s
  have hshown : s.log.shown = first.printedHints acts := first.shown_run_append acts
  refine ⟨hshown, hshown ▸ first.nodup_shown_run acts List.nodup_nil, ?_⟩
  intro id context values
  refine ⟨fun text => ?_, ?_⟩
  · rw [after_hint_iff, hshown]
  · obtain h | ⟨text, -, -, h⟩ := s.after_hint_cases id context values
    · exact .inl h
    · exact .inr ⟨text, h⟩

/-- A hint that needs a higher threshold is held back, shown once it is registered anew for a
lower one, and not shown again after that. -/
example :
    (start 0 [] []).printedHints
        [.register { id := "tip", message := "Tip", contexts := ["result"], minLevel := 1 },
          .hint "tip" none [],
          .register { id := "tip", message := "Tip", contexts := ["result"], minLevel := 0 },
          .hint "tip" none [],
          .register { id := "tip", message := "New", contexts := ["result"], minLevel := 0 },
          .hint "tip" none []] = ["tip"] := by
  decide

end Session
end HelpPages
