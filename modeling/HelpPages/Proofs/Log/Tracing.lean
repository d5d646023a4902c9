import HelpPages.Proofs.Log.Inert
import HelpPages.Proofs.Log.ShownHints

/-! # Tracing

A log never looks at what it has printed, so a run comes to the same and prints the same on a
console that has printed something else before (`Run.perform_withPrinted`).  A traced call that
has texts for all that the trace shows of it therefore comes to what the plain call comes to and
prints what the plain call prints, with one line before it and one behind it
(`Run.perform_traced_of_le`); where the trace is not shown it is the plain call
(`Run.perform_traced_of_lt`).  What a run of several calls has in the trace is put together from
its parts (`Run.HasTrace`).
-/
namespace HelpPages

/-! ### What a run prints -/

namespace Log

/-- The log with something else printed. -/
def withPrinted (log : Log) (printed : List Text) : Log := { log with printed }

/-- A hint has no text, is held back or is shown, whatever was printed before. -/
theorem hint_cases (hints : Hints) (log : Log) (id context : Text) (values : Entries Value) :
    (∃ e, ∀ printed, (log.withPrinted printed).hint hints id context values = .error e) ∨
      (∀ printed, (log.withPrinted printed).hint hints id context values =
        .ok (log.withPrinted printed)) ∨
      ∃ text, ∀ printed, (log.withPrinted printed).hint hints id context values =
        .ok ((log.withPrinted printed).showHint id text) := by
  simp only [hint]
  cases hints.get? id with
  | none => exact .inr (.inl fun printed => rfl)
  | some hint =>
    by_cases h : id ∉ log.shown ∧ context ∈ hint.contexts ∧
        log.isActive "hint" hint.minLevel = true
    · cases htext : textOf hint.message values with
      | error e => exact .inl ⟨e, fun printed => (if_pos h).trans (by rw [htext]; rfl)⟩
      | ok text => exact .inr (.inr ⟨text, fun printed => (if_pos h).trans (by rw [htext]; rfl)⟩)
    · exact .inr (.inl fun printed => if_neg h)

/-- A message is held back, has no text or is printed, whatever was printed before. -/
theorem emit_cases (log : Log) (level : Int) (channel template : Text) (values : Entries Value) :
    (∃ e, ∀ printed, (log.withPrinted printed).emit level channel template values = .error e) ∨
      (∀ printed, (log.withPrinted printed).emit level channel template values =
        .ok (log.withPrinted printed)) ∨
      ∃ text, ∀ printed, (log.withPrinted printed).emit level channel template values =
        .ok ((log.withPrinted printed).print text) := by
  by_cases h : log.isActive channel level = true
  · cases htext : textOf template values with
    | error e => exact .inl ⟨e, fun printed => (if_pos h).trans (by rw [htext]; rfl)⟩
    | ok text => exact .inr (.inr ⟨text, fun printed => (if_pos h).trans (by rw [htext]; rfl)⟩)
  · exact .inr (.inl fun printed => if_neg h)

/-- A message whose template is filled in is printed if its channel is shown. -/
theorem emit_of_isActive {log : Log} {level : Int} {channel template text : Text}
    {values : Entries Value} (heard : log.isActive channel level = true)
    (h : textOf template values = .ok text) :
    log.emit level channel template values = .ok (log.print text) := by
  rw [emit, if_pos heard, h]
  rfl

theorem emit_of_not_isActive {log : Log} {level : Int} {channel : Text}
    (h : ¬ log.isActive channel level = true) (template : Text) (values : Entries Value) :
    log.emit level channel template values = .ok log :=
  if_neg h

end Log

namespace Console

/-- The console with something else printed in its log. -/
def withPrinted (c : Console) (printed : List Text) : Console :=
  { c with log := c.log.withPrinted printed }

/-- The console shows the same channels and has the same hints as another one. -/
structure HearsLike (after c : Console) : Prop where
  levels : after.log.levels = c.log.levels
  verbosity : after.log.verbosity = c.log.verbosity
  hints : after.hints = c.hints

theorem HearsLike.refl (c : Console) : c.HearsLike c := ⟨rfl, rfl, rfl⟩

theorem HearsLike.trans {c d e : Console} (h : c.HearsLike d) (h' : d.HearsLike e) :
    c.HearsLike e :=
  ⟨h.levels.trans h'.levels, h.verbosity.trans h'.verbosity, h.hints.trans h'.hints⟩

theorem HearsLike.threshold_eq {after c : Console} (h : after.HearsLike c) (channel : Text) :
    after.log.threshold channel = c.log.threshold channel := by
  rw [Log.threshold, Log.threshold, h.levels, h.verbosity]

/-- **One event.**  It is refused, or it adds texts to what the console has printed and changes
neither its levels nor its hints, whatever was printed before. -/
theorem receive_cases (c : Console) (event : Event) :
    (∃ e, ∀ printed, (c.withPrinted printed).receive event = .error e) ∨
      ∃ texts after, HearsLike after c ∧ ∀ printed,
        (c.withPrinted printed).receive event = .ok (after.withPrinted (printed ++ texts)) := by
  -- a log that is left as it was, or has one more text printed
  have held : ∃ texts after, HearsLike after c ∧ ∀ printed,
      Except.ok (ε := Template.Error) (c.withPrinted printed) =
        .ok (after.withPrinted (printed ++ texts)) :=
    ⟨[], c, .refl c, fun printed => by rw [List.append_nil]⟩
  have shown : ∀ text, ∃ texts after, HearsLike after c ∧ ∀ printed,
      Except.ok (ε := Template.Error)
        { c.withPrinted printed with log := (c.log.withPrinted printed).print text } =
        .ok (after.withPrinted (printed ++ texts)) :=
    fun text => ⟨[text], c, .refl c, fun printed => rfl⟩
  cases event with
  | output text =>
    exact .inr ⟨[], { c with output := c.output ++ text }, ⟨rfl, rfl, rfl⟩, fun printed => by
      rw [List.append_nil]
      rfl⟩
  | message level channel template values =>
    simp only [receive]
    obtain ⟨e, h⟩ | h | ⟨text, h⟩ := c.log.emit_cases level channel template values
    · exact .inl ⟨e, fun printed => congrArg (· >>= _) (h printed)⟩
    · obtain ⟨texts, after, hafter, heq⟩ := held
      exact .inr ⟨texts, after, hafter, fun printed =>
        (congrArg (· >>= _) (h printed)).trans (heq printed)⟩
    · obtain ⟨texts, after, hafter, heq⟩ := shown text
      exact .inr ⟨texts, after, hafter, fun printed =>
        (congrArg (· >>= _) (h printed)).trans (heq printed)⟩
  | hint id context values =>
    simp only [receive]
    obtain ⟨e, h⟩ | h | ⟨text, h⟩ := c.log.hint_cases c.hints id context values
    · exact .inl ⟨e, fun printed => congrArg (· >>= _) (h printed)⟩
    · obtain ⟨texts, after, hafter, heq⟩ := held
      exact .inr ⟨texts, after, hafter, fun printed =>
        (congrArg (· >>= _) (h printed)).trans (heq printed)⟩
    · exact .inr ⟨[text], { c with log := { c.log with shown := c.log.shown ++ [id] } },
        ⟨rfl, rfl, rfl⟩, fun printed => congrArg (· >>= _) (h printed)⟩
  | complaint text => exact .inr (shown text)

end Console

namespace Run

variable {ε α β : Type}

/-- **Many events.**  A run comes to the same on a console that has printed something else
before, and adds the same to it. -/
theorem exists_perform (r : Run ε α) (c : Console) :
    ∃ outcome texts after, Console.HearsLike after c ∧ ∀ printed,
      r.perform (c.withPrinted printed) = (outcome, after.withPrinted (printed ++ texts)) := by
  induction r generalizing c with
  | done outcome => exact ⟨outcome, [], c, .refl c, fun printed => by rw [List.append_nil]; rfl⟩
  | tell event next ih =>
    obtain ⟨e, hrefused⟩ | ⟨texts, middle, hmiddle, htaken⟩ := c.receive_cases event
    · obtain ⟨outcome, texts, after, hafter, h⟩ := ih (.error e) c
      refine ⟨outcome, texts, after, hafter, fun printed => ?_⟩
      rw [perform, hrefused]
      exact h printed
    · obtain ⟨outcome, more, after, hafter, h⟩ := ih (.ok ()) middle
      refine ⟨outcome, texts ++ more, after, hafter.trans hmiddle, fun printed => ?_⟩
      rw [perform, htaken, ← List.append_assoc]
      exact h _
  | ask level channel next ih =>
    exact ih (c.log.isActive channel level) c

/-- What a run prints on a console. -/
def printedOn (r : Run ε α) (c : Console) : List Text :=
  (r.perform (c.withPrinted [])).2.log.printed

/-- What was printed before has no say in a run, and what the run prints stands behind it. -/
theorem perform_withPrinted (r : Run ε α) (c : Console) (printed : List Text) :
    r.perform (c.withPrinted printed) =
      ((r.perform c).1, (r.perform c).2.withPrinted (printed ++ r.printedOn c)) := by
  obtain ⟨outcome, texts, after, -, h⟩ := r.exists_perform c
  have htexts : r.printedOn c = texts := by rw [printedOn, h]; rfl
  have hplain : r.perform c = (outcome, after.withPrinted (c.log.printed ++ texts)) :=
    h c.log.printed
  rw [h, hplain, htexts]
  rfl

/-- What was printed is kept, and what the run prints stands behind it. -/
theorem printed_perform (r : Run ε α) (c : Console) :
    (r.perform c).2.log.printed = c.log.printed ++ r.printedOn c :=
  congrArg (fun done => done.2.log.printed) (r.perform_withPrinted c c.log.printed)

/-- A run changes no level and no hint of a console. -/
theorem hearsLike_perform (r : Run ε α) (c : Console) : (r.perform c).2.HearsLike c := by
  obtain ⟨outcome, texts, after, hafter, h⟩ := r.exists_perform c
  have hplain : r.perform c = (outcome, after.withPrinted (c.log.printed ++ texts)) :=
    h c.log.printed
  rw [hplain]
  exact ⟨hafter.levels, hafter.verbosity, hafter.hints⟩

theorem printedOn_bind_of_ok {r : Run ε α} {c : Console} {a : α} (h : (r.perform c).1 = .ok a)
    (f : α → Run ε β) :
    (r >>= f).printedOn c = r.printedOn c ++ (f a).printedOn (r.perform c).2 := by
  have hfirst : r.perform (c.withPrinted []) =
      (.ok a, (r.perform c).2.withPrinted (r.printedOn c)) := by
    rw [perform_withPrinted, h, List.nil_append]
  rw [printedOn, perform_bind_of_ok hfirst, printed_perform]
  rfl

theorem printedOn_bind_of_error {r : Run ε α} {c : Console} {e : ε}
    (h : (r.perform c).1 = .error e) (f : α → Run ε β) : (r >>= f).printedOn c = r.printedOn c := by
  have hfirst : r.perform (c.withPrinted []) =
      (.error e, (r.perform c).2.withPrinted (r.printedOn c)) := by
    rw [perform_withPrinted, h, List.nil_append]
  rw [printedOn, perform_bind_of_error hfirst]
  rfl

end Run

/-! ### Traced calls -/

namespace Run

variable {ε α : Type}

namespace Call

/-- The line of the trace before a call. -/
def opening (call : Call ε) (arguments : List Text) : Text :=
  "[TRACE] >> " ++ call.function ++ "(" ++ Text.joinWith ", " arguments ++ ")"

/-- The line of the trace behind a call with a result. -/
def returned (call : Call ε) (literal : Text) : Text :=
  "[TRACE] << " ++ call.function ++ " returned: " ++ shorten literal

/-- The line of the trace behind a call that failed. -/
def raised (call : Call ε) (kind text : Text) : Text :=
  "[TRACE] !! " ++ call.function ++ " raised: " ++ kind ++ ": " ++ text

/-- The trace has a line behind a call: its result has a literal, or its error is described in a
text. -/
inductive Closes (call : Call ε) (literal : α → Except ε Text)
    (describe : ε → Option (Text × Except ε Text)) : Except ε α → Text → Prop
  | returned {a : α} {t : Text} (shows : literal a = .ok t) :
      Closes call literal describe (.ok a) (call.returned t)
  | raised {e : ε} {kind t : Text} (shows : describe e = some (kind, .ok t)) :
      Closes call literal describe (.error e) (call.raised kind t)

theorem textOf_opening (call : Call ε) (arguments : List Text) :
    Log.textOf openingTemplate
        [("fn", .text call.function), ("args", .text (Text.joinWith ", " arguments))] =
      .ok (call.opening arguments) := by
  have hcut : Template.pieces openingTemplate =
      ("[TRACE] >> " : Text).map .char ++ .field ⟨"fn", none, []⟩ ::
        ("(" : Text).map .char ++ .field ⟨"args", none, []⟩ ::
        (")" : Text).map .char := by
    rw [openingTemplate]
    repeat rw [Text.ofString_ofList]
    decide
  have hnames : ("fn" : Text) ≠ "args" := by decide
  rw [Log.textOf_of_pieces ["fn", "args"] hcut (by decide) rfl (List.cons_ne_nil _ _)
    (by simp [Value.isWritable])]
  simp [List.flatMap_map, Template.Piece.shown, Template.Field.shown, Entries.get?, hnames, opening]

theorem textOf_returned (call : Call ε) (t : Text) :
    Log.textOf returnedTemplate [("fn", .text call.function), ("val", .text (shorten t))] =
      .ok (call.returned t) := by
  have hcut : Template.pieces returnedTemplate =
      ("[TRACE] << " : Text).map .char ++ .field ⟨"fn", none, []⟩ ::
        (" returned: " : Text).map .char ++ [.field ⟨"val", none, []⟩] := by
    rw [returnedTemplate]
    repeat rw [Text.ofString_ofList]
    decide
  have hnames : ("fn" : Text) ≠ "val" := by decide
  rw [Log.textOf_of_pieces ["fn", "val"] hcut (by decide) rfl (List.cons_ne_nil _ _)
    (by simp [Value.isWritable])]
  simp [List.flatMap_map, Template.Piece.shown, Template.Field.shown, Entries.get?, hnames,
    returned]

theorem textOf_raised (call : Call ε) (kind t : Text) :
    Log.textOf raisedTemplate
        [("fn", .text call.function), ("exc", .text kind), ("msg", .text t)] =
      .ok (call.raised kind t) := by
  have hcut : Template.pieces raisedTemplate =
      ("[TRACE] !! " : Text).map .char ++ .field ⟨"fn", none, []⟩ ::
        (" raised: " : Text).map .char ++ .field ⟨"exc", none, []⟩ ::
        (": " : Text).map .char ++ [.field ⟨"msg", none, []⟩] := by
    rw [raisedTemplate]
    repeat rw [Text.ofString_ofList]
    decide
  have hnames : ("fn" : Text) ≠ "exc" ∧ ("fn" : Text) ≠ "msg" ∧ ("exc" : Text) ≠ "msg" := by
    decide
  rw [Log.textOf_of_pieces ["fn", "exc", "msg"] hcut (by decide) rfl (List.cons_ne_nil _ _)
    (by simp [Value.isWritable])]
  simp [List.flatMap_map, Template.Piece.shown, Template.Field.shown, Entries.get?, hnames, raised]

end Call

variable {c : Console}

/-- The trace is shown from the threshold of its messages on. -/
theorem isActive_trace_iff {log : Log} :
    log.isActive "trace" 3 = true ↔ 3 ≤ log.threshold "trace" := by
  rw [Log.isActive_iff, Log.wall]
  omega

variable [TemplateFailure ε] (call : Call ε)

/-- A console that shows the trace prints a message of it. -/
theorem perform_tell_of_le (h : 3 ≤ c.log.threshold "trace") {template text : Text}
    {values : Entries Value}
    (htext : Log.textOf template (("fn", .text call.function) :: values) = .ok text) :
    (call.tell template values).perform c =
      (.ok (), c.withPrinted (c.log.printed ++ [text])) := by
  rw [Call.tell, emit, inform, perform, Console.receive,
    Log.emit_of_isActive (isActive_trace_iff.mpr h) htext]
  rfl

variable (literal : α → Except ε Text) (describe : ε → Option (Text × Except ε Text))
  (r : Run ε α)

/-- **A trace that is not shown** is not made: the call is the plain one. -/
theorem perform_traced_of_lt (h : c.log.threshold "trace" < 3) :
    (r.traced call literal describe).perform c = r.perform c := by
  have hinactive : c.log.isActive "trace" 3 = false :=
    Bool.eq_false_iff.mpr (mt isActive_trace_iff.mp (Int.not_le.mpr h))
  rw [traced, perform, hinactive]
  rfl

/-- A call whose arguments have no text is not made where the trace is shown. -/
theorem perform_traced_of_arguments (h : 3 ≤ c.log.threshold "trace") {e : ε}
    (failed : call.arguments.mapM Argument.text = .error e) :
    (r.traced call literal describe).perform c = (.error e, c) := by
  rw [traced, perform, isActive_trace_iff.mpr h]
  simp only [failed, if_true]
  rfl

/-- The plain call is made behind its first line, and the rest of the trace behind it. -/
theorem perform_traced_of_le (h : 3 ≤ c.log.threshold "trace") {arguments : List Text}
    (texts : call.arguments.mapM Argument.text = .ok arguments) {line : Text}
    (closes : call.Closes literal describe (r.perform c).1 line) :
    (r.traced call literal describe).perform c =
      ((r.perform c).1, (r.perform c).2.withPrinted
        (c.log.printed ++ [call.opening arguments] ++ r.printedOn c ++ [line])) := by
  have hafter (printed : List Text) :
      3 ≤ ((r.perform c).2.withPrinted printed).log.threshold "trace" := by
    show 3 ≤ (r.perform c).2.log.threshold "trace"
    rwa [(r.hearsLike_perform c).threshold_eq]
  rw [traced, perform, isActive_trace_iff.mpr h, texts]
  show (call.tell Call.openingTemplate _ >>= _ : Run ε α).perform c = _
  rw [perform_bind_of_ok (perform_tell_of_le call h (call.textOf_opening arguments)),
    perform_attempt, perform_withPrinted]
  -- the levels behind the call are those before it, so its last line is shown as well
  generalize hdone : r.perform c = done at closes hafter ⊢
  obtain ⟨outcome, after⟩ := done
  cases closes with
  | returned shows =>
    dsimp only
    rw [shows]
    show (call.tell Call.returnedTemplate _ >>= _ : Run ε α).perform _ = _
    rw [perform_bind_of_ok (perform_tell_of_le call (hafter _) (call.textOf_returned _))]
    rfl
  | raised shows =>
    dsimp only
    rw [shows]
    show (call.tell Call.raisedTemplate _ >>= _ : Run ε α).perform _ = _
    rw [perform_bind_of_ok (perform_tell_of_le call (hafter _) (call.textOf_raised _ _))]
    rfl

theorem printedOn_traced_of_lt (h : c.log.threshold "trace" < 3) :
    (r.traced call literal describe).printedOn c = r.printedOn c :=
  congrArg (fun done => done.2.log.printed)
    (perform_traced_of_lt (c := c.withPrinted []) call literal describe r h)

/-- **A trace that is shown** puts a line before and a line behind what a call prints. -/
theorem printedOn_traced_of_le (h : 3 ≤ c.log.threshold "trace") {arguments : List Text}
    (texts : call.arguments.mapM Argument.text = .ok arguments) {line : Text}
    (closes : call.Closes literal describe (r.perform c).1 line) :
    (r.traced call literal describe).printedOn c =
      call.opening arguments :: r.printedOn c ++ [line] := by
  have hcloses : call.Closes literal describe (r.perform (c.withPrinted [])).1 line := by
    rwa [perform_withPrinted]
  exact congrArg (fun done => done.2.log.printed)
    (perform_traced_of_le (c := c.withPrinted []) call literal describe r h texts hcloses)

/-- The log has no say in a traced call if it has none in the plain one and the trace has texts
for all that it shows of it. -/
theorem IsInert.traced {hints : Hints} {r : Run ε α} (hr : r.IsInert hints)
    {arguments : List Text} (texts : call.arguments.mapM Argument.text = .ok arguments)
    {line : Text} (closes : call.Closes literal describe r.outcome line) :
    (r.traced call literal describe).IsInert hints := by
  intro log output
  obtain ⟨after, h⟩ := hr log output
  rcases Int.lt_or_le (log.threshold "trace") 3 with hlog | hlog
  · exact ⟨after, (perform_traced_of_lt call literal describe r hlog).trans h⟩
  · have hcloses : call.Closes literal describe (r.perform { log, hints, output }).1 line := by
      rwa [h]
    have htraced := perform_traced_of_le call literal describe r hlog texts hcloses
    rw [h] at htraced
    exact ⟨_, htraced⟩

/-! ### Lines of the trace -/

end Run

/-- The text is a line of the trace. -/
def isTraceLine (t : Text) : Bool := ("[TRACE] " : Text).isPrefixOf t

namespace Run

variable {ε α β : Type}

theorem isTraceLine_opening (call : Call ε) (arguments : List Text) :
    isTraceLine (call.opening arguments) = true := rfl

theorem Call.Closes.isTraceLine {call : Call ε} {literal : α → Except ε Text}
    {describe : ε → Option (Text × Except ε Text)} {x : Except ε α} {line : Text}
    (h : call.Closes literal describe x line) : isTraceLine line = true := by
  cases h <;> rfl

/-- The lines of the trace among what a run prints on a console. -/
def traceOn (r : Run ε α) (c : Console) : List Text := (r.printedOn c).filter isTraceLine

/-- The run has lines in the trace: wherever the trace is shown it has these, and elsewhere none,
and it comes to its outcome. -/
structure HasTrace (r : Run ε α) (lines : List Text) : Prop where
  outcome : ∀ c, (r.perform c).1 = r.outcome
  trace : ∀ c, r.traceOn c = if 3 ≤ c.log.threshold "trace" then lines else []

theorem hasTrace_done (x : Except ε α) : (done x).HasTrace [] :=
  ⟨fun _ => rfl, fun _ => (ite_self _).symm⟩

namespace HasTrace

variable {r : Run ε α} {f : α → Run ε β} {lines more : List Text}

theorem bind_of_ok (h : r.HasTrace lines) {a : α} (ok : r.outcome = .ok a)
    (hf : (f a).HasTrace more) : (r >>= f).HasTrace (lines ++ more) where
  outcome c := by
    have hfirst : r.perform c = (.ok a, (r.perform c).2) := by rw [← ok, ← h.outcome c]
    rw [perform_bind_of_ok hfirst, hf.outcome, outcome_bind, ok]
    rfl
  trace c := by
    have hfirst := (h.outcome c).trans ok
    rw [traceOn, printedOn_bind_of_ok hfirst, List.filter_append, ← traceOn, ← traceOn, h.trace,
      hf.trace, (r.hearsLike_perform c).threshold_eq]
    split <;> rfl

theorem bind_of_error (h : r.HasTrace lines) {e : ε} (failed : r.outcome = .error e) :
    (r >>= f).HasTrace lines where
  outcome c := by
    have hfirst : r.perform c = (.error e, (r.perform c).2) := by rw [← failed, ← h.outcome c]
    rw [perform_bind_of_error hfirst, outcome_bind, failed]
    rfl
  trace c := by
    rw [traceOn, printedOn_bind_of_error ((h.outcome c).trans failed), ← traceOn, h.trace]

/-- A run that goes on without lines in the trace has those of its first part. -/
theorem bind (h : r.HasTrace lines) (hf : ∀ a, r.outcome = .ok a → (f a).HasTrace []) :
    (r >>= f).HasTrace lines := by
  cases ha : r.outcome with
  | ok a =>
    rw [← List.append_nil lines]
    exact h.bind_of_ok ha (hf a ha)
  | error e => exact h.bind_of_error ha

variable [TemplateFailure ε]

/-- A traced call has two lines in the trace, if the trace has texts for all that it shows of
it. -/
theorem traced (h : r.HasTrace []) (call : Call ε) (literal : α → Except ε Text)
    (describe : ε → Option (Text × Except ε Text)) {arguments : List Text}
    (texts : call.arguments.mapM Argument.text = .ok arguments) {line : Text}
    (closes : call.Closes literal describe r.outcome line) :
    (r.traced call literal describe).HasTrace [call.opening arguments, line] := by
  have hcloses (c : Console) : call.Closes literal describe (r.perform c).1 line := by
    rwa [h.outcome]
  refine ⟨fun c => ?_, fun c => ?_⟩
  · rcases Int.lt_or_le (c.log.threshold "trace") 3 with hlog | hlog
    · rw [perform_traced_of_lt call literal describe r hlog]
      exact h.outcome c
    · rw [perform_traced_of_le call literal describe r hlog texts (hcloses c)]
      exact h.outcome c
  · rw [traceOn]
    rcases Int.lt_or_le (c.log.threshold "trace") 3 with hlog | hlog
    · rw [printedOn_traced_of_lt call literal describe r hlog, if_neg (Int.not_le.mpr hlog)]
      exact (h.trace c).trans (ite_self _)
    · rw [printedOn_traced_of_le call literal describe r hlog texts (hcloses c), if_pos hlog,
        List.filter_append, List.filter_cons_of_pos (isTraceLine_opening call arguments), ← traceOn,
        h.trace, ite_self, List.filter_cons_of_pos (hcloses c).isTraceLine]
      rfl

end HasTrace
end Run
end HelpPages
