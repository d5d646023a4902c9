import HelpPages.Proofs.Log.Tracing

/-! # Runs that make remarks

Most runs tell a console no more than messages of one level on one channel, whose templates can
always be filled in.  What such a run comes to is the same on every console, and what it prints
are its remarks, if the channel is shown, and nothing if it is not (`Run.Remarks`).
-/
namespace HelpPages

/-- The console after texts of one level on one channel. -/
def Console.heard (c : Console) (level : Int) (channel : Text) (texts : List Text) : Console :=
  if c.log.isActive channel level then c.withPrinted (c.log.printed ++ texts) else c

namespace Console

variable {c : Console} {level : Int} {channel : Text} {texts more : List Text}

theorem heard_of_isActive (h : c.log.isActive channel level = true) :
    c.heard level channel texts = c.withPrinted (c.log.printed ++ texts) :=
  if_pos h

theorem heard_of_not_isActive (h : ¬ c.log.isActive channel level = true) :
    c.heard level channel texts = c :=
  if_neg h

theorem heard_nil (c : Console) (level : Int) (channel : Text) : c.heard level channel [] = c := by
  rw [heard, List.append_nil]
  exact ite_self c

theorem heard_heard :
    (c.heard level channel texts).heard level channel more =
      c.heard level channel (texts ++ more) := by
  by_cases h : c.log.isActive channel level = true
  · have hagain : (c.withPrinted (c.log.printed ++ texts)).log.isActive channel level = true := h
    rw [heard_of_isActive h, heard_of_isActive hagain, heard_of_isActive h, ← List.append_assoc]
    rfl
  · rw [heard_of_not_isActive h, heard_of_not_isActive h, heard_of_not_isActive h]

end Console

/-- A log at the wall shows nothing. -/
theorem Log.isMute_wall : ({ verbosity := wall } : Log).IsMute := fun _ _ => rfl

namespace Run

variable {ε α β : Type}

/-- The run comes to an outcome, and all that it tells are texts of one level on one channel. -/
def Remarks (r : Run ε α) (x : Except ε α) (level : Int) (channel : Text) (texts : List Text) :
    Prop :=
  ∀ c, r.perform c = (x, c.heard level channel texts)

theorem remarks_done (x : Except ε α) (level : Int) (channel : Text) :
    (done x).Remarks x level channel [] := fun c => by rw [c.heard_nil]; rfl

/-- A message makes its text the remark. -/
theorem remarks_emit [TemplateFailure ε] (level : Int) (channel : Text) {template text : Text}
    {values : Entries Value} (htext : Log.textOf template values = .ok text) :
    (emit level channel template values : Run ε Unit).Remarks (.ok ()) level channel [text] := by
  intro c
  rw [emit, inform, perform, Console.receive]
  by_cases h : c.log.isActive channel level = true
  · rw [Log.emit_of_isActive h htext, Console.heard_of_isActive h]
    rfl
  · rw [Log.emit_of_not_isActive h, Console.heard_of_not_isActive h]
    rfl

namespace Remarks

variable {r : Run ε α} {x : Except ε α} {level : Int} {channel : Text} {texts : List Text}

theorem bind {a : α} (h : r.Remarks (.ok a) level channel texts) {f : α → Run ε β}
    {y : Except ε β} {more : List Text} (hf : (f a).Remarks y level channel more) :
    (r >>= f).Remarks y level channel (texts ++ more) := fun c => by
  rw [perform_bind_of_ok (h c), hf, Console.heard_heard]

theorem bind_of_error {e : ε} (h : r.Remarks (.error e) level channel texts) (f : α → Run ε β) :
    (r >>= f).Remarks (.error e) level channel texts := fun c => perform_bind_of_error (h c) f

/-- Remarks that are left out where they are not shown are none there. -/
theorem whenShown {r : Run ε Unit} (h : r.Remarks (.ok ()) level channel texts) :
    (r.whenShown level channel).Remarks (.ok ()) level channel texts := by
  intro c
  show (if c.log.isActive channel level then r else _).perform c = _
  split
  · exact h c
  · next hquiet => rw [Console.heard_of_not_isActive hquiet]; rfl

/-- Remarks have no part in the outcome. -/
theorem outcome_eq (h : r.Remarks x level channel texts) : r.outcome = x := by
  have hmute := r.perform_of_isMute (c := { log := { verbosity := Log.wall } }) Log.isMute_wall
  rw [← hmute.1, h]

/-- Remarks are no output. -/
theorem output_eq (h : r.Remarks x level channel texts) : r.output = [] := by
  have hmute := r.perform_of_isMute (c := { log := { verbosity := Log.wall } }) Log.isMute_wall
  rw [h] at hmute
  exact hmute.2.symm

/-- The log has no say in a run that makes remarks. -/
theorem isInert (h : r.Remarks x level channel texts) (hints : Hints) : r.IsInert hints := by
  intro log output
  rw [h, h.outcome_eq, h.output_eq, List.append_nil, Console.heard]
  split
  · exact ⟨log.withPrinted (log.printed ++ texts), rfl⟩
  · exact ⟨log, rfl⟩

/-- Remarks that do not look like lines of the trace have no part in it. -/
theorem hasTrace (h : r.Remarks x level channel texts)
    (remarks : ∀ text ∈ texts, isTraceLine text = false) : r.HasTrace [] := by
  refine ⟨fun c => by rw [h, h.outcome_eq], fun c => ?_⟩
  rw [ite_self, traceOn, printedOn, h, Console.heard]
  split
  · exact List.filter_eq_nil_iff.mpr fun text htext => Bool.eq_false_iff.mp (remarks text htext)
  · rfl

end Remarks
end Run
end HelpPages
