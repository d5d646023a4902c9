import HelpPages.Proofs.Log.ShownHints

/-! # More verbosity hides nothing

The same calls are made in two sessions, and the log of the one shows less than that of the
other.  Whatever the first prints is then printed by the second as well, in the same order
(`Session.printed_sublist_of_le`).  For a message this is monotony of the thresholds.  A hint
is shown once, and the second session may have shown it when the first one held it back, so
that the records of the two differ; but a hint that the first one would ever show is never
held back for its level there, and on such hints the records agree
(`Session.IsQuieter.shown`).
-/
namespace HelpPages

/-- A value that does not exceed a number does not exceed a greater one. -/
theorem Value.exceeds?_eq_false_of_le {m n : Int} (h : m ≤ n) {v : Value}
    (hv : v.exceeds? m = some false) : v.exceeds? n = some false := by
  have not_lt {a b c : Int} (hab : a ≤ b) (hc : some (decide (a < c)) = some false) :
      some (decide (b < c)) = some false := by
    have hca := Int.not_lt.mp (decide_eq_false_iff_not.mp (Option.some.inj hc))
    exact congrArg some (decide_eq_false (Int.not_lt.mpr (Int.le_trans hca hab)))
  cases v with
  | bool b => exact not_lt h hv
  | int i => exact not_lt h hv
  | float f =>
    cases f with
    | finite negative mantissa exponent =>
      exact not_lt (Int.mul_le_mul_of_nonneg_right h (Int.natCast_nonneg _)) hv
    | infinite negative => exact hv
    | notANumber => rfl
  | null | text _ | list _ | map _ => cases hv

namespace Log

variable {quiet loud : Log}

/-- The one log shows at most what the other one shows: the channels with levels of their own
are the same, and for the rest the other one is at least as verbose. -/
structure IsQuieter (quiet loud : Log) : Prop where
  levels : quiet.levels = loud.levels
  verbosity : quiet.verbosity ≤ loud.verbosity

namespace IsQuieter

theorem threshold_le (h : quiet.IsQuieter loud) (channel : Text) :
    quiet.threshold channel ≤ loud.threshold channel := by
  rw [threshold, threshold, h.levels]
  cases loud.levels.get? channel with
  | none => exact h.verbosity
  | some level => exact Int.le_refl level

theorem isActive (h : quiet.IsQuieter loud) {channel : Text} {level : Int}
    (hactive : quiet.isActive channel level = true) : loud.isActive channel level = true := by
  obtain ⟨hwall, hlevel⟩ := isActive_iff.mp hactive
  have hle := h.threshold_le channel
  exact isActive_iff.mpr ⟨Int.lt_of_lt_of_le hwall hle, Int.le_trans hlevel hle⟩

/-- What stands for a channel in one log does so in the other, where its threshold is not
less. -/
theorem exists_thresholdOf (h : quiet.IsQuieter loud) {channel : Value} {threshold : Int}
    (hquiet : quiet.thresholdOf channel = .ok threshold) :
    ∃ other, loud.thresholdOf channel = .ok other ∧ threshold ≤ other := by
  cases channel with
  | text name =>
    obtain rfl := Except.ok.inj hquiet
    exact ⟨_, rfl, h.threshold_le name⟩
  | null | bool _ | int _ | float _ =>
    obtain rfl := Except.ok.inj hquiet
    exact ⟨_, rfl, h.verbosity⟩
  | list _ | map _ => cases hquiet

/-- A message has the text to print that it has in the quieter log. -/
theorem emits (h : quiet.IsQuieter loud) {level : Value} {message : Text}
    {channel : Option Value} {values : Entries Value} {text : Text}
    (hquiet : quiet.Emits level message channel values text) :
    loud.Emits level message channel values text := by
  obtain ⟨hnames, place, rest, threshold, hgiven, hthreshold, hwall, hlevel, htext⟩ := hquiet
  obtain ⟨other, hother, hle⟩ := h.exists_thresholdOf hthreshold
  exact ⟨hnames, place, rest, other, hgiven, hother, Int.lt_of_lt_of_le hwall hle,
    Value.exceeds?_eq_false_of_le hle hlevel, htext⟩

end IsQuieter

namespace Offers

variable {log : Log} {hints : Hints} {id : Text} {context : Option Value}
  {values : Entries Value} {text : Text}

/-- A hint that is offered is registered, and its level passes. -/
theorem isActive (h : log.Offers hints id context values text) :
    ∃ hint, hints.get? id = some hint ∧ log.isActive "hint" hint.minLevel = true := by
  obtain ⟨-, hint, -, -, -, known, -, hactive, -⟩ := h
  exact ⟨hint, known, isActive_iff.mpr hactive⟩

/-- A text that is offered in one log is offered in every log where the level of the hint
passes. -/
theorem of_isActive (h : log.Offers hints id context values text) {other : Log} {hint : Hint}
    (known : hints.get? id = some hint)
    (hactive : other.isActive "hint" hint.minLevel = true) :
    other.Offers hints id context values text := by
  obtain ⟨hnames, hint', occasion, rest, hgiven, hhint, hcontext, -, htext⟩ := h
  obtain rfl : hint' = hint := Option.some.inj (hhint.symm.trans known)
  exact ⟨hnames, hint', occasion, rest, hgiven, hhint, hcontext, isActive_iff.mp hactive, htext⟩

end Offers
end Log

namespace Session

/-- An act is a call: a message, an error or a hint, and no registration. -/
def Act.isCall : Act → Bool
  | .emit .. | .error _ | .hint .. => true
  | .register _ | .registerAll _ => false

/-- The one session shows at most what the other one shows.  They have the same hints, what
the first one printed was printed in the second one too, and both have shown the same of the
hints whose levels pass in the first one. -/
structure IsQuieter (quiet loud : Session) : Prop where
  hints : quiet.hints = loud.hints
  log : quiet.log.IsQuieter loud.log
  shown : ∀ id hint, loud.hints.get? id = some hint →
    quiet.log.isActive "hint" hint.minLevel = true →
      (id ∈ quiet.log.shown ↔ id ∈ loud.log.shown)
  printed : quiet.log.printed.Sublist loud.log.printed

namespace IsQuieter

variable {quiet loud : Session} (h : quiet.IsQuieter loud)
include h

/-- A text that both print. -/
theorem print (text : Text) :
    (quiet.withLog (quiet.log.print text)).IsQuieter (loud.withLog (loud.log.print text)) where
  hints := h.hints
  log := ⟨h.log.levels, h.log.verbosity⟩
  shown := h.shown
  printed := h.printed.append (.refl [text])

/-- A text that only the louder one prints. -/
theorem print_loud (text : Text) : quiet.IsQuieter (loud.withLog (loud.log.print text)) where
  hints := h.hints
  log := ⟨h.log.levels, h.log.verbosity⟩
  shown := h.shown
  printed := h.printed.trans (List.sublist_append_left _ _)

/-- A hint that both show. -/
theorem showHint (id text : Text) :
    (quiet.withLog (quiet.log.showHint id text)).IsQuieter
      (loud.withLog (loud.log.showHint id text)) where
  hints := h.hints
  log := ⟨h.log.levels, h.log.verbosity⟩
  shown other hint known hactive := by
    show other ∈ quiet.log.shown ++ [id] ↔ other ∈ loud.log.shown ++ [id]
    rw [List.mem_append, List.mem_append, h.shown other hint known hactive]
  printed := h.printed.append (.refl [text])

/-- A hint that only the louder one shows, since its level passes only there. -/
theorem showHint_loud {id : Text} {hint : Hint} (text : Text)
    (known : loud.hints.get? id = some hint)
    (hinactive : ¬ quiet.log.isActive "hint" hint.minLevel = true) :
    quiet.IsQuieter (loud.withLog (loud.log.showHint id text)) where
  hints := h.hints
  log := ⟨h.log.levels, h.log.verbosity⟩
  shown other hint' known' hactive := by
    have hne : other ≠ id := by
      rintro rfl
      obtain rfl : hint' = hint := Option.some.inj (known'.symm.trans known)
      exact hinactive hactive
    show other ∈ quiet.log.shown ↔ other ∈ loud.log.shown ++ [id]
    rw [h.shown other hint' known' hactive, List.mem_append, List.mem_singleton, or_iff_left hne]
  printed := h.printed.trans (List.sublist_append_left _ _)

theorem after_emit (level : Value) (message : Text) (channel : Option Value)
    (values : Entries Value) :
    (quiet.after (.emit level message channel values)).IsQuieter
      (loud.after (.emit level message channel values)) := by
  obtain hquiet | ⟨text, hemits, hquiet⟩ := quiet.after_emit_cases level message channel values
  · obtain hloud | ⟨text, -, hloud⟩ := loud.after_emit_cases level message channel values
    · rw [hquiet, hloud]
      exact h
    · rw [hquiet, hloud]
      exact h.print_loud text
  · rw [hquiet, loud.after_emit_of_emits (h.log.emits hemits)]
    exact h.print text

theorem after_error (message : Text) :
    (quiet.after (.error message)).IsQuieter (loud.after (.error message)) := by
  rw [Session.after_error, Session.after_error]
  split
  next hactive =>
    rw [if_pos (h.log.isActive hactive)]
    exact h.print message
  · split
    · exact h.print_loud message
    · exact h

/-- A hint that the quieter session shows is new in the other one too, and one that only the
other one shows is held back for its level. -/
theorem after_hint (id : Text) (context : Option Value) (values : Entries Value) :
    (quiet.after (.hint id context values)).IsQuieter
      (loud.after (.hint id context values)) := by
  obtain hquiet | ⟨text, hnew, hoffers, hquiet⟩ := quiet.after_hint_cases id context values
  · rw [hquiet]
    obtain hloud | ⟨text, hnew, hoffers, hloud⟩ := loud.after_hint_cases id context values
    · rw [hloud]
      exact h
    · rw [hloud]
      obtain ⟨hint, known, -⟩ := hoffers.isActive
      refine h.showHint_loud text known fun hactive => ?_
      have hshow := (quiet.after_hint_iff id context values text).mpr
        ⟨mt (h.shown id hint known hactive).mp hnew,
          h.hints ▸ hoffers.of_isActive known hactive⟩
      exact quiet.log.ne_showHint id text (congrArg (·.log.printed) (hshow.symm.trans hquiet))
  · rw [h.hints] at hoffers
    obtain ⟨hint, known, hactive⟩ := hoffers.isActive
    have hshow := (loud.after_hint_iff id context values text).mpr
      ⟨mt (h.shown id hint known hactive).mpr hnew,
        hoffers.of_isActive known (h.log.isActive hactive)⟩
    rw [hquiet, hshow]
    exact h.showHint id text

/-- **One call.**  What shows less before a call shows less after it. -/
theorem after {a : Act} (call : a.isCall = true) : (quiet.after a).IsQuieter (loud.after a) := by
  cases a with
  | emit level message channel values => exact h.after_emit level message channel values
  | error message => exact h.after_error message
  | hint id context values => exact h.after_hint id context values
  | register | registerAll => cases call

/-- **Many calls.**  What shows less before any calls shows less after them. -/
theorem run {acts : List Act} (calls : ∀ a ∈ acts, a.isCall = true) :
    (quiet.run acts).IsQuieter (loud.run acts) := by
  induction acts generalizing quiet loud with
  | nil => exact h
  | cons a acts ih =>
    obtain ⟨call, calls⟩ := List.forall_mem_cons.mp calls
    exact ih (h.after call) calls

end IsQuieter

/-- New sessions for two verbosities. -/
theorem isQuieter_start {quiet loud : Int} (h : quiet ≤ loud) (levels : Levels) (hints : Hints) :
    (start quiet levels hints).IsQuieter (start loud levels hints) where
  hints := rfl
  log := ⟨rfl, h⟩
  shown _ _ _ _ := Iff.rfl
  printed := .refl []

/-- **More verbosity hides nothing.**  The same messages, errors and hints in two sessions with
new logs that differ only in their verbosity: what the less verbose log prints is printed in
the same order by the other one, with something more between perhaps. -/
theorem printed_sublist_of_le {quiet loud : Int} (h : quiet ≤ loud) (levels : Levels)
    (hints : Hints) {acts : List Act} (calls : ∀ a ∈ acts, a.isCall = true) :
    ((start quiet levels hints).run acts).log.printed.Sublist
      ((start loud levels hints).run acts).log.printed :=
  ((isQuieter_start h levels hints).run calls).printed

/-- Calls on a channel with a level of its own and on one behind the wall, for hints of two
levels, and one with a template that cannot be filled in. -/
def mixedCalls : List Act :=
  [.emit (.int 0) "Start" none [],
    .hint "more" none [],
    .hint "tip" none [("name", .int 1)],
    .emit (.int 1) "Note" none [],
    .emit (.int 3) "Line" (some (.text "parse")) [],
    .emit (.int (-3)) "Step" (some (.text "trace")) [],
    .hint "tip" none [("n", .int 2)],
    .hint "tip" none [("n", .int 3)],
    .hint "more" none [],
    .error "Bad"]

/-- The more verbose log shows a hint and a note more, and each hint once. -/
theorem printed_sublist_of_le_mixedCalls :
    let levels : Levels := [("parse", 3), ("trace", -4)]
    let hints : Hints :=
      [("tip", { id := "tip", message := "Tip \x7bn\x7d", contexts := ["result"], minLevel := 0 }),
        ("more", { id := "more", message := "More", contexts := ["result"] })]
    let quiet := (start 0 levels hints).run mixedCalls
    let loud := (start 1 levels hints).run mixedCalls
    quiet.log.printed = ["Start", "Line", "Tip 2", "Bad"] ∧
      loud.log.printed = ["Start", "More", "Note", "Line", "Tip 2", "Bad"] ∧
      quiet.log.printed.Sublist loud.log.printed :=
  ⟨by decide, by decide, printed_sublist_of_le (by decide) _ _ (by decide)⟩

/-- The hints have to stay as they are.  A hint that is registered anew for a lower threshold
comes late in the less verbose log, and the other one has shown it before the note. -/
example :
    let acts : List Act :=
      [.hint "tip" none [],
        .emit (.int 0) "Note" none [],
        .register { id := "tip", message := "Tip", contexts := ["result"], minLevel := 0 },
        .hint "tip" none []]
    let hints : Hints := [("tip", { id := "tip", message := "Tip", contexts := ["result"] })]
    ¬ ((start 0 [] hints).run acts).log.printed.Sublist
      ((start 1 [] hints).run acts).log.printed := by
  decide

end Session
end HelpPages
