import HelpPages.CommandLine.Flags
import HelpPages.Proofs.Log.Opening
import Mathlib.Data.List.TakeWhile

/-! # Diagnostic flags

Some flags say only how much the log shows: to show more, to show less, or to show one
channel up to a level.  Before a command line they are read for themselves and leave the
reading of the line behind them as it is (`Flags.read_diagnosed`), so that all that is
added to its flags are levels for the log (`Flags.Extends`).
-/
namespace HelpPages
namespace CommandLine

/-- A flag that says how much the log shows. -/
inductive Diagnostic where
  | louder
  | quieter
  /-- A channel and the text of its level, if it has one. -/
  | shown (channel : Text) (level : Option Text)
deriving DecidableEq, Repr

namespace Diagnostic

/-- The specification of a channel with a level. -/
def spec (channel : Text) : Option Text → Text
  | none => channel
  | some level => channel ++ ":" ++ level

/-- The words of a flag. -/
def words : Diagnostic → List Text
  | louder => ["-v"]
  | quieter => ["-Q"]
  | shown channel level => ["--show", spec channel level]

/-- A channel does not look like a flag, and its level is empty or an integer. -/
def IsValid : Diagnostic → Prop
  | shown channel level => channel.head? ≠ some '-' ∧ CodePoint.char ':' ∉ channel ∧
      ∀ digits ∈ level, digits = [] ∨ ∃ i, Integer.ofText? digits = .ok i
  | _ => True

/-- What is found where a flag stands. -/
def item : Diagnostic → Item Flag
  | louder => ⟨.verbose, []⟩
  | quieter => ⟨.quiet, []⟩
  | shown channel level => ⟨.channel, [spec channel level]⟩

/-- The specifications of channels that flags give. -/
def specs (diagnostics : List Diagnostic) : List Text :=
  diagnostics.flatMap fun d =>
    match d with
    | shown channel level => [spec channel level]
    | _ => []

end Diagnostic

/-- A command line behind diagnostic flags. -/
def diagnosed (diagnostics : List Diagnostic) (line : List Text) : List Text :=
  diagnostics.flatMap Diagnostic.words ++ line

/-! ### Words of flags -/

section Grammar

variable {α : Type} {g : Grammar α}

theorem role_of_plain {t : Text} (h : t.head? ≠ some '-') : g.role t = .ok .plain := by
  rw [Grammar.role, if_pos h]

/-- A switch that is spelled out has its role. -/
theorem role_of_switch? {s : Switch α} {t : Text} (hdash : t.head? = some '-')
    (h : g.switch? t = some s) : g.role t = .ok (.switch s t none) := by
  rw [Grammar.role, if_neg (not_not_intro hdash), h]

theorem words_cons {t : Text} {role : Role α} (ts : List Text) (hdashes : t ≠ "--")
    (hrole : g.role t = .ok role) :
    g.words (t :: ts) = (g.words ts).map (⟨t, role⟩ :: ·) := by
  rw [Grammar.words, if_neg hdashes, hrole]
  cases g.words ts <;> rfl

/-- A switch without a value is found where it stands. -/
theorem readFrom_switch {s : Switch α} (unfilled : List (Operand α)) (t : Text)
    (ws : List (Word α)) (h : s.arity = .none) :
    g.readFrom unfilled (⟨t, .switch s t none⟩ :: ws) =
      (g.readFrom unfilled ws).after [⟨s.part, []⟩] := by
  rw [Grammar.readFrom]
  simp only [Grammar.chain, Chain.items, h, bind, Except.bind]
  rfl

/-- A switch that may have a value takes the plain word behind it. -/
theorem readFrom_switch_plain {s : Switch α} (unfilled : List (Operand α)) (t value : Text)
    (ws : List (Word α)) (h : s.arity = .optional) :
    g.readFrom unfilled (⟨t, .switch s t none⟩ :: ⟨value, .plain⟩ :: ws) =
      (g.readFrom unfilled ws).after [⟨s.part, [value]⟩] := by
  rw [Grammar.readFrom]
  simp only [Grammar.chain, Chain.items, h, bind, Except.bind]
  rfl

end Grammar

/-- The words before a line that are read for themselves, and as one item. -/
structure IsReadAs (prefixed : List Text) (item : Item Flag) (roles : List (Word Flag)) : Prop where
  words : ∀ line, flagGrammar.words (prefixed ++ line) = (flagGrammar.words line).map (roles ++ ·)
  reading : ∀ ws, flagGrammar.readFrom [] (roles ++ ws) = (flagGrammar.readFrom [] ws).after [item]

/-- A flag that counts is read as its item. -/
theorem isReadAs_switch {s : Switch Flag} {t : Text} (hdash : t.head? = some '-')
    (hdashes : t ≠ "--") (h : flagGrammar.switch? t = some s) (harity : s.arity = .none) :
    IsReadAs [t] ⟨s.part, []⟩ [⟨t, .switch s t none⟩] where
  words line := words_cons line hdashes (role_of_switch? hdash h)
  reading ws := readFrom_switch [] t ws harity

/-- A flag with a value is read as its item, together with the value. -/
theorem isReadAs_switch_plain {s : Switch Flag} {t value : Text} (hdash : t.head? = some '-')
    (hdashes : t ≠ "--") (h : flagGrammar.switch? t = some s) (harity : s.arity = .optional)
    (hvalue : value.head? ≠ some '-') :
    IsReadAs [t, value] ⟨s.part, [value]⟩ [⟨t, .switch s t none⟩, ⟨value, .plain⟩] where
  words line := by
    have hne : value ≠ "--" := fun he => hvalue (by rw [he]; rfl)
    show flagGrammar.words (t :: value :: line) = _
    rw [words_cons _ hdashes (role_of_switch? hdash h), words_cons _ hne (role_of_plain hvalue)]
    cases flagGrammar.words line <;> rfl
  reading ws := readFrom_switch_plain [] t value ws harity

namespace Diagnostic

variable {d : Diagnostic} {diagnostics : List Diagnostic}

/-- The specification of a channel does not look like a flag. -/
theorem head?_spec {channel : Text} (level : Option Text) (h : channel.head? ≠ some '-') :
    (spec channel level).head? ≠ some '-' := by
  cases level with
  | none => exact h
  | some level =>
    cases channel with
    | nil => exact fun he => absurd (Option.some.inj he : CodePoint.char ':' = '-') (by decide)
    | cons c rest => exact h

/-- The words of a flag are read as its item. -/
theorem IsValid.isReadAs (valid : d.IsValid) : ∃ roles, IsReadAs d.words d.item roles := by
  cases d with
  | louder => exact ⟨_, isReadAs_switch (t := "-v") rfl (by decide) rfl rfl⟩
  | quieter => exact ⟨_, isReadAs_switch (t := "-Q") rfl (by decide) rfl rfl⟩
  | shown channel level =>
    exact ⟨_, isReadAs_switch_plain (t := "--show") rfl (by decide) rfl rfl
      (head?_spec level valid.1)⟩

/-- The specification of a valid flag is one of a channel. -/
theorem IsValid.exists_spec {channel : Text} {level : Option Text}
    (valid : (shown channel level).IsValid) :
    ∃ s, Channel.Spec.ofText (spec channel level) = .ok s := by
  obtain ⟨-, plain, hlevel⟩ := valid
  cases level with
  | none => exact ⟨_, Channel.Spec.ofText_name plain⟩
  | some digits =>
    rw [spec, Channel.Spec.ofText_part plain]
    rcases hlevel digits rfl with rfl | ⟨i, hi⟩
    · exact ⟨_, rfl⟩
    · split
      · exact ⟨_, rfl⟩
      · rw [hi]
        exact ⟨_, rfl⟩

/-- Valid flags give specifications of channels only. -/
theorem exists_of_mem_specs (valid : ∀ d ∈ diagnostics, d.IsValid) {t : Text}
    (ht : t ∈ specs diagnostics) : ∃ s, Channel.Spec.ofText t = .ok s := by
  obtain ⟨d, hd, ht⟩ := List.mem_flatMap.mp ht
  cases d with
  | shown channel level =>
    rw [List.mem_singleton.mp ht]
    exact (valid _ hd).exists_spec
  | louder => cases ht
  | quieter => cases ht

end Diagnostic

/-! ### Lines behind flags -/

variable {diagnostics : List Diagnostic}

/-- What is read behind words that are read for themselves is what is read without them,
up to the item that they are. -/
theorem IsReadAs.read {prefixed : List Text} {item : Item Flag} {roles : List (Word Flag)}
    (h : IsReadAs prefixed item roles) (line : List Text) :
    (flagGrammar.read (prefixed ++ line)).outcome = (flagGrammar.read line).outcome ∧
      ∀ extras, (flagGrammar.read line).outcome = .ok extras →
        (flagGrammar.read (prefixed ++ line)).items = item :: (flagGrammar.read line).items := by
  rw [Grammar.read, Grammar.read, h.words]
  cases flagGrammar.words line with
  | error fault => exact ⟨rfl, nofun⟩
  | ok words =>
    have hreading : flagGrammar.readFrom flagGrammar.operands (roles ++ words) =
        (flagGrammar.readFrom flagGrammar.operands words).after [item] := h.reading words
    simp only [Except.map, hreading]
    exact ⟨rfl, fun _ _ => rfl⟩

/-- Behind diagnostic flags a line is read as it is without them. -/
theorem read_diagnosed (valid : ∀ d ∈ diagnostics, d.IsValid) (line : List Text) :
    (flagGrammar.read (diagnosed diagnostics line)).outcome = (flagGrammar.read line).outcome ∧
      ∀ extras, (flagGrammar.read line).outcome = .ok extras →
        (flagGrammar.read (diagnosed diagnostics line)).items =
          diagnostics.map Diagnostic.item ++ (flagGrammar.read line).items := by
  induction diagnostics with
  | nil => exact ⟨rfl, fun _ _ => rfl⟩
  | cons d ds ih =>
    obtain ⟨hd, hds⟩ := List.forall_mem_cons.mp valid
    obtain ⟨roles, hroles⟩ := hd.isReadAs
    obtain ⟨houtcome, hitems⟩ := hroles.read (diagnosed ds line)
    obtain ⟨houtcomes, hmore⟩ := ih hds
    have hline : diagnosed (d :: ds) line = d.words ++ diagnosed ds line := by
      simp [diagnosed]
    rw [hline, houtcome]
    refine ⟨houtcomes, fun extras hextras => ?_⟩
    rw [hitems extras (houtcomes.trans hextras), hmore extras hextras]
    rfl

namespace Flags

/-- Flags differ from others in what they say about the log only, and there they have more
channels to show in front. -/
structure Extends (specs : List Text) (flags more : Flags) : Prop where
  channels : more.channels = specs.map some ++ flags.channels
  noColor : more.noColor = flags.noColor
  settings : more.settings = flags.settings

variable {specs : List Text} {flags more : Flags}

/-- One more flag keeps what flags differ in. -/
theorem Extends.add (h : Extends specs flags more) (item : Item Flag) :
    Extends specs (flags.add item) (more.add item) := by
  obtain ⟨part, words⟩ := item
  cases part with
  | verbose => exact ⟨h.channels, h.noColor, h.settings⟩
  | quiet => exact ⟨h.channels, h.noColor, h.settings⟩
  | channel => exact ⟨by simp [Flags.add, h.channels], h.noColor, h.settings⟩
  | noColor => exact ⟨h.channels, rfl, h.settings⟩
  | settings => exact ⟨h.channels, h.noColor, rfl⟩

/-- All the flags that follow keep what flags differ in. -/
theorem Extends.foldl_add (h : Extends specs flags more) (items : List (Item Flag)) :
    Extends specs (items.foldl Flags.add flags) (items.foldl Flags.add more) := by
  induction items generalizing flags more with
  | nil => exact h
  | cons item items ih => exact ih (h.add item)

/-- Diagnostic flags behind others concern the log only. -/
theorem Extends.foldl_diagnostics (h : Extends specs {} more) (diagnostics : List Diagnostic) :
    Extends (specs ++ Diagnostic.specs diagnostics) {}
      ((diagnostics.map Diagnostic.item).foldl Flags.add more) := by
  induction diagnostics generalizing specs more with
  | nil => rwa [Diagnostic.specs, List.flatMap_nil, List.append_nil]
  | cons d ds ih =>
    cases d with
    | louder => exact ih ⟨h.channels, h.noColor, h.settings⟩
    | quieter => exact ih ⟨h.channels, h.noColor, h.settings⟩
    | shown channel level =>
      have hshown : Extends (specs ++ [Diagnostic.spec channel level]) {}
          (more.add (Diagnostic.shown channel level).item) :=
        ⟨by simp [Flags.add, Diagnostic.item, h.channels], h.noColor, h.settings⟩
      have hds := ih hshown
      rwa [List.append_assoc] at hds

/-- The flags of a line from what is read of it. -/
theorem read_eq (program : Text) (line : List Text) :
    Flags.read program line =
      match (flagGrammar.read line).outcome with
      | .error fault => .error (.refusal (flagGrammar.refusal program fault))
      | .ok extras => .ok ((flagGrammar.read line).items.foldl Flags.add {}, extras) := by
  have hnone : (flagGrammar.read line).items.findSome? (fun _ => (none : Option Text)) = none :=
    List.findSome?_eq_none_iff.mpr fun _ _ => rfl
  simp only [Flags.read, Grammar.ask, hnone]
  cases (flagGrammar.read line).outcome <;> rfl

/-- **Diagnostic flags before a line add to the log that it asks for, and to nothing
else.** -/
theorem read_diagnosed (valid : ∀ d ∈ diagnostics, d.IsValid) (program : Text)
    (line : List Text) :
    (∀ stop, Flags.read program line = .error stop →
      Flags.read program (diagnosed diagnostics line) = .error stop) ∧
    ∀ flags rest, Flags.read program line = .ok (flags, rest) →
      ∃ more, Flags.read program (diagnosed diagnostics line) = .ok (more, rest) ∧
        Extends (Diagnostic.specs diagnostics) flags more := by
  obtain ⟨houtcome, hitems⟩ := CommandLine.read_diagnosed valid line
  rw [read_eq, read_eq, houtcome]
  cases hline : (flagGrammar.read line).outcome with
  | error fault => exact ⟨fun stop hstop => hstop, nofun⟩
  | ok extras =>
    refine ⟨nofun, fun flags rest hflags => ?_⟩
    cases hflags
    refine ⟨_, rfl, ?_⟩
    rw [hitems extras hline, List.foldl_append]
    have hstart : Extends [] {} {} := ⟨rfl, rfl, rfl⟩
    exact (hstart.foldl_diagnostics diagnostics).foldl_add _

/-! ### What flags ask for -/

theorem Extends.listsChannels_eq (h : Extends specs flags more) :
    more.listsChannels = flags.listsChannels := by
  rw [listsChannels, listsChannels, h.channels]
  simp

theorem Extends.given_eq (h : Extends specs flags more) : more.given = flags.given := by
  rw [given, given, h.noColor, h.settings]

/-- More channels leave it to the flags whether they ask for a log. -/
theorem Extends.exists_log_iff (h : Extends specs flags more)
    (hspecs : ∀ t ∈ specs, ∃ s, Channel.Spec.ofText t = .ok s) :
    (∃ log, more.log = .ok log) ↔ ∃ log, flags.log = .ok log := by
  have hlog : ∀ f : Flags, (∃ log, f.log = .ok log) ↔
      ∃ parsed, (f.channels.filterMap id).mapM Channel.Spec.ofText = .ok parsed := by
    intro f
    rw [Flags.log, Log.ofSpecs, Levels.ofSpecs]
    cases (f.channels.filterMap id).mapM Channel.Spec.ofText with
    | ok parsed => exact ⟨fun _ => ⟨_, rfl⟩, fun _ => ⟨_, rfl⟩⟩
    | error e =>
      constructor
      · rintro ⟨_, h⟩
        cases h
      · rintro ⟨_, h⟩
        cases h
  obtain ⟨parsed, hparsed⟩ := exists_mapM hspecs
  have hchannels : more.channels.filterMap id = specs ++ flags.channels.filterMap id := by
    rw [h.channels, List.filterMap_append, List.filterMap_map]
    exact congrArg (· ++ _) List.filterMap_some
  rw [hlog, hlog, hchannels, List.mapM_append, hparsed]
  cases (flags.channels.filterMap id).mapM Channel.Spec.ofText with
  | ok others => exact ⟨fun _ => ⟨_, rfl⟩, fun _ => ⟨_, rfl⟩⟩
  | error e =>
    constructor
    · rintro ⟨_, h⟩
      cases h
    · rintro ⟨_, h⟩
      cases h

end Flags
end CommandLine
end HelpPages
