import HelpPages.Program
import HelpPages.Proofs.CommandLine.Diagnostics
import Mathlib.Data.List.Basic
import Mathlib.Data.List.Induction

/-! # Places of flags

Flags stand before or behind the name of a command and its words.  A flag without a value may
be put between any two words of a line, unless the word before it still waits for its own value
(`AwaitsValue`) or is behind two dashes: it adds itself to the flags of the line, and leaves
alone what its neighbours find and which words are left over in which order
(`Toggle.read_insert`).
-/
namespace HelpPages
namespace CommandLine

/-! ### Words that take none of the words behind them -/

section Grammar

variable {α : Type} {g : Grammar α}

/-- The last switch of the chain has no value, or has it attached. -/
def Chain.IsClosed (chain : Chain α) : Prop := chain.attached = none → chain.last.arity = .none

/-- A closed chain finds the same before all words, and takes none of them. -/
theorem Chain.IsClosed.items {chain : Chain α} (h : chain.IsClosed) :
    ∃ items, ∀ following, chain.items following = .ok (items, 0) := by
  cases hattached : chain.attached with
  | some t => exact ⟨_, fun following => by simp only [Chain.items, hattached]; rfl⟩
  | none => exact ⟨_, fun following => by simp only [Chain.items, hattached, h hattached]; rfl⟩

/-- A chain looks at no more than the first word behind it. -/
theorem Chain.items_congr (chain : Chain α) (w : Word α) (ws us : List (Word α)) :
    chain.items (w :: ws) = chain.items (w :: us) := by
  unfold Chain.items
  cases chain.attached with
  | some t => rfl
  | none => cases chain.last.arity <;> rfl

/-- A chain takes at most one word. -/
theorem Chain.taken_le_one {chain : Chain α} {ws : List (Word α)} {items : List (Item α)} {n : Nat}
    (h : chain.items ws = .ok (items, n)) : n ≤ 1 := by
  unfold Chain.items at h
  split at h
  · cases h; omega
  · cases h; omega
  · split at h
    · cases h; omega
    · cases h; omega
  · cases h; omega
  · split at h
    · cases h; omega
    · cases h
  · cases h

/-- A word takes no word behind it, whatever that is. -/
def Word.IsClosed (g : Grammar α) (w : Word α) : Prop :=
  ∀ s name attached, w.role = .switch s name attached →
    ∀ chain, g.chain s name attached = .ok chain → chain.IsClosed

/-! ### Readings with one more item -/

/-- A reading comes to the same as another one, with one more item among those found. -/
structure Reading.IsWith (item : Item α) (r more : Reading α) : Prop where
  outcome : more.outcome = r.outcome
  items : ∀ extras, r.outcome = .ok extras →
    ∃ before behind, r.items = before ++ behind ∧ more.items = before ++ item :: behind

namespace Reading.IsWith

variable {item : Item α} {r more : Reading α}

theorem here (item : Item α) (r : Reading α) : IsWith item r (r.after [item]) where
  outcome := rfl
  items _ _ := ⟨[], r.items, rfl, rfl⟩

theorem refused (item : Item α) (fault : Fault) :
    IsWith item (.refused fault) (.refused fault) where
  outcome := rfl
  items _ h := by cases h

theorem after (h : IsWith item r more) (items : List (Item α)) :
    IsWith item (r.after items) (more.after items) where
  outcome := h.outcome
  items extras hextras := by
    obtain ⟨before, behind, hr, hmore⟩ := h.items extras hextras
    exact ⟨items ++ before, behind, by simp [Reading.after, hr], by simp [Reading.after, hmore]⟩

theorem afterExtra (h : IsWith item r more) (t : Text) :
    IsWith item (r.afterExtra t) (more.afterExtra t) where
  outcome := by simp only [Reading.afterExtra, h.outcome]
  items extras hextras := by
    cases houtcome : r.outcome with
    | ok rest => exact h.items rest houtcome
    | error fault =>
      rw [Reading.afterExtra, houtcome] at hextras
      cases hextras

end Reading.IsWith

/-! ### Switches between words -/

/-- Without operands a word that is no switch is left over. -/
theorem readFrom_extra {w : Word α} (ws : List (Word α))
    (h : ∀ s name attached, w.role ≠ .switch s name attached) :
    g.readFrom [] (w :: ws) = (g.readFrom [] ws).afterExtra w.text := by
  rw [Grammar.readFrom]
  cases hrole : w.role with
  | plain => rfl
  | dashes => rfl
  | unknown => rfl
  | switch s name attached => exact absurd hrole (h s name attached)

/-- Readings of two lines stay alike behind one more word, if the word finds the same in both and
what it leaves of them is alike. -/
theorem isWith_cons {item : Item α} {w : Word α} {ws us : List (Word α)}
    (hrest : (g.readFrom [] ws).IsWith item (g.readFrom [] us))
    (hswitch : ∀ s name attached chain, w.role = .switch s name attached →
      g.chain s name attached = .ok chain → chain.items ws = chain.items us ∧
        ∀ items n, chain.items ws = .ok (items, n) →
          (g.readFrom [] (ws.drop n)).IsWith item (g.readFrom [] (us.drop n))) :
    (g.readFrom [] (w :: ws)).IsWith item (g.readFrom [] (w :: us)) := by
  by_cases h : ∃ s name attached, w.role = .switch s name attached
  · obtain ⟨s, name, attached, hrole⟩ := h
    rw [Grammar.readFrom, Grammar.readFrom]
    simp only [hrole]
    cases hchain : g.chain s name attached with
    | error fault => exact .refused _ fault
    | ok chain =>
      obtain ⟨hsame, htaken⟩ := hswitch s name attached chain hrole hchain
      simp only [bind, Except.bind, ← hsame]
      cases hitems : chain.items ws with
      | error fault => exact .refused _ fault
      | ok found => exact (htaken found.1 found.2 hitems).after found.1
  · have hno : ∀ s name attached, w.role ≠ .switch s name attached :=
      fun s name attached hrole => h ⟨s, name, attached, hrole⟩
    rw [readFrom_extra _ hno, readFrom_extra _ hno]
    exact hrest.afterExtra w.text

/-- A switch without a value may stand behind any words of which the last one takes no word
behind it. -/
theorem readFrom_insert {s : Switch α} (t : Text) (harity : s.arity = .none)
    (front behind : List (Word α)) (hclosed : ∀ w ∈ front.getLast?, w.IsClosed g) :
    (g.readFrom [] (front ++ behind)).IsWith ⟨s.part, []⟩
      (g.readFrom [] (front ++ ⟨t, .switch s t none⟩ :: behind)) := by
  have hhere : (g.readFrom [] behind).IsWith ⟨s.part, []⟩
      (g.readFrom [] (⟨t, .switch s t none⟩ :: behind)) := by
    rw [readFrom_switch [] t behind harity]
    exact .here _ _
  -- a word may take the next one with it
  induction front using List.twoStepInduction with
  | nil => exact hhere
  | singleton w =>
    refine isWith_cons hhere fun s name attached chain hrole hchain => ?_
    obtain ⟨items, hitems⟩ := (hclosed w rfl s name attached hrole chain hchain).items
    refine ⟨(hitems _).trans (hitems _).symm, fun found n hfound => ?_⟩
    cases (hitems _).symm.trans hfound
    exact hhere
  | cons_cons w u us ih ih' =>
    have hnext := ih' u fun v hv => hclosed v (List.mem_getLast?_cons hv)
    refine isWith_cons hnext fun s name attached chain hrole hchain => ?_
    refine ⟨chain.items_congr u _ _, fun items n hfound => ?_⟩
    have hn : n = 0 ∨ n = 1 := by
      have := Chain.taken_le_one hfound
      omega
    rcases hn with rfl | rfl
    · exact hnext
    · exact ih fun v hv => hclosed v (List.mem_getLast?_cons (List.mem_getLast?_cons hv))

/-! ### Roles of words -/

/-- The words behind others that are none of them two dashes. -/
theorem words_append {front : List Text} (h : ("--" : Text) ∉ front) (rest : List Text) :
    g.words (front ++ rest) =
      (g.words front).bind fun ws => (g.words rest).map (ws ++ ·) := by
  induction front with
  | nil => cases hrest : g.words rest <;> simp [Grammar.words, hrest, Except.map, Except.bind]
  | cons t ts ih =>
    obtain ⟨hne, hts⟩ := not_or.mp (mt List.mem_cons.mpr h)
    cases hrole : g.role t with
    | error fault =>
      simp only [List.cons_append, Grammar.words, if_neg (Ne.symm hne), hrole]
      rfl
    | ok role =>
      rw [List.cons_append, words_cons _ (Ne.symm hne) hrole, words_cons _ (Ne.symm hne) hrole,
        ih hts]
      cases g.words ts with
      | error fault => rfl
      | ok ws => cases g.words rest <;> rfl

/-- The words of a line without two dashes are its texts, each with its own role. -/
theorem of_words_eq_ok {front : List Text} (h : ("--" : Text) ∉ front) {ws : List (Word α)}
    (hwords : g.words front = .ok ws) :
    ws.map Word.text = front ∧ ∀ w ∈ ws, g.role w.text = .ok w.role := by
  induction front generalizing ws with
  | nil =>
    cases hwords
    exact ⟨rfl, nofun⟩
  | cons t ts ih =>
    obtain ⟨hne, hts⟩ := not_or.mp (mt List.mem_cons.mpr h)
    rw [Grammar.words, if_neg (Ne.symm hne)] at hwords
    obtain ⟨role, hrole, hwords⟩ := bind_eq_ok_iff.mp hwords
    obtain ⟨us, hus, hcons⟩ := bind_eq_ok_iff.mp hwords
    cases hcons
    obtain ⟨htexts, hroles⟩ := ih hts hus
    exact ⟨by rw [List.map_cons, htexts], List.forall_mem_cons.mpr ⟨hrole, hroles⟩⟩

theorem mem_spellings_of_switch? {s : Switch α} {name : Text} (h : g.switch? name = some s) :
    (s, name) ∈ g.spellings := by
  obtain ⟨found, hfound, rfl⟩ := Option.map_eq_some_iff.mp h
  have hname : found.2 = name := by simpa using List.find?_some hfound
  rw [← hname]
  exact List.mem_of_find?_eq_some hfound

theorem mem_candidates_of_matchedRole {s : Switch α} {t name : Text} {attached : Option Text}
    (h : g.matchedRole t = .ok (.switch s name attached)) :
    (s, name, attached) ∈ g.candidates t := by
  unfold Grammar.matchedRole at h
  split at h
  · next hcandidates =>
    cases h
    rw [hcandidates]
    exact List.mem_singleton_self _
  · split at h <;> cases h
  · cases h

theorem eq_of_cutAtEquals {t start : Text} (h : cutAtEquals t = (start, none)) : start = t := by
  unfold cutAtEquals at h
  split at h <;> cases h
  rfl

/-- A word from which a switch was cut short is the beginning of its spelling, if nothing is
attached to it. -/
theorem of_mem_candidates {s : Switch α} {t name : Text} (h : (s, name, none) ∈ g.candidates t) :
    ("--" : Text) <+: t ∧ t <+: name ∧ (s, name) ∈ g.spellings := by
  unfold Grammar.candidates at h
  split at h
  · next rest =>
    obtain ⟨⟨start, attached⟩, hcut⟩ : ∃ cut, cutAtEquals ('-' :: '-' :: rest) = cut := ⟨_, rfl⟩
    rw [hcut] at h
    obtain ⟨found, hfound, heq⟩ := List.mem_map.mp h
    obtain ⟨hmem, hstart⟩ := List.mem_filter.mp hfound
    cases heq
    rw [eq_of_cutAtEquals hcut] at hstart
    exact ⟨⟨rest, rfl⟩, List.isPrefixOf_iff_prefix.mp hstart, hmem⟩
  · obtain ⟨found, -, heq⟩ := List.mem_map.mp h
    cases heq
  · cases h

/-- A word is given as a switch with nothing attached by a spelling, or by the beginning of a long
one. -/
theorem of_role_eq_switch {s : Switch α} {t name : Text}
    (h : g.role t = .ok (.switch s name none)) :
    (s, t) ∈ g.spellings ∨ ("--" : Text) <+: t ∧ t <+: name ∧ (s, name) ∈ g.spellings := by
  unfold Grammar.role at h
  split at h
  · cases h
  · split at h
    · next hswitch =>
      cases h
      exact .inl (mem_spellings_of_switch? hswitch)
    · split at h
      · cases h
      · split at h
        · split at h
          · cases h
          · exact .inr (of_mem_candidates (mem_candidates_of_matchedRole h))
        · exact .inr (of_mem_candidates (mem_candidates_of_matchedRole h))

end Grammar

/-! ### Words that wait for a value -/

/-- The flags that take the word behind them as their value if they can. -/
def valueFlags : List Text := ["--show", "--config"]

/-- A word that is such a flag, in full or cut short, and has no value attached. -/
def AwaitsValue (t : Text) : Prop := ("--" : Text) <+: t ∧ ∃ name ∈ valueFlags, t <+: name

instance (t : Text) : Decidable (AwaitsValue t) := inferInstanceAs (Decidable (_ ∧ _))

/-- A flag that takes a value has one spelling, a long one. -/
theorem mem_valueFlags_of_spellings {s : Switch Flag} {name : Text}
    (h : (s, name) ∈ flagGrammar.spellings) (harity : s.arity ≠ .none) : name ∈ valueFlags := by
  have hall : ∀ spelling ∈ flagGrammar.spellings,
      spelling.1.arity ≠ .none → spelling.2 ∈ valueFlags := by decide
  exact hall _ h harity

theorem awaitsValue_of_mem {name : Text} (h : name ∈ valueFlags) : AwaitsValue name := by
  have hall : ∀ name ∈ valueFlags, AwaitsValue name := by decide
  exact hall name h

/-- A short flag takes no value. -/
theorem arity_of_short {s : Switch Flag} {c : CodePoint}
    (h : flagGrammar.switch? ['-', c] = some s) : s.arity = .none := by
  by_contra harity
  have hmem := mem_valueFlags_of_spellings (mem_spellings_of_switch? h) harity
  simp [valueFlags, Text.ofString, Text.ofChars] at hmem

theorem isClosed_of_shortChain {s : Switch Flag} {t : Text} {chain : Chain Flag}
    (h : flagGrammar.shortChain s t = .ok chain) : chain.IsClosed := by
  induction t generalizing s chain with
  | nil => cases h
  | cons c rest ih =>
    unfold Grammar.shortChain at h
    split at h
    · cases h
      intro hnone
      cases hnone
    · split at h
      · cases h
      · next next hnext =>
        split at h
        · cases h
          exact fun _ => arity_of_short hnext
        · obtain ⟨inner, hinner, hchain⟩ := bind_eq_ok_iff.mp h
          cases hchain
          have hclosed : inner.IsClosed := ih hinner
          exact hclosed

/-- A word that does not wait for a value takes no word behind it. -/
theorem isClosed_of_not_awaitsValue {w : Word Flag} (hrole : flagGrammar.role w.text = .ok w.role)
    (h : ¬ AwaitsValue w.text) : w.IsClosed flagGrammar := by
  intro s name attached hswitch chain hchain
  rw [hswitch] at hrole
  cases attached with
  | some t =>
    rw [Grammar.chain] at hchain
    split at hchain
    · cases hchain
      intro hnone
      cases hnone
    · split at hchain
      · cases hchain
      · exact isClosed_of_shortChain hchain
  | none =>
    cases hchain
    intro _
    by_contra harity
    rcases of_role_eq_switch hrole with hspelled | ⟨hlong, hstart, hspelled⟩
    · exact h (awaitsValue_of_mem (mem_valueFlags_of_spellings hspelled harity))
    · exact h ⟨hlong, name, mem_valueFlags_of_spellings hspelled harity, hstart⟩

/-! ### Flags without a value -/

/-- The end of some words is a place for a flag: the flag is not behind two dashes, and the word
before it does not wait for a value. -/
structure IsPlace (front : List Text) : Prop where
  undashed : ("--" : Text) ∉ front
  settled : ∀ t ∈ front.getLast?, ¬ AwaitsValue t

/-- A flag that has no value. -/
inductive Toggle where
  | noColor | louder | quieter
deriving DecidableEq, Repr

namespace Toggle

/-- The word of the flag. -/
def word : Toggle → Text
  | noColor => "--no-color"
  | louder => "-v"
  | quieter => "-Q"

/-- Flags with this one more. -/
def apply : Toggle → Flags → Flags
  | noColor, flags => { flags with noColor := true }
  | louder, flags => { flags with verbose := flags.verbose + 1 }
  | quieter, flags => { flags with quiet := flags.quiet + 1 }

/-- What is found where the flag stands. -/
def item : Toggle → Item Flag
  | noColor => ⟨.noColor, []⟩
  | louder => ⟨.verbose, []⟩
  | quieter => ⟨.quiet, []⟩

theorem add_item (toggle : Toggle) (flags : Flags) :
    flags.add toggle.item = toggle.apply flags := by
  cases toggle <;> rfl

/-- The flag may be added before another one or behind it. -/
theorem add_apply (toggle : Toggle) (flags : Flags) (item : Item Flag) :
    (toggle.apply flags).add item = toggle.apply (flags.add item) := by
  obtain ⟨part, words⟩ := item
  cases toggle <;> cases part <;> rfl

theorem foldl_add_apply (toggle : Toggle) (flags : Flags) (items : List (Item Flag)) :
    items.foldl Flags.add (toggle.apply flags) = toggle.apply (items.foldl Flags.add flags) := by
  induction items generalizing flags with
  | nil => rfl
  | cons item items ih => rw [List.foldl_cons, List.foldl_cons, add_apply, ih]

/-- Wherever it is found, the flag adds itself to the other ones. -/
theorem foldl_add_insert (toggle : Toggle) (before behind : List (Item Flag)) :
    (before ++ toggle.item :: behind).foldl Flags.add {} =
      toggle.apply ((before ++ behind).foldl Flags.add {}) := by
  rw [List.foldl_append, List.foldl_append, List.foldl_cons, add_item, foldl_add_apply]

theorem switch?_word (toggle : Toggle) :
    ∃ s, flagGrammar.switch? toggle.word = some s ∧ s.arity = .none ∧
      ⟨s.part, []⟩ = toggle.item := by
  cases toggle <;> exact ⟨_, rfl, rfl, rfl⟩

/-- In its place a flag is read as its item, and the words around it as they are without it. -/
theorem isWith_read (toggle : Toggle) {front : List Text} (h : IsPlace front) (rest : List Text) :
    (flagGrammar.read (front ++ rest)).IsWith toggle.item
      (flagGrammar.read (front ++ toggle.word :: rest)) := by
  obtain ⟨s, hswitch, harity, hitem⟩ := toggle.switch?_word
  have hrole : flagGrammar.role toggle.word = .ok (.switch s toggle.word none) :=
    role_of_switch? (by cases toggle <;> rfl) hswitch
  have hdashes : toggle.word ≠ "--" := by cases toggle <;> decide
  rw [Grammar.read, Grammar.read, words_append h.undashed, words_append h.undashed,
    words_cons rest hdashes hrole]
  cases hfront : flagGrammar.words front with
  | error fault => exact .refused _ fault
  | ok ws =>
    cases flagGrammar.words rest with
    | error fault => exact .refused _ fault
    | ok us =>
      obtain ⟨htexts, hroles⟩ := of_words_eq_ok h.undashed hfront
      rw [← hitem]
      refine readFrom_insert toggle.word harity ws us fun w hw => ?_
      refine isClosed_of_not_awaitsValue (hroles w (List.mem_of_getLast? hw)) (h.settled w.text ?_)
      rw [← htexts, List.getLast?_map, Option.mem_def.mp hw]
      rfl

/-- In its place a flag adds itself to the flags of the line, and changes nothing else. -/
theorem read_word (toggle : Toggle) {front : List Text} (h : IsPlace front) (rest : List Text)
    (program : Text) :
    Flags.read program (front ++ toggle.word :: rest) =
      (Flags.read program (front ++ rest)).map fun found => (toggle.apply found.1, found.2) := by
  have hwith := toggle.isWith_read h rest
  rw [Flags.read_eq, Flags.read_eq, hwith.outcome]
  cases houtcome : (flagGrammar.read (front ++ rest)).outcome with
  | error fault => rfl
  | ok extras =>
    obtain ⟨before, behind, hitems, hmore⟩ := hwith.items extras houtcome
    rw [hitems, hmore, foldl_add_insert]
    rfl

/-- Words with a value for a flag that is cut short, one that is attached, and a command with a
flag of its own. -/
def sampleFront : List Text := ["--sho", "parse:2", "--config=a.json", "help", "-b"]

/-- Two flags in one word, and words behind two dashes. -/
def sampleRest : List Text := ["-Qv", "--", "--no-color"]

end Toggle
end CommandLine
end HelpPages
