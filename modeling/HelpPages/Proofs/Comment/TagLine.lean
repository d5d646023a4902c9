import HelpPages.Comment.Tag
import HelpPages.Proofs.Comment.Block

/-! # Written lines

What a content line says is written as its tag and the phrases behind it, with one
blank between neighbours.  Reading a written line gives back what it says
(`ofText_write`).  The parts of an option may be left out, so a description must not
start with a word that reads as a part which is missing in front of it.
-/
namespace HelpPages

open Text (IsPhrase IsInline unwords)

namespace Comment

/-- A text as a phrase, and nothing in place of an empty one. -/
def phrase (t : Text) : List Text := if t = [] then [] else [t]

theorem isPhrase_of_mem_phrase {t p : Text} (h : IsInline t) (hp : p ∈ phrase t) : IsPhrase p := by
  by_cases ht : t = []
  · simp [phrase, ht] at hp
  · rw [phrase, if_neg ht, List.mem_singleton] at hp
    subst hp
    exact ⟨h, ht⟩

@[simp] theorem unwords_phrase (t : Text) : unwords (phrase t) = t := by
  by_cases ht : t = []
  · rw [phrase, if_pos ht, ht]; rfl
  · rw [phrase, if_neg ht, unwords, Text.joinWith_singleton]

namespace Tag

/-- The word of a tag. -/
def word : Tag → Text
  | usage => "@usage"
  | arg => "@arg"
  | opt => "@opt"
  | flag => "@flag"
  | .example => "@example"

theorem ofWord?_word (tag : Tag) : ofWord? tag.word = some tag := by
  cases tag <;> decide

theorem word_unblank (tag : Tag) : ∀ c ∈ tag.word, Text.isBlank c = false := by
  cases tag <;> decide

/-- The line of a tag with phrases behind it. -/
def line (tag : Tag) (phrases : List Text) : Text := unwords (tag.word :: phrases)

/-- The line of a tag says what the tag reads from the phrases. -/
theorem ofText_line {tag : Tag} {phrases : List Text} {said : Line}
    (h : ∀ p ∈ phrases, IsPhrase p) (read : tag.read? (unwords phrases) = some said) :
    Line.ofText (tag.line phrases) = said := by
  simp only [Line.ofText, line, Text.cutWord_unwords tag.word_unblank h, ofWord?_word,
    Option.bind_some, read]

theorem eq_word_of_ofWord? {w : Text} {tag : Tag} (h : ofWord? w = some tag) : w = tag.word := by
  unfold ofWord? at h
  split at h
  · next hw => cases h; exact hw
  split at h
  · next hw => cases h; exact hw
  split at h
  · next hw => cases h; exact hw
  split at h
  · next hw => cases h; exact hw
  split at h
  · next hw => cases h; exact hw
  · cases h

/-- A line that starts with a tag looks like one. -/
theorem looksTagged_of_ofWord? {line : Text} {tag : Tag}
    (h : ofWord? (Text.cutWord line).1 = some tag) : looksTagged line = true := by
  obtain ⟨rest, hrest⟩ : tag.word <+: line :=
    eq_word_of_ofWord? h ▸ List.takeWhile_prefix _
  rw [← hrest]
  cases tag <;> rfl

/-- A line that does not look like a tag is prose. -/
theorem ofText_of_not_looksTagged {line : Text} (h : looksTagged line = false) :
    Line.ofText line = .prose line := by
  have hword : ofWord? (Text.cutWord line).1 = none := by
    cases hw : ofWord? (Text.cutWord line).1 with
    | none => rfl
    | some tag => exact absurd (looksTagged_of_ofWord? hw) (by rw [h]; decide)
  simp only [Line.ofText, hword, Option.bind_none, h]
  rfl

theorem isContent_line {tag : Tag} {phrases : List Text} (h : ∀ p ∈ phrases, IsPhrase p) :
    IsContent (tag.line phrases) where
  toIsInline := by
    refine (Text.isPhrase_unwords (List.cons_ne_nil _ _) fun p hp => ?_).toIsInline
    rcases List.mem_cons.mp hp with rfl | hp
    · exact IsPhrase.of_unblank (by cases tag <;> decide) tag.word_unblank
    · exact h p hp
  unstarred := by
    have hhead : (tag.line phrases).head? = some (.char '@') := by cases tag <;> rfl
    rw [hhead]
    decide

end Tag

/-! ### Options -/

theorem isBlank_eq_false_of_isNameChar {c : CodePoint} (h : isNameChar c = true) :
    Text.isBlank c = false := by
  simp only [isNameChar, isPlain, Bool.or_eq_true, decide_eq_true_eq] at h
  rcases h with ((h | rfl) | rfl) | rfl
  · exact Text.isBlank_eq_false_of_isAlphanum h
  · rfl
  · rfl
  · rfl

theorem longName?_dashed {name : Text} (h : isLongName name = true) :
    longName? (.char '-' :: .char '-' :: name) = some name := by
  simp only [longName?, h, if_true]

theorem longName?_of_flag (c : CodePoint) (h : Text.isWordChar c = true) :
    longName? [.char '-', c] = none := by
  have hc : c ≠ .char '-' := by
    rintro rfl
    cases h
  simp [longName?, isLongName, CodePoint.is, CodePoint.satisfies, hc]

theorem takeWord?_of_some {read? : Text → Option Text} {w found : Text} {phrases : List Text}
    (hw : ∀ c ∈ w, Text.isBlank c = false) (h : ∀ p ∈ phrases, IsPhrase p)
    (read : read? w = some found) :
    takeWord? read? (unwords (w :: phrases)) = (some found, unwords phrases) := by
  simp only [takeWord?, Text.cutWord_unwords hw h, read]

theorem takeWord?_of_none {read? : Text → Option Text} {t : Text}
    (read : read? (Text.cutWord t).1 = none) : takeWord? read? t = (none, t) := by
  simp only [takeWord?, read]

end Comment

namespace CommandOption

open Comment

/-- The option can be written on a line so that reading gives it back: it has a part,
its labels have the form of labels, and its description neither has blanks around it
nor starts with a word that reads as a label the option lacks. -/
structure IsWritable (o : CommandOption) : Prop where
  longName : ∀ name ∈ o.longName, isLongName name = true
  flag : ∀ flag ∈ o.flag, flag.length = 1 ∧ ∀ c ∈ flag, Text.isWordChar c = true
  description : IsInline o.description
  nonempty : o.longName ≠ none ∨ o.flag ≠ none ∨ o.description ≠ []
  noFlag : o.flag = none → shortFlag? (Text.cutWord o.description).1 = none
  noLabel : o.longName = none → o.flag = none →
    longName? (Text.cutWord o.description).1 = none

instance (o : CommandOption) : Decidable o.IsWritable :=
  decidable_of_iff ((∀ name ∈ o.longName, isLongName name = true)
      ∧ (∀ flag ∈ o.flag, flag.length = 1 ∧ ∀ c ∈ flag, Text.isWordChar c = true)
      ∧ IsInline o.description ∧ (o.longName ≠ none ∨ o.flag ≠ none ∨ o.description ≠ [])
      ∧ (o.flag = none → shortFlag? (Text.cutWord o.description).1 = none)
      ∧ (o.longName = none → o.flag = none →
        longName? (Text.cutWord o.description).1 = none))
    ⟨fun ⟨a, b, c, d, e, f⟩ => ⟨a, b, c, d, e, f⟩, fun ⟨a, b, c, d, e, f⟩ => ⟨a, b, c, d, e, f⟩⟩

/-- The parts of an option as they are typed. -/
def phrases (o : CommandOption) : List Text :=
  o.longName.toList.map (fun name => .char '-' :: .char '-' :: name)
    ++ (o.flag.toList.map (fun flag => .char '-' :: flag) ++ phrase o.description)

variable {o : CommandOption}

theorem IsWritable.longName_unblank (h : o.IsWritable) {name : Text} (hname : name ∈ o.longName) :
    ∀ c ∈ .char '-' :: .char '-' :: name, Text.isBlank c = false := by
  have hall := (Bool.and_eq_true_iff.mp (h.longName name hname)).1
  intro c hc
  rcases List.mem_cons.mp hc with rfl | hc
  · rfl
  · rcases List.mem_cons.mp hc with rfl | hc
    · rfl
    · exact isBlank_eq_false_of_isNameChar (List.all_eq_true.mp hall c hc)

theorem IsWritable.exists_flag (h : o.IsWritable) {flag : Text} (hflag : flag ∈ o.flag) :
    ∃ c, flag = [c] ∧ Text.isWordChar c = true := by
  obtain ⟨hlength, hword⟩ := h.flag flag hflag
  obtain ⟨c, rfl⟩ := List.length_eq_one_iff.mp hlength
  exact ⟨c, rfl, hword c (List.mem_singleton.mpr rfl)⟩

theorem IsWritable.flag_unblank (h : o.IsWritable) {flag : Text} (hflag : flag ∈ o.flag) :
    ∀ c ∈ .char '-' :: flag, Text.isBlank c = false := by
  intro c hc
  rcases List.mem_cons.mp hc with rfl | hc
  · rfl
  · exact Text.isBlank_eq_false_of_isWordChar ((h.flag flag hflag).2 c hc)

theorem IsWritable.isPhrase_flagged (h : o.IsWritable) :
    ∀ p ∈ o.flag.toList.map (fun flag => .char '-' :: flag) ++ phrase o.description,
      IsPhrase p := by
  intro p hp
  rcases List.mem_append.mp hp with hp | hp
  · obtain ⟨flag, hflag, rfl⟩ := List.mem_map.mp hp
    exact IsPhrase.of_unblank (List.cons_ne_nil _ _) (h.flag_unblank (Option.mem_toList.mp hflag))
  · exact isPhrase_of_mem_phrase h.description hp

theorem IsWritable.isPhrase (h : o.IsWritable) : ∀ p ∈ o.phrases, IsPhrase p := by
  intro p hp
  rcases List.mem_append.mp hp with hp | hp
  · obtain ⟨name, hname, rfl⟩ := List.mem_map.mp hp
    exact IsPhrase.of_unblank (List.cons_ne_nil _ _)
      (h.longName_unblank (Option.mem_toList.mp hname))
  · exact h.isPhrase_flagged p hp

theorem IsWritable.phrases_ne_nil (h : o.IsWritable) : o.phrases ≠ [] := by
  intro hnil
  obtain ⟨hname, hrest⟩ := List.append_eq_nil_iff.mp hnil
  obtain ⟨hflag, hdescription⟩ := List.append_eq_nil_iff.mp hrest
  rcases h.nonempty with h | h | h
  · exact h (Option.toList_eq_nil_iff.mp (List.map_eq_nil_iff.mp hname))
  · exact h (Option.toList_eq_nil_iff.mp (List.map_eq_nil_iff.mp hflag))
  · simp [phrase, h] at hdescription

/-- The flag and the description come back from behind the long name. -/
theorem IsWritable.takeFlag (h : o.IsWritable) :
    takeWord? shortFlag? (unwords (o.flag.toList.map (fun flag => .char '-' :: flag)
      ++ phrase o.description)) = (o.flag, o.description) := by
  cases hflag : o.flag with
  | none =>
    simp only [Option.toList_none, List.map_nil, List.nil_append, unwords_phrase]
    exact takeWord?_of_none (h.noFlag hflag)
  | some flag =>
    have hmem : flag ∈ o.flag := hflag
    obtain ⟨c, rfl, hc⟩ := h.exists_flag hmem
    have hread : shortFlag? [.char '-', c] = some [c] := by simp [shortFlag?, hc]
    have hphrases : ∀ p ∈ phrase o.description, IsPhrase p := fun p hp =>
      isPhrase_of_mem_phrase h.description hp
    have htake := takeWord?_of_some (h.flag_unblank hmem) hphrases hread
    rw [unwords_phrase] at htake
    exact htake

/-- An option comes back from its parts. -/
theorem IsWritable.readOption_phrases (h : o.IsWritable) : readOption (unwords o.phrases) = o := by
  have htake : takeWord? longName? (unwords o.phrases) = (o.longName,
      unwords (o.flag.toList.map (fun flag => .char '-' :: flag) ++ phrase o.description)) := by
    cases hname : o.longName with
    | some name =>
      have hmem : name ∈ o.longName := hname
      rw [phrases, hname]
      exact takeWord?_of_some (h.longName_unblank hmem) h.isPhrase_flagged
        (longName?_dashed (h.longName name hmem))
    | none =>
      rw [phrases, hname]
      -- the first word is then a flag, which has one dash only, or one of the description
      refine takeWord?_of_none ?_
      cases hflag : o.flag with
      | none =>
        simp only [Option.toList_none, List.map_nil, List.nil_append, unwords_phrase]
        exact h.noLabel hname hflag
      | some flag =>
        have hmem : flag ∈ o.flag := hflag
        obtain ⟨c, rfl, hc⟩ := h.exists_flag hmem
        simp only [Option.toList_none, List.map_nil, List.nil_append, Option.toList_some,
          List.map_cons, List.singleton_append]
        rw [Text.cutWord_unwords (h.flag_unblank hmem)
          fun p hp => isPhrase_of_mem_phrase h.description hp]
        exact longName?_of_flag c hc
  simp only [readOption, htake, h.takeFlag]

end CommandOption

/-! ### Lines -/

namespace Example

/-- The parts of an example as they are typed. -/
def phrases (e : Example) : List Text :=
  (.char '\x60' :: (e.code ++ [.char '\x60'])) :: Comment.phrase e.description

/-- The example can be written on a line so that reading gives it back. -/
structure IsWritable (e : Example) : Prop where
  nonempty : e.code ≠ []
  unquoted : CodePoint.char '\x60' ∉ e.code
  oneLine : CodePoint.char '\n' ∉ e.code
  description : IsInline e.description

instance (e : Example) : Decidable e.IsWritable :=
  decidable_of_iff (e.code ≠ [] ∧ CodePoint.char '\x60' ∉ e.code ∧ CodePoint.char '\n' ∉ e.code
      ∧ IsInline e.description)
    ⟨fun ⟨a, b, c, d⟩ => ⟨a, b, c, d⟩, fun ⟨a, b, c, d⟩ => ⟨a, b, c, d⟩⟩

variable {e : Example}

theorem IsWritable.isPhrase (h : e.IsWritable) : ∀ p ∈ e.phrases, IsPhrase p := by
  intro p hp
  rcases List.mem_cons.mp hp with rfl | hp
  · refine ⟨⟨fun hmem => ?_, Text.trim_eq_self_iff.mpr ⟨fun c hc => ?_, fun c hc => ?_⟩⟩,
      List.cons_ne_nil _ _⟩
    · rcases List.mem_cons.mp hmem with he | hmem
      · exact absurd he (by decide)
      · rcases List.mem_append.mp hmem with hmem | hmem
        · exact h.oneLine hmem
        · exact absurd hmem (by decide)
    · cases hc; rfl
    · rw [← List.cons_append, List.getLast?_concat] at hc
      cases hc
      rfl
  · exact Comment.isPhrase_of_mem_phrase h.description hp

/-- The code between backticks is read up to the first of them that closes it. -/
theorem readExample?_quoted {code tail : Text} (hne : code ≠ [])
    (hcode : CodePoint.char '\x60' ∉ code) :
    Comment.readExample? (.char '\x60' :: (code ++ .char '\x60' :: tail)) =
      match tail with
      | [] => some { code }
      | c :: rest =>
        if Text.isBlank c then some { code, description := rest.dropWhile Text.isBlank }
        else none := by
  have hall : ∀ c ∈ code, (!c.is '\x60') = true := by
    intro c hc
    cases his : c.is '\x60' with
    | false => rfl
    | true => exact absurd (CodePoint.is_iff.mp his ▸ hc) hcode
  have hquote : (CodePoint.char '\x60').is '\x60' = true := by decide
  have htake : (code ++ .char '\x60' :: tail).takeWhile (!·.is '\x60') = code := by
    rw [List.takeWhile_append_of_pos hall]
    simp [hquote]
  have hdrop : (code ++ .char '\x60' :: tail).dropWhile (!·.is '\x60') = .char '\x60' :: tail := by
    rw [List.dropWhile_append_of_pos hall]
    simp [hquote]
  simp only [Comment.readExample?, htake, hdrop]
  obtain ⟨d, code, rfl⟩ := List.exists_cons_of_ne_nil hne
  cases tail <;> rfl

/-- An example comes back from its parts. -/
theorem IsWritable.readExample?_phrases (h : e.IsWritable) :
    Comment.readExample? (unwords e.phrases) = some e := by
  obtain ⟨code, description⟩ := e
  by_cases hd : description = []
  · subst hd
    have hwritten : unwords (phrases ⟨code, []⟩) =
        .char '\x60' :: (code ++ .char '\x60' :: []) := by
      simp [phrases, Comment.phrase, unwords]
    rw [hwritten, readExample?_quoted h.nonempty h.unquoted]
  · have hphrase : IsPhrase description := ⟨h.description, hd⟩
    obtain ⟨c, rest, rfl, hc⟩ := hphrase.head
    have hwritten : unwords (phrases ⟨code, c :: rest⟩) =
        .char '\x60' :: (code ++ .char '\x60' :: .char ' ' :: c :: rest) := by
      simp [phrases, Comment.phrase, unwords, Text.joinWith]
    have hblank : Text.isBlank (.char ' ') = true := by decide
    rw [hwritten, readExample?_quoted h.nonempty h.unquoted]
    simp [hblank, hc]

end Example

namespace Comment.Line

/-- A line as it is typed. -/
def write : Line → Text
  | usage text => Tag.usage.line [text]
  | arg name description => Tag.arg.line (name :: phrase description)
  | option o => Tag.opt.line o.phrases
  | .example e => Tag.example.line e.phrases
  | dropped line | prose line => line

/-- The line can be written so that reading gives it back.  Lines that say nothing
are not written. -/
def IsWritable : Line → Prop
  | usage text => IsPhrase text
  | arg name description =>
    (name ≠ [] ∧ ∀ c ∈ name, Text.isBlank c = false) ∧ IsInline description
  | option o => o.IsWritable
  | .example e => e.IsWritable
  | dropped _ => False
  | prose line => IsContent line ∧ looksTagged line = false

instance : (line : Line) → Decidable line.IsWritable
  | usage text => inferInstanceAs (Decidable (IsPhrase text))
  | arg name description => inferInstanceAs (Decidable
      ((name ≠ [] ∧ ∀ c ∈ name, Text.isBlank c = false) ∧ IsInline description))
  | option o => inferInstanceAs (Decidable o.IsWritable)
  | .example e => inferInstanceAs (Decidable e.IsWritable)
  | dropped _ => inferInstanceAs (Decidable False)
  | prose line => inferInstanceAs (Decidable (IsContent line ∧ looksTagged line = false))

/-- What a written line says is read back from it. -/
theorem ofText_write {line : Line} (h : line.IsWritable) : ofText line.write = line := by
  cases line with
  | usage text =>
    have hphrases : ∀ p ∈ [text], IsPhrase p := fun p hp => List.mem_singleton.mp hp ▸ h
    refine Tag.ofText_line hphrases ?_
    rw [unwords, Text.joinWith_singleton, Tag.read?, if_neg h.nonempty]
  | arg name description =>
    obtain ⟨⟨hne, hname⟩, hdescription⟩ := h
    have hafter : ∀ p ∈ phrase description, IsPhrase p :=
      fun p hp => isPhrase_of_mem_phrase hdescription hp
    have hphrases : ∀ p ∈ name :: phrase description, IsPhrase p := by
      intro p hp
      rcases List.mem_cons.mp hp with rfl | hp
      · exact IsPhrase.of_unblank hne hname
      · exact hafter p hp
    refine Tag.ofText_line hphrases ?_
    rw [Tag.read?, if_neg (Text.isPhrase_unwords (List.cons_ne_nil _ _) hphrases).nonempty,
      Text.cutWord_unwords hname hafter, unwords_phrase]
  | option o =>
    have hne : unwords o.phrases ≠ [] :=
      (Text.isPhrase_unwords h.phrases_ne_nil h.isPhrase).nonempty
    refine Tag.ofText_line h.isPhrase ?_
    rw [Tag.read?, if_neg hne]
    exact congrArg (some ∘ Line.option) h.readOption_phrases
  | «example» e =>
    have hne : unwords e.phrases ≠ [] :=
      (Text.isPhrase_unwords (List.cons_ne_nil _ _) h.isPhrase).nonempty
    refine Tag.ofText_line h.isPhrase ?_
    rw [Tag.read?, if_neg hne]
    exact congrArg (Option.map Line.example) h.readExample?_phrases
  | dropped line => exact h.elim
  | prose line => exact Tag.ofText_of_not_looksTagged h.2

theorem isContent_write {line : Line} (h : line.IsWritable) : IsContent line.write := by
  cases line with
  | usage text => exact Tag.isContent_line fun p hp => List.mem_singleton.mp hp ▸ h
  | arg name description =>
    refine Tag.isContent_line fun p hp => ?_
    rcases List.mem_cons.mp hp with rfl | hp
    · exact IsPhrase.of_unblank h.1.1 h.1.2
    · exact isPhrase_of_mem_phrase h.2 hp
  | option o => exact Tag.isContent_line (CommandOption.IsWritable.isPhrase h)
  | «example» e => exact Tag.isContent_line (Example.IsWritable.isPhrase h)
  | dropped line => exact h.elim
  | prose line => exact h.1

end Comment.Line
end HelpPages
