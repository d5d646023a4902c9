import HelpPages.Proofs.Comment.Kind
import HelpPages.Proofs.Text.Pattern

/-! # The patterns of the tags

Each tag has a pattern, and a line says what the first tag reads whose pattern matches it
(`Line.ofPatterns`).  The patterns leave a search many choices: how much of a run of blanks is
taken, where a name ends, which of the optional parts are there.  On a clean line none of the
choices can be made otherwise with success, so the search comes to the words of the line, and
what the patterns find is what is read word by word (`Line.ofPatterns_eq`).
-/
namespace HelpPages
namespace Comment

open Pattern (inOrder FailsAt)

/-- The parts of a line that a pattern keeps. -/
inductive Group where
  | text | name | longName | flag | code | description
deriving DecidableEq, Repr

/-- A code point within a line. -/
def isInner (c : CodePoint) : Bool := c ≠ .char '\n'

/-- A code point of a word. -/
def isInk (c : CodePoint) : Bool := !Text.isBlank c

/-- A code point of the code between backticks. -/
def isQuoted (c : CodePoint) : Bool := !c.is '\x60'

/-- A run of blanks. -/
def blanks : Pattern Group := .run Text.isBlank

/-- Perhaps a description behind blanks, and then the end of the line. -/
def described : Pattern Group :=
  inOrder [
    .optional (inOrder [blanks, .group .description (.optional (.run isInner))]),
    .ending]

/-- A long name without dashes before it. -/
def bareName : Pattern Group :=
  inOrder [.notAhead (.literal "-"), .group .longName (.run isNameChar)]

/-- A long name, with or without two dashes before it. -/
def nameLabel : Pattern Group := inOrder [.optional (.literal "--"), bareName]

/-- The end of a word, which is not taken. -/
def wordEnd : Pattern Group := .ahead (.either (.one Text.isBlank) .ending)

/-- A dash and a flag, and then the end of the word. -/
def flagLabel : Pattern Group :=
  inOrder [.literal "-", .group .flag (.one Text.isWordChar), wordEnd]

namespace Tag

/-- What stands behind the word of a tag. -/
def tail : Tag → Pattern Group
  | usage => inOrder [blanks, .group .text (.run isInner), .ending]
  | arg => inOrder [blanks, .group .name (.run isInk), described]
  | opt => inOrder [.ahead (.one Text.isBlank), .optional (inOrder [blanks, nameLabel]),
      .optional (inOrder [blanks, flagLabel]), described]
  | flag => inOrder [blanks, .optional (.literal "-"), .group .flag (.one isPlain), described]
  | .example =>
    inOrder [blanks, .literal "\x60", .group .code (.run isQuoted), .literal "\x60", described]

/-- The pattern of the lines of a tag. -/
def pattern (tag : Tag) : Pattern Group := inOrder [.literal tag.word, tag.tail]

/-- What a line of a tag says by its groups. -/
def ofGroups (tag : Tag) (groups : List (Group × Text)) : Line :=
  let get (group : Group) : Text := (groups.lookup group).getD []
  match tag with
  | usage => .usage (get .text)
  | arg => .arg (get .name) (get .description)
  | opt | flag => .option
    { longName := groups.lookup .longName
      flag := groups.lookup .flag
      description := get .description }
  | .example => .example { code := get .code, description := get .description }

/-- What a line says if it matches the pattern of a tag. -/
def find? (tag : Tag) (line : Text) : Option Line := (tag.pattern.groups? line).map tag.ofGroups

end Tag

/-- The pattern of everything that looks like a tag. -/
def anyTag : Pattern Group := inOrder [.literal "@", .run isTagChar]

/-- What a line says by the first pattern that it matches. -/
def Line.ofPatterns (line : Text) : Line :=
  match [Tag.usage, .arg, .opt, .flag, .example].findSome? (·.find? line) with
  | some said => said
  | none => if (anyTag.groups? line).isSome then .dropped line else .prose line

/-! ### Descriptions -/

/-- The groups of what stands apart behind the other parts of a line. -/
def groupsApart (rest : Text) : List (Group × Text) :=
  if rest = [] then [] else [(.description, rest.dropWhile Text.isBlank)]

theorem lookup_groupsApart (rest : Text) :
    ((groupsApart rest).lookup .description).getD [] = rest.dropWhile Text.isBlank := by
  by_cases hrest : rest = []
  · rw [groupsApart, if_pos hrest, hrest]; rfl
  · rw [groupsApart, if_neg hrest]; rfl

theorem lookup_groupsApart_of_ne {group : Group} (h : group ≠ .description) (rest : Text) :
    (groupsApart rest).lookup group = none := by
  by_cases hrest : rest = []
  · rw [groupsApart, if_pos hrest]; rfl
  · rw [groupsApart, if_neg hrest, List.lookup_cons, beq_eq_false_iff_ne.mpr h]; rfl

theorem isInner_of_mem {t : Text} (oneLine : CodePoint.char '\n' ∉ t) {c : CodePoint}
    (hc : c ∈ t) : isInner c = true :=
  decide_eq_true fun he => oneLine (he ▸ hc)

/-- A run within a line takes all that is left of the line first. -/
theorem isGreedy_inner {t : Text} (hne : t ≠ []) (oneLine : CodePoint.char '\n' ∉ t) :
    (Pattern.run isInner : Pattern Group).IsGreedy isInner t ⟨t, [], []⟩ := by
  have hinner : ∀ c ∈ t, isInner c = true := fun c hc => isInner_of_mem oneLine hc
  obtain ⟨c, t, rfl⟩ := List.exists_cons_of_ne_nil hne
  have hgreedy := Pattern.isGreedy_run (κ := Group) (hinner c (List.mem_cons_self ..)) t
  rwa [List.takeWhile_eq_self_iff.mpr hinner, List.dropWhile_eq_nil_iff.mpr hinner] at hgreedy

theorem isGreedy_optional_inner {t : Text} (oneLine : CodePoint.char '\n' ∉ t) :
    (Pattern.optional (.run isInner) : Pattern Group).IsGreedy isInner t ⟨t, [], []⟩ := by
  cases t with
  | nil => exact ⟨[], rfl, nofun⟩
  | cons c t =>
    have hc : isInner c = true := isInner_of_mem oneLine (List.mem_cons_self ..)
    exact (isGreedy_inner (List.cons_ne_nil _ _) oneLine).optional hc

theorem failsAt_ending : (Pattern.ending : Pattern Group).FailsAt isInner := by
  intro c rest hc
  refine Pattern.groups?_eq_none_iff.mpr (if_neg ?_)
  rintro (h | h)
  · cases h
  · exact of_decide_eq_true hc (List.cons.inj h).1

/-- What is said apart from the other parts is the description. -/
theorem groups?_described {rest : Text} (oneLine : CodePoint.char '\n' ∉ rest)
    (h : IsApart rest) : described.groups? rest = some (groupsApart rest) := by
  cases rest with
  | nil => rfl
  | cons c rest =>
    have hbody : CodePoint.char '\n' ∉ (c :: rest).dropWhile Text.isBlank := fun hmem =>
      oneLine ((List.dropWhile_suffix _).subset hmem)
    have hend : (Pattern.ending : Pattern Group).groups? [] = some [] := rfl
    -- the longest run of blanks is tried first, and then all that follows
    have hdescription := (isGreedy_optional_inner hbody).group .description
      |>.groups?_seq_of_some hend
    have hblanks := (Pattern.isGreedy_run (h c rfl) rest).groups?_seq_of_some hdescription
    show (Pattern.seq (.optional (.seq blanks (.group .description (.optional (.run isInner)))))
      .ending).groups? (c :: rest) = _
    rw [Pattern.groups?_optional_seq, Pattern.groups?_seq_assoc, blanks, hblanks]
    rfl

theorem isBlank_of_isInk {c : CodePoint} (h : isInk c = true) : Text.isBlank c = false := by
  simpa [isInk] using h

theorem isInner_of_isInk {c : CodePoint} (h : isInk c = true) : isInner c = true :=
  decide_eq_true fun he => by
    rw [he] at h
    cases h

/-- Nothing can be said that is not apart from the other parts. -/
theorem failsAt_described : described.FailsAt isInk :=
  Pattern.failsAt_optional
    (Pattern.failsAt_seq_assoc (Pattern.failsAt_run (fun _ => isBlank_of_isInk) _))
    fun c rest hc => failsAt_ending c rest (isInner_of_isInk hc)

theorem groups?_of_not_isApart {q : Pattern Group} (fails : q.FailsAt isInk) {rest : Text}
    (h : ¬ IsApart rest) : q.groups? rest = none := by
  cases rest with
  | nil => exact absurd nofun h
  | cons c rest =>
    refine fails c rest (by_contra fun hc => h fun d hd => ?_)
    rw [← Option.mem_some.mp hd]
    simpa [isInk] using hc

/-! ### Words -/

/-- The first word of a text, and what stands apart from it. -/
theorem exists_word (t : Text) :
    ∃ word rest, t = word ++ rest ∧ (∀ c ∈ word, Text.isBlank c = false) ∧ IsApart rest ∧
      Text.cutWord t = (word, rest.dropWhile Text.isBlank) := by
  refine ⟨_, _, List.takeWhile_append_dropWhile.symm, fun c hc => ?_, isApart_dropWord t, rfl⟩
  simpa using List.mem_takeWhile_imp hc

/-- A word of a kind is the longest run of that kind if the kind ends with it. -/
theorem takeWhile_word {word rest : Text} (kind : CodePoint → Bool)
    (hword : ∀ c ∈ word, kind c = true) (hrest : ∀ c ∈ rest.head?, kind c = false) :
    (word ++ rest).takeWhile kind = word ∧ (word ++ rest).dropWhile kind = rest := by
  have hdrop : rest.dropWhile kind = rest := Text.dropWhile_eq_self_iff.mpr hrest
  have htake : rest.takeWhile kind = [] := by
    have hsplit := List.takeWhile_append_dropWhile (p := kind) (l := rest)
    rwa [hdrop, List.append_left_eq_self] at hsplit
  rw [List.takeWhile_append_of_pos hword, List.dropWhile_append_of_pos hword, hdrop, htake,
    List.append_nil]
  exact ⟨rfl, rfl⟩

theorem isInk_of_isBlank_eq_false {c : CodePoint} (h : Text.isBlank c = false) :
    isInk c = true := by
  rw [isInk, h]
  rfl

theorem IsApart.isInk_eq_false {rest : Text} (h : IsApart rest) :
    ∀ c ∈ rest.head?, isInk c = false := fun c hc => by
  rw [isInk, h c hc]
  rfl

/-- Behind blanks the search goes on at the next word, if the rest of the pattern has no use
for blanks. -/
theorem groups?_blanks_seq {q : Pattern Group} (fails : q.FailsAt Text.isBlank) {c : CodePoint}
    (hc : Text.isBlank c = true) (rest : Text) :
    (blanks.seq q).groups? (c :: rest) = q.groups? ((c :: rest).dropWhile Text.isBlank) :=
  Pattern.groups?_run_seq hc fails rest

theorem groups?_blanks_seq_of_not {q : Pattern Group} {s : Text}
    (h : ∀ c ∈ s.head?, Text.isBlank c = false) : (blanks.seq q).groups? s = none :=
  Pattern.groups?_seq_of_nil (Pattern.finds_run_of_not h)

/-! ### The tags -/

namespace Tag

variable {body : Text}

/-- The text of a usage line is all that is left of the line. -/
theorem groups?_text (hne : body ≠ []) (oneLine : CodePoint.char '\n' ∉ body) :
    ((Pattern.group Group.text (.run isInner)).seq .ending).groups? body =
      some [(.text, body)] := by
  have hend : (Pattern.ending : Pattern Group).groups? [] = some [] := rfl
  exact (isGreedy_inner hne oneLine).group .text |>.groups?_seq_of_some hend

/-- The name of an argument is the first word of the body, and the description stands behind
it. -/
theorem read_arg (hbody : ∃ c ∈ body.head?, Text.isBlank c = false)
    (oneLine : CodePoint.char '\n' ∉ body) :
    (((Pattern.group Group.name (.run isInk)).seq described).groups? body).map arg.ofGroups =
      arg.read? body := by
  obtain ⟨c, hc, hink⟩ := hbody
  obtain ⟨tail, htail⟩ := List.head?_eq_some_iff.mp hc
  have hne : body ≠ [] := htail ▸ List.cons_ne_nil _ _
  obtain ⟨word, rest, hsplit, hword, hrest, hcut⟩ := exists_word body
  obtain ⟨htake, hdrop⟩ := takeWhile_word isInk
    (fun c hc => isInk_of_isBlank_eq_false (hword c hc)) hrest.isInk_eq_false
  have hline : CodePoint.char '\n' ∉ rest := fun hmem =>
    oneLine (hsplit ▸ List.mem_append_right _ hmem)
  have hname : ((Pattern.group Group.name (.run isInk)).seq described).groups? body =
      some ((.name, word) :: groupsApart rest) := by
    rw [htail, Pattern.groups?_group_run_seq (isInk_of_isBlank_eq_false hink) failsAt_described,
      ← htail, hsplit, hdrop, htake, groups?_described hline hrest]
    rfl
  rw [hname, read?, if_neg hne, hcut, ← lookup_groupsApart]
  rfl

/-- A letter or digit, and then a description. -/
def letterDescribed : Pattern Group := inOrder [.group .flag (.one isPlain), described]

/-- Code up to the backtick that closes it, and then a description. -/
def codeDescribed : Pattern Group :=
  inOrder [.group .code (.run isQuoted), .literal "\x60", described]

/-- A letter and what is said about it. -/
theorem groups?_letter {c : CodePoint} {rest : Text} (oneLine : CodePoint.char '\n' ∉ rest)
    (hc : isPlain c = true) (hrest : IsApart rest) :
    letterDescribed.groups? (c :: rest) = some ((.flag, [c]) :: groupsApart rest) := by
  rw [letterDescribed, inOrder, inOrder, Pattern.groups?_group_one_cons, if_pos hc,
    groups?_described oneLine hrest]
  rfl

theorem groups?_letter_of_not {t : Text}
    (h : ¬ ∃ c rest, t = c :: rest ∧ isPlain c = true ∧ IsApart rest) :
    letterDescribed.groups? t = none := by
  cases t with
  | nil => rfl
  | cons c rest =>
    rw [letterDescribed, inOrder, inOrder, Pattern.groups?_group_one_cons]
    split
    · next hc =>
      rw [groups?_of_not_isApart failsAt_described fun hrest => h ⟨c, rest, rfl, hc, hrest⟩]
      rfl
    · rfl

theorem bareFlag?_letter {c : CodePoint} (hc : isPlain c = true) :
    bareFlag? [c] = some [c] ∧ bareFlag? [.char '-', c] = some [c] := by
  simp [bareFlag?, hc]

/-- The groups of an option, with what stands apart behind its labels. -/
def optionGroups (longName flag : Option Text) (rest : Text) : List (Group × Text) :=
  longName.toList.map (Group.longName, ·) ++ flag.toList.map (Group.flag, ·) ++ groupsApart rest

theorem ofGroups_optionGroups (tag : Tag) (h : tag.kind = .option) (longName flag : Option Text)
    (rest : Text) :
    tag.ofGroups (optionGroups longName flag rest) =
      .option { longName, flag, description := rest.dropWhile Text.isBlank } := by
  have hdescription := lookup_groupsApart rest
  have hlong := lookup_groupsApart_of_ne (show Group.longName ≠ .description by decide) rest
  have hflag := lookup_groupsApart_of_ne (show Group.flag ≠ .description by decide) rest
  have hne : (Group.longName == Group.flag) = false ∧ (Group.flag == Group.longName) = false ∧
    (Group.description == Group.flag) = false ∧ (Group.description == Group.longName) = false := by
    decide
  cases tag with
  | opt | flag =>
    cases longName <;> cases flag <;>
      simp [ofGroups, optionGroups, List.lookup_cons, hdescription, hlong, hflag, hne]
  | usage | arg | «example» => cases h

/-- The flag of a flag line is the first word of the body, with or without a dash. -/
theorem read_flag (hne : body ≠ []) (oneLine : CodePoint.char '\n' ∉ body) :
    (((Pattern.literal "-").optional.seq letterDescribed).groups? body).map flag.ofGroups =
      flag.read? body := by
  have hdash : ∀ t : Text, ((Pattern.literal "-").seq letterDescribed).groups? (.char '-' :: t) =
      letterDescribed.groups? t := fun t => Pattern.groups?_literal_cons_self (.char '-') t _
  rw [Pattern.groups?_optional_seq, read?, if_neg hne]
  by_cases hflagged : IsFlagged body
  · obtain ⟨c, rest, hbody, hc, hrest⟩ := hflagged
    have hline : CodePoint.char '\n' ∉ rest := fun hmem => by
      rcases hbody with rfl | rfl
      · exact oneLine (List.mem_cons_of_mem _ hmem)
      · exact oneLine (List.mem_cons_of_mem _ (List.mem_cons_of_mem _ hmem))
    have hsaid := ofGroups_optionGroups .flag rfl none (some [c]) rest
    have hink : Text.isBlank c = false := isBlank_eq_false_of_isPlain hc
    rcases hbody with rfl | rfl
    · have hundashed : ¬ ((("-" : String) : Text) <+: c :: rest) := by
        rintro ⟨u, hu⟩
        rw [← (List.cons.inj hu).1] at hc
        cases hc
      have hcut := hrest.cutWord (List.forall_mem_singleton.mpr hink)
      rw [List.singleton_append] at hcut
      rw [Pattern.groups?_literal_of_not_prefix hundashed, groups?_letter hline hc hrest, hcut]
      simp only [(bareFlag?_letter hc).1]
      exact congrArg some hsaid
    · have hblank : Text.isBlank (.char '-') = false := by decide
      have hword : ∀ d ∈ [.char '-', c], Text.isBlank d = false :=
        List.forall_mem_cons.mpr ⟨hblank, List.forall_mem_singleton.mpr hink⟩
      have hcut := hrest.cutWord hword
      rw [List.cons_append, List.singleton_append] at hcut
      rw [hdash, groups?_letter hline hc hrest, hcut]
      simp only [(bareFlag?_letter hc).2]
      exact congrArg some hsaid
  · have hnoFlag : bareFlag? (Text.cutWord body).1 = none :=
      Option.not_isSome_iff_eq_none.mp (mt isSome_bareFlag?_cutWord_iff.mp hflagged)
    have hundashed : ((Pattern.literal "-").seq letterDescribed).groups? body = none := by
      by_cases hprefix : (("-" : String) : Text) <+: body
      · obtain ⟨t, rfl⟩ := hprefix
        refine (hdash t).trans (groups?_letter_of_not ?_)
        rintro ⟨c, rest, rfl, hc, hrest⟩
        exact hflagged ⟨c, rest, .inr rfl, hc, hrest⟩
      · exact Pattern.groups?_literal_of_not_prefix hprefix _
    have hbare : letterDescribed.groups? body = none := by
      refine groups?_letter_of_not ?_
      rintro ⟨c, rest, rfl, hc, hrest⟩
      exact hflagged ⟨c, rest, .inl rfl, hc, hrest⟩
    simp only [hundashed, hbare, hnoFlag]
    rfl

/-- Code that is not closed, or has something right behind its end, is no code. -/
theorem groups?_code_of_not {t : Text}
    (h : ¬ ∃ code rest, t = code ++ .char '\x60' :: rest ∧ code ≠ [] ∧
      CodePoint.char '\x60' ∉ code ∧ IsApart rest) : codeDescribed.groups? t = none := by
  have hfails : ((Pattern.literal "\x60").seq described).FailsAt isQuoted :=
    Pattern.failsAt_literal (by decide) described
  rw [codeDescribed, inOrder, inOrder, inOrder]
  cases t with
  | nil => rfl
  | cons c t =>
    by_cases hc : isQuoted c = true
    · rw [Pattern.groups?_group_run_seq hc hfails, Option.map_eq_none_iff]
      have hsplit : (c :: t).takeWhile isQuoted ++ (c :: t).dropWhile isQuoted = c :: t :=
        List.takeWhile_append_dropWhile
      by_cases hprefix : (("\x60" : String) : Text) <+: (c :: t).dropWhile isQuoted
      · obtain ⟨rest, hrest⟩ := hprefix
        rw [← hrest, Pattern.groups?_literal_append]
        refine groups?_of_not_isApart failsAt_described fun hapart =>
          h ⟨(c :: t).takeWhile isQuoted, rest, hsplit.symm.trans (by rw [← hrest]; rfl), ?_,
            fun hmem => ?_, hapart⟩
        · rw [List.takeWhile_cons_of_pos hc]
          exact List.cons_ne_nil _ _
        · exact absurd (List.mem_takeWhile_imp hmem) (by decide)
      · exact Pattern.groups?_literal_of_not_prefix hprefix _
    · exact Pattern.groups?_group_run_seq_of_not (Bool.eq_false_iff.mpr hc) t _

/-- The example of an example line is the code between the backticks, with what is said
apart from it. -/
theorem read_example (hne : body ≠ []) (oneLine : CodePoint.char '\n' ∉ body) :
    (((Pattern.literal "\x60").seq codeDescribed).groups? body).map Tag.example.ofGroups =
      Tag.example.read? body := by
  have hquote : ∀ (q : Pattern Group) (t : Text),
      ((Pattern.literal "\x60").seq q).groups? (.char '\x60' :: t) = q.groups? t := fun q t =>
    Pattern.groups?_literal_cons_self (.char '\x60') t q
  have hfails : ((Pattern.literal "\x60").seq described).FailsAt isQuoted :=
    Pattern.failsAt_literal (by decide) described
  rw [read?, if_neg hne]
  by_cases hquotation : IsQuotation body
  · obtain ⟨code, rest, rfl, hcode, hunquoted, hrest⟩ := hquotation
    have hline : CodePoint.char '\n' ∉ rest := fun hmem => oneLine (by simp [hmem])
    have hinside : ∀ c ∈ code, isQuoted c = true := fun c hc => by
      have hne : c ≠ .char '\x60' := fun he => hunquoted (he ▸ hc)
      rw [isQuoted, Bool.eq_false_iff.mpr (mt CodePoint.is_iff.mp hne)]
      rfl
    have hclosing : ∀ c ∈ (.char '\x60' :: rest : Text).head?, isQuoted c = false := fun c hc => by
      rw [← Option.mem_some.mp hc]
      rfl
    obtain ⟨htake, hdrop⟩ := takeWhile_word isQuoted hinside hclosing
    obtain ⟨d, code, rfl⟩ := List.exists_cons_of_ne_nil hcode
    have hcodeGroup : codeDescribed.groups? (d :: code ++ .char '\x60' :: rest) =
        some ((.code, d :: code) :: groupsApart rest) := by
      have hd : isQuoted d = true := hinside d (List.mem_cons_self ..)
      rw [codeDescribed, inOrder, inOrder, inOrder, List.cons_append,
        Pattern.groups?_group_run_seq hd hfails, ← List.cons_append, hdrop, htake, hquote,
        groups?_described hline hrest]
      rfl
    rw [hquote, hcodeGroup, Example.readExample?_quoted hcode hunquoted]
    cases rest with
    | nil => rfl
    | cons c rest =>
      have hc : Text.isBlank c = true := hrest c rfl
      have hsaid := lookup_groupsApart (c :: rest)
      rw [List.dropWhile_cons_of_pos hc] at hsaid
      have hne : (Group.description == .code) = false := rfl
      simp [ofGroups, List.lookup_cons, hc, hsaid, hne]
  · have hnothing : readExample? body = none :=
      Option.not_isSome_iff_eq_none.mp (mt isSome_readExample?_iff.mp hquotation)
    have hunread : ((Pattern.literal "\x60").seq codeDescribed).groups? body = none := by
      by_cases hprefix : (("\x60" : String) : Text) <+: body
      · obtain ⟨t, rfl⟩ := hprefix
        refine (hquote _ t).trans (groups?_code_of_not ?_)
        rintro ⟨code, rest, rfl, hne, hunquoted, hrest⟩
        exact hquotation ⟨code, rest, rfl, hne, hunquoted, hrest⟩
      · exact Pattern.groups?_literal_of_not_prefix hprefix _
    rw [hnothing, hunread]
    rfl

end Tag

end Comment
end HelpPages
