import HelpPages.Proofs.Comment.TagLine

/-! # Kinds of content lines

A tag has a grammar: its word, a run of blanks, and a body of a form that hangs on the
tag (`Tag.Matches`).  The grammars are pairwise disjoint (`Tag.eq_of_matches`), so the
order in which they are tried decides nothing, and what a line says is of a kind exactly
if the line fits that kind (`Kind.fits_iff`).
-/
namespace HelpPages
namespace Comment

/-- The kinds of things that content lines say. -/
inductive Kind where
  | usage | arg | option | example | dropped | prose
deriving DecidableEq, Repr

/-- The kind of what a line says. -/
def Line.kind : Line → Kind
  | usage _ => .usage
  | arg _ _ => .arg
  | option _ => .option
  | .example _ => .example
  | dropped _ => .dropped
  | prose _ => .prose

/-- Nothing, or something behind a blank. -/
def IsApart (rest : Text) : Prop := ∀ c ∈ rest.head?, Text.isBlank c = true

/-- A letter or a digit, with or without a dash before it, and apart from it whatever is
said about it. -/
def IsFlagged (body : Text) : Prop :=
  ∃ c rest, (body = c :: rest ∨ body = .char '-' :: c :: rest) ∧ isPlain c = true ∧ IsApart rest

/-- Code between backticks, and apart from it whatever is said about it. -/
def IsQuotation (body : Text) : Prop :=
  ∃ code rest, body = .char '\x60' :: (code ++ .char '\x60' :: rest) ∧ code ≠ [] ∧
    CodePoint.char '\x60' ∉ code ∧ IsApart rest

namespace Tag

/-- The line is the word of the tag, a run of blanks, and a body that does not start with
a blank. -/
def Precedes (tag : Tag) (body line : Text) : Prop :=
  ∃ blanks, line = tag.word ++ blanks ++ body ∧ blanks ≠ [] ∧
    (∀ c ∈ blanks, Text.isBlank c = true) ∧ ∃ c ∈ body.head?, Text.isBlank c = false

/-- The bodies of the form that the tag asks for. -/
def Accepts : Tag → Text → Prop
  | flag, body => IsFlagged body
  | .example, body => IsQuotation body
  | _, _ => True

/-- The line is in the grammar of the tag. -/
def Matches (tag : Tag) (line : Text) : Prop := ∃ body, tag.Precedes body line ∧ tag.Accepts body

/-- The kind of what a tag says. -/
def kind : Tag → Kind
  | usage => .usage
  | arg => .arg
  | opt | flag => .option
  | .example => .example

end Tag

/-- What a line of a kind looks like.  A line that looks like a tag and is in the grammar
of none is dropped. -/
def Kind.Fits : Kind → Text → Prop
  | usage, line => Tag.usage.Matches line
  | arg, line => Tag.arg.Matches line
  | option, line => Tag.opt.Matches line ∨ Tag.flag.Matches line
  | .example, line => Tag.example.Matches line
  | dropped, line => looksTagged line = true ∧ ∀ tag : Tag, ¬ tag.Matches line
  | prose, line => looksTagged line = false

/-! ### Words and what stands apart from them -/

/-- What stands behind the first word of a text is apart from it. -/
theorem isApart_dropWord (t : Text) : IsApart (t.dropWhile (!Text.isBlank ·)) := by
  intro c hc
  simpa using Text.not_of_head?_dropWhile hc

theorem IsApart.of_blanks {blanks rest : Text} (hne : blanks ≠ [])
    (h : ∀ c ∈ blanks, Text.isBlank c = true) : IsApart (blanks ++ rest) := by
  intro c hc
  rw [List.head?_append_of_ne_nil _ hne] at hc
  exact h c (List.mem_of_mem_head? hc)

/-- A word is cut off what stands apart from it. -/
theorem IsApart.cutWord {word rest : Text} (h : IsApart rest)
    (hword : ∀ c ∈ word, Text.isBlank c = false) :
    Text.cutWord (word ++ rest) = (word, rest.dropWhile Text.isBlank) := by
  have hink : ∀ c ∈ word, (!Text.isBlank c) = true := fun c hc => by rw [hword c hc]; rfl
  have hrest : rest.dropWhile (!Text.isBlank ·) = rest :=
    Text.dropWhile_eq_self_iff.mpr fun c hc => by rw [h c hc]; rfl
  have hnothing : rest.takeWhile (!Text.isBlank ·) = [] := by
    have hsplit := List.takeWhile_append_dropWhile (p := (!Text.isBlank ·)) (l := rest)
    rwa [hrest, List.append_left_eq_self] at hsplit
  rw [Text.cutWord, List.takeWhile_append_of_pos hink, List.dropWhile_append_of_pos hink, hrest,
    hnothing, List.append_nil]

theorem isBlank_eq_false_of_isPlain {c : CodePoint} (h : isPlain c = true) :
    Text.isBlank c = false :=
  Text.isBlank_eq_false_of_isAlphanum h

/-- A word that is a flag consists of it, with or without a dash. -/
theorem isSome_bareFlag?_iff {word : Text} :
    (bareFlag? word).isSome = true ↔
      ∃ c, (word = [c] ∨ word = [.char '-', c]) ∧ isPlain c = true := by
  constructor
  · intro h
    unfold bareFlag? at h
    split at h
    · next c =>
      by_cases hc : isPlain c = true
      · exact ⟨c, Or.inl rfl, hc⟩
      · simp [hc] at h
    · next c =>
      by_cases hc : isPlain c = true
      · exact ⟨c, Or.inr rfl, hc⟩
      · simp [hc] at h
    · cases h
  · rintro ⟨c, rfl | rfl, hc⟩
    · simp [bareFlag?, hc]
    · simp [bareFlag?, hc]

/-- The first word of a body is a flag exactly if the body has the form of flags. -/
theorem isSome_bareFlag?_cutWord_iff {body : Text} :
    (bareFlag? (Text.cutWord body).1).isSome = true ↔ IsFlagged body := by
  constructor
  · intro h
    obtain ⟨c, hword, hc⟩ := isSome_bareFlag?_iff.mp h
    have hbody : body = (Text.cutWord body).1 ++ body.dropWhile (!Text.isBlank ·) :=
      List.takeWhile_append_dropWhile.symm
    refine ⟨c, body.dropWhile (!Text.isBlank ·), ?_, hc, isApart_dropWord body⟩
    rcases hword with hword | hword
    · exact Or.inl (by rwa [hword] at hbody)
    · exact Or.inr (by rwa [hword] at hbody)
  · rintro ⟨c, rest, hbody, hc, hrest⟩
    have hink := isBlank_eq_false_of_isPlain hc
    refine isSome_bareFlag?_iff.mpr ⟨c, ?_, hc⟩
    rcases hbody with rfl | rfl
    · have hword : ∀ d ∈ [c], Text.isBlank d = false := List.forall_mem_singleton.mpr hink
      exact Or.inl (congrArg Prod.fst (hrest.cutWord hword))
    · have hdash : Text.isBlank (.char '-') = false := by decide
      have hword : ∀ d ∈ [.char '-', c], Text.isBlank d = false :=
        List.forall_mem_cons.mpr ⟨hdash, List.forall_mem_singleton.mpr hink⟩
      exact Or.inr (congrArg Prod.fst (hrest.cutWord hword))

/-- A body is read as an example exactly if it has the form of examples. -/
theorem isSome_readExample?_iff {body : Text} :
    (readExample? body).isSome = true ↔ IsQuotation body := by
  constructor
  · intro h
    unfold readExample? at h
    split at h
    · next rest =>
      have hsplit : rest.takeWhile (!·.is '\x60') ++ rest.dropWhile (!·.is '\x60') = rest :=
        List.takeWhile_append_dropWhile
      have hcode : CodePoint.char '\x60' ∉ rest.takeWhile (!·.is '\x60') := fun hmem =>
        absurd (List.mem_takeWhile_imp hmem) (by decide)
      split at h
      · cases h
      · next hdrop hne =>
        rw [hdrop] at hsplit
        exact ⟨_, [], by rw [hsplit], hne, hcode, nofun⟩
      · next c tail hdrop hne =>
        rw [hdrop] at hsplit
        by_cases hc : Text.isBlank c = true
        · refine ⟨_, c :: tail, by rw [hsplit], hne, hcode, ?_⟩
          intro d hd
          cases hd
          exact hc
        · simp [hc] at h
      · cases h
    · cases h
  · rintro ⟨code, rest, rfl, hne, hcode, hrest⟩
    rw [Example.readExample?_quoted hne hcode]
    cases rest with
    | nil => rfl
    | cons c rest => simp [hrest c rfl]

/-! ### Tags -/

namespace Tag

/-- A tag precedes a body exactly if it is the first word of the line, and the body what
follows that word. -/
theorem precedes_iff {tag : Tag} {body line : Text} :
    tag.Precedes body line ↔
      ofWord? (Text.cutWord line).1 = some tag ∧ (Text.cutWord line).2 = body ∧ body ≠ [] := by
  constructor
  · rintro ⟨blanks, rfl, hne, hblanks, c, hc, hink⟩
    have hbody : body.dropWhile Text.isBlank = body :=
      Text.dropWhile_eq_self_iff.mpr fun d hd => by rwa [Option.mem_unique hd hc]
    have hapart : IsApart (blanks ++ body) := IsApart.of_blanks hne hblanks
    have hcut := hapart.cutWord tag.word_unblank
    rw [List.dropWhile_append_of_pos hblanks, hbody, ← List.append_assoc] at hcut
    rw [hcut]
    refine ⟨ofWord?_word tag, rfl, ?_⟩
    rintro rfl
    cases hc
  · rintro ⟨hword, rfl, hne⟩
    have hline : line = tag.word ++ line.dropWhile (!Text.isBlank ·) := by
      rw [← eq_word_of_ofWord? hword]
      exact List.takeWhile_append_dropWhile.symm
    have hrest : line.dropWhile (!Text.isBlank ·) =
        (line.dropWhile (!Text.isBlank ·)).takeWhile Text.isBlank ++ (Text.cutWord line).2 :=
      List.takeWhile_append_dropWhile.symm
    obtain ⟨c, body, hbody⟩ := List.exists_cons_of_ne_nil hne
    have hc : c ∈ (Text.cutWord line).2.head? := by rw [hbody]; rfl
    have hink : Text.isBlank c = false := Text.not_of_head?_dropWhile hc
    refine ⟨(line.dropWhile (!Text.isBlank ·)).takeWhile Text.isBlank, ?_, fun hnil => ?_,
      fun d hd => List.mem_takeWhile_imp hd, c, hc, hink⟩
    · rw [List.append_assoc, ← hrest, ← hline]
    · -- without blanks the body would start behind a blank
      rw [hnil, List.nil_append] at hrest
      rw [isApart_dropWord line c (hrest ▸ hc)] at hink
      cases hink

/-- A tag reads the bodies that it accepts. -/
theorem isSome_read?_iff {tag : Tag} {body : Text} :
    (tag.read? body).isSome = true ↔ body ≠ [] ∧ tag.Accepts body := by
  by_cases hbody : body = []
  · simp [read?, hbody]
  · cases tag with
    | usage => simp [read?, hbody, Accepts]
    | arg => simp [read?, hbody, Accepts]
    | opt => simp [read?, hbody, Accepts]
    | flag =>
      have hread : (flag.read? body).isSome = (bareFlag? (Text.cutWord body).1).isSome := by
        simp only [read?, if_neg hbody]
        cases bareFlag? (Text.cutWord body).1 <;> rfl
      rw [hread, isSome_bareFlag?_cutWord_iff]
      exact (and_iff_right hbody).symm
    | «example» =>
      rw [read?, if_neg hbody, Option.isSome_map, isSome_readExample?_iff]
      exact (and_iff_right hbody).symm

/-- What a tag reads is of its kind. -/
theorem kind_of_read? {tag : Tag} {body : Text} {said : Line} (h : tag.read? body = some said) :
    said.kind = tag.kind := by
  unfold read? at h
  split at h
  · cases h
  · cases tag with
    | usage => cases h; rfl
    | arg => cases h; rfl
    | opt => cases h; rfl
    | flag => obtain ⟨flag, -, rfl⟩ := Option.map_eq_some_iff.mp h; rfl
    | «example» => obtain ⟨e, -, rfl⟩ := Option.map_eq_some_iff.mp h; rfl

/-- A line is in the grammar of a tag exactly if the tag is its first word and reads what
follows. -/
theorem matches_iff {tag : Tag} {line : Text} :
    tag.Matches line ↔ ofWord? (Text.cutWord line).1 = some tag ∧
      (tag.read? (Text.cutWord line).2).isSome = true := by
  rw [isSome_read?_iff]
  constructor
  · rintro ⟨body, hprecedes, haccepts⟩
    obtain ⟨hword, rfl, hne⟩ := precedes_iff.mp hprecedes
    exact ⟨hword, hne, haccepts⟩
  · rintro ⟨hword, hne, haccepts⟩
    exact ⟨_, precedes_iff.mpr ⟨hword, rfl, hne⟩, haccepts⟩

/-- No line is in the grammars of two tags. -/
theorem eq_of_matches {tag other : Tag} {line : Text} (h : tag.Matches line)
    (hother : other.Matches line) : tag = other := by
  have hword := (matches_iff.mp h).1
  rw [(matches_iff.mp hother).1] at hword
  exact (Option.some.inj hword).symm

/-- A line in the grammar of a tag says something of the kind of the tag. -/
theorem kind_ofText_of_matches {tag : Tag} {line : Text} (h : tag.Matches line) :
    (Line.ofText line).kind = tag.kind := by
  obtain ⟨hword, hread⟩ := matches_iff.mp h
  obtain ⟨said, hsaid⟩ := Option.isSome_iff_exists.mp hread
  have hline : Line.ofText line = said := by
    simp only [Line.ofText, hword, Option.bind_some, hsaid]
  rw [hline, kind_of_read? hsaid]

/-- A line in the grammar of no tag is dropped if it looks like a tag, and prose
otherwise. -/
theorem kind_ofText_of_not_matches {line : Text} (h : ∀ tag : Tag, ¬ tag.Matches line) :
    (Line.ofText line).kind = if looksTagged line = true then .dropped else .prose := by
  have hnothing : (ofWord? (Text.cutWord line).1).bind (·.read? (Text.cutWord line).2) = none := by
    cases hword : ofWord? (Text.cutWord line).1 with
    | none => rfl
    | some tag =>
      rw [Option.bind_some, ← Option.not_isSome_iff_eq_none]
      exact fun hread => h tag (matches_iff.mpr ⟨hword, hread⟩)
  simp only [Line.ofText, hnothing]
  split <;> rfl

theorem looksTagged_of_matches {tag : Tag} {line : Text} (h : tag.Matches line) :
    looksTagged line = true :=
  looksTagged_of_ofWord? (matches_iff.mp h).1

end Tag

/-! ### Kinds -/

/-- **What a line says is of a kind exactly if the line fits that kind.** -/
theorem Kind.fits_iff {kind : Kind} {line : Text} :
    kind.Fits line ↔ (Line.ofText line).kind = kind := by
  by_cases hmatches : ∃ tag : Tag, tag.Matches line
  · obtain ⟨tag, htag⟩ := hmatches
    have hother : ∀ other : Tag, other.Matches line ↔ other = tag := fun other =>
      ⟨fun h => Tag.eq_of_matches h htag, fun h => h ▸ htag⟩
    have hnone : ¬ ∀ other : Tag, ¬ other.Matches line := fun h => h tag htag
    rw [Tag.kind_ofText_of_matches htag]
    cases kind <;> cases tag <;>
      simp [Kind.Fits, hother, Tag.kind, Tag.looksTagged_of_matches htag]
  · have hnone : ∀ tag : Tag, ¬ tag.Matches line := not_exists.mp hmatches
    rw [Tag.kind_ofText_of_not_matches hnone]
    cases kind <;> cases hlooks : looksTagged line <;> simp [Kind.Fits, hnone, hlooks]

instance (kind : Kind) (line : Text) : Decidable (kind.Fits line) :=
  decidable_of_iff _ Kind.fits_iff.symm

end Comment
end HelpPages
