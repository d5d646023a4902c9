import HelpPages.Proofs.Comment.OptionLine

/-! # What content lines are used for

The patterns of the five tags are tried one after the other, and a line that none of them
matches is dropped if it looks like a tag and belongs to the description otherwise.  Seven
uses come out of this, and every content line has exactly one of them
(`existsUnique_takes`): at most one pattern matches, whatever the order, and a line that a
pattern matches looks like a tag.  So the lines of a kind are found by the patterns of that
kind alone (`filterMap_read`), and the other two uses are left to the other lines.
-/
namespace HelpPages
namespace Comment

/-- What a content line is used for. -/
inductive Use where
  /-- The pattern of a tag reads it. -/
  | tag (tag : Tag)
  /-- It looks like a tag and no pattern reads it. -/
  | dropped
  /-- It belongs to the description. -/
  | prose
deriving DecidableEq, Repr

namespace Tag

/-- The tags in the order in which their patterns are tried. -/
def all : List Tag := [.usage, .arg, .opt, .flag, .example]

theorem mem_all (tag : Tag) : tag ∈ all := by
  cases tag <;> decide

/-- The pattern of the tag matches the line. -/
def fits (tag : Tag) (line : Text) : Bool := (tag.pattern.groups? line).isSome

theorem isSome_find? (tag : Tag) (line : Text) : (tag.find? line).isSome = tag.fits line :=
  Option.isSome_map

theorem find?_eq_none_iff {tag : Tag} {line : Text} :
    tag.find? line = none ↔ tag.fits line = false := by
  rw [← isSome_find?, Option.isSome_eq_false_iff, Option.isNone_iff_eq_none]

/-- The pattern of a tag matches a clean line exactly if the line is in the grammar of the tag. -/
theorem fits_iff {tag : Tag} {line : Text} (h : IsClean line) :
    tag.fits line = true ↔ tag.Matches line := by
  rw [← isSome_find?, find?_eq tag h, matches_iff]
  split
  · next hword => exact (and_iff_right hword).symm
  · next hword => exact ⟨nofun, fun h => absurd h.1 hword⟩

end Tag

theorem looksTagged_iff {line : Text} :
    looksTagged line = true ↔
      ∃ c rest, line = .char '@' :: c :: rest ∧ isTagChar c = true := by
  constructor
  · intro h
    unfold looksTagged at h
    split at h
    · next c rest => exact ⟨c, rest, rfl, h⟩
    · cases h
  · rintro ⟨c, rest, rfl, hc⟩
    exact hc

/-- The lines of a use. -/
def Use.takes : Use → Text → Bool
  | tag t, line => t.fits line
  | dropped, line => looksTagged line && !Tag.all.any (·.fits line)
  | prose, line => !looksTagged line

theorem takes_dropped_iff {line : Text} :
    Use.dropped.takes line = true ↔
      looksTagged line = true ∧ ∀ tag : Tag, tag.fits line = false := by
  simp [Use.takes, Tag.mem_all]

/-- What a clean line says: one pattern matches it and says it, or no pattern does, and the line
is dropped or prose. -/
theorem ofText_cases {line : Text} (h : IsClean line) :
    (∃ (tag : Tag) (said : Line), (∀ other : Tag, other.fits line = decide (other = tag)) ∧
      tag.find? line = some said ∧ said.kind = tag.kind ∧ looksTagged line = true ∧
      Line.ofText line = said) ∨
    (∀ tag : Tag, tag.fits line = false) ∧
      Line.ofText line = if looksTagged line = true then .dropped line else .prose line := by
  by_cases hmatches : ∃ tag : Tag, tag.Matches line
  · obtain ⟨tag, htag⟩ := hmatches
    obtain ⟨hword, hread⟩ := Tag.matches_iff.mp htag
    obtain ⟨said, hsaid⟩ := Option.isSome_iff_exists.mp hread
    refine .inl ⟨tag, said, fun other => ?_, ?_, Tag.kind_of_read? hsaid,
      Tag.looksTagged_of_matches htag, ?_⟩
    · rw [Bool.eq_iff_iff, decide_eq_true_iff, Tag.fits_iff h]
      exact ⟨fun hother => Tag.eq_of_matches hother htag, fun he => he ▸ htag⟩
    · rw [Tag.find?_eq tag h, if_pos hword, hsaid]
    · simp only [Line.ofText, hword, Option.bind_some, hsaid]
  · have hnone : ∀ tag : Tag, tag.fits line = false := fun tag =>
      Bool.eq_false_iff.mpr (mt (Tag.fits_iff h).mp (not_exists.mp hmatches tag))
    have hnothing : Tag.all.findSome? (·.find? line) = none :=
      List.findSome?_eq_none_iff.mpr fun tag _ => Tag.find?_eq_none_iff.mpr (hnone tag)
    refine .inr ⟨hnone, ?_⟩
    rw [Tag.all] at hnothing
    rw [← Line.ofPatterns_eq h, Line.ofPatterns, hnothing, isSome_groups?_anyTag]

/-- Every content line has one use and no other. -/
theorem existsUnique_takes {line : Text} (h : IsClean line) :
    ∃! use : Use, use.takes line = true := by
  rcases ofText_cases h with ⟨tag, said, hfits, -, -, hlooks, -⟩ | ⟨hnone, -⟩
  · refine ⟨.tag tag, by simp [Use.takes, hfits], fun use huse => ?_⟩
    cases use with
    | tag other => simpa [Use.takes, hfits] using huse
    | dropped =>
      have hfalse := (takes_dropped_iff.mp huse).2 tag
      simp [hfits] at hfalse
    | prose => simp [Use.takes, hlooks] at huse
  · by_cases hlooks : looksTagged line = true
    · refine ⟨.dropped, takes_dropped_iff.mpr ⟨hlooks, hnone⟩, fun use huse => ?_⟩
      cases use with
      | tag other => simp [Use.takes, hnone] at huse
      | dropped => rfl
      | prose => simp [Use.takes, hlooks] at huse
    · refine ⟨.prose, by simp [Use.takes, hlooks], fun use huse => ?_⟩
      cases use with
      | tag other => simp [Use.takes, hnone] at huse
      | dropped => exact absurd (takes_dropped_iff.mp huse).1 hlooks
      | prose => rfl

/-! ### The lines of a use -/

/-- The tags that say something of a kind. -/
def Kind.tags (kind : Kind) : List Tag := Tag.all.filter (·.kind = kind)

/-- What the patterns for a kind find in a line. -/
def Kind.find? (kind : Kind) (line : Text) : Option Line := kind.tags.findSome? (·.find? line)

theorem Kind.mem_tags {kind : Kind} {tag : Tag} : tag ∈ kind.tags ↔ tag.kind = kind := by
  simp [tags, Tag.mem_all]

/-- If the pattern of one tag matches, the tags among others find what it finds if it is one of
them. -/
theorem findSome?_find? {line : Text} {tag : Tag} {said : Line}
    (hfits : ∀ other : Tag, other.fits line = decide (other = tag))
    (hfind : tag.find? line = some said) (tags : List Tag) :
    tags.findSome? (·.find? line) = if tag ∈ tags then some said else none := by
  induction tags with
  | nil => rfl
  | cons other tags ih =>
    by_cases hother : other = tag
    · rw [List.findSome?_cons, hother, hfind,
        if_pos (List.mem_cons_self ..)]
    · have hnone : other.find? line = none :=
        Tag.find?_eq_none_iff.mpr (by rw [hfits, decide_eq_false hother])
      rw [List.findSome?_cons, hnone, ih]
      simp [Ne.symm hother]

theorem kind_ne_of_tag (tag : Tag) : tag.kind ≠ .dropped ∧ tag.kind ≠ .prose := by
  cases tag <;> decide

/-- The patterns for a kind find what a line says if it is of that kind. -/
theorem Kind.find?_eq {kind : Kind} (tagged : kind.tags ≠ []) {line : Text} (h : IsClean line) :
    kind.find? line = if (Line.ofText line).kind = kind then some (Line.ofText line) else none := by
  rcases ofText_cases h with ⟨tag, said, hfits, hfind, hkind, -, hsaid⟩ | ⟨hnone, hsaid⟩
  · rw [find?, findSome?_find? hfits hfind, hsaid, hkind]
    exact if_congr Kind.mem_tags rfl rfl
  · have hnothing : kind.find? line = none :=
      List.findSome?_eq_none_iff.mpr fun tag _ => Tag.find?_eq_none_iff.mpr (hnone tag)
    obtain ⟨tag, htag⟩ := List.exists_mem_of_ne_nil _ tagged
    obtain ⟨hdropped, hprose⟩ := kind_ne_of_tag tag
    rw [Kind.mem_tags.mp htag] at hdropped hprose
    rw [hnothing, hsaid, if_neg]
    split
    · exact hdropped.symm
    · exact hprose.symm

variable {α : Type}

/-- What only lines of one kind say is found in the lines of a comment by the patterns for that
kind. -/
theorem filterMap_read {part? : Line → Option α} {kind : Kind} (tagged : kind.tags ≠ [])
    (only : ∀ said : Line, said.kind ≠ kind → part? said = none) (comment : Text) :
    (read comment).filterMap part? =
      (lines comment).filterMap fun line => (kind.find? line).bind part? := by
  rw [read, List.filterMap_map]
  refine List.filterMap_congr fun line hline => ?_
  rw [Kind.find?_eq tagged (isClean_of_mem_lines hline)]
  split
  · rfl
  · next hkind => exact only _ hkind

theorem Line.dropped?_of_kind_ne {said : Line} (h : said.kind ≠ .dropped) :
    said.dropped? = none := by
  cases said with
  | dropped line => exact absurd rfl h
  | _ => rfl

theorem Line.prose?_of_kind_ne {said : Line} (h : said.kind ≠ .prose) : said.prose? = none := by
  cases said with
  | prose line => exact absurd rfl h
  | _ => rfl

/-- The lines that are dropped and the lines of the description are those of their uses. -/
theorem dropped?_and_prose?_ofText {line : Text} (h : IsClean line) :
    (Line.ofText line).dropped? = (if Use.dropped.takes line = true then some line else none) ∧
      (Line.ofText line).prose? = if Use.prose.takes line = true then some line else none := by
  rcases ofText_cases h with ⟨tag, said, hfits, -, hkind, hlooks, hsaid⟩ | ⟨hnone, hsaid⟩
  · have hdropped : ¬ Use.dropped.takes line = true := fun htaken => by
      have hunfit := (takes_dropped_iff.mp htaken).2 tag
      simp [hfits] at hunfit
    have hprose : ¬ Use.prose.takes line = true := by simp [Use.takes, hlooks]
    obtain ⟨notDropped, notProse⟩ := kind_ne_of_tag tag
    rw [if_neg hdropped, if_neg hprose, hsaid]
    exact ⟨Line.dropped?_of_kind_ne (hkind ▸ notDropped), Line.prose?_of_kind_ne (hkind ▸ notProse)⟩
  · rw [hsaid]
    by_cases hlooks : looksTagged line = true
    · have hprose : ¬ Use.prose.takes line = true := by simp [Use.takes, hlooks]
      rw [if_pos hlooks, if_pos (takes_dropped_iff.mpr ⟨hlooks, hnone⟩), if_neg hprose]
      exact ⟨rfl, rfl⟩
    · have hprose : Use.prose.takes line = true := by simp [Use.takes, hlooks]
      rw [if_neg hlooks, if_neg fun htaken => hlooks (takes_dropped_iff.mp htaken).1, if_pos hprose]
      exact ⟨rfl, rfl⟩

/-- Lines that are kept as they are make a part of what a comment says. -/
theorem filterMap_read_eq_filter {part? : Line → Option Text} {p : Text → Bool} {comment : Text}
    (kept : ∀ line, IsClean line →
      part? (Line.ofText line) = if p line = true then some line else none) :
    (read comment).filterMap part? = (lines comment).filter p := by
  rw [read, List.filterMap_map, ← List.filterMap_eq_filter]
  refine List.filterMap_congr fun line hline => ?_
  rw [Function.comp_apply, kept line (isClean_of_mem_lines hline), Option.guard]

theorem filterMap_dropped?_read (comment : Text) :
    (read comment).filterMap Line.dropped? = (lines comment).filter Use.dropped.takes :=
  filterMap_read_eq_filter fun _ h => (dropped?_and_prose?_ofText h).1

theorem filterMap_prose?_read (comment : Text) :
    (read comment).filterMap Line.prose? = (lines comment).filter Use.prose.takes :=
  filterMap_read_eq_filter fun _ h => (dropped?_and_prose?_ofText h).2

end Comment
end HelpPages
