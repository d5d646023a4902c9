import HelpPages.Proofs.Comment.Pattern
import HelpPages.Proofs.Page.Remarks

/-! # Lines of options

The pattern of an option line has three parts that may be left out, each behind a run of
blanks.  A part that is taken has to end where a word ends: what follows is either the next
part, which starts with a blank, or the end of the line (`failsAt_described` and its likes).
So no word is split, and the parts come one word after the other (`read_opt`).  With the other
tags, whose patterns are simpler, this makes the patterns of all lines the same as reading word
by word (`Line.ofPatterns_eq`), and an option line adds exactly the option that its words make
(`ofComment_optLine`).
-/
namespace HelpPages
namespace Comment

open Pattern (inOrder)

/-! ### Labels of options -/

/-- A word is a flag exactly if it is a dash and one word character. -/
theorem shortFlag?_eq_some_iff {word flag : Text} :
    shortFlag? word = some flag ↔
      ∃ c, word = [.char '-', c] ∧ Text.isWordChar c = true ∧ flag = [c] := by
  constructor
  · intro h
    unfold shortFlag? at h
    split at h
    · next c =>
      obtain ⟨hc, hflag⟩ := Option.ite_none_right_eq_some.mp h
      exact ⟨c, rfl, hc, (Option.some.inj hflag).symm⟩
    · cases h
  · rintro ⟨c, rfl, hc, rfl⟩
    exact if_pos hc

theorem cutWord_flag {c : CodePoint} {rest : Text} (hc : Text.isWordChar c = true)
    (hrest : IsApart rest) :
    Text.cutWord (.char '-' :: c :: rest) = ([.char '-', c], rest.dropWhile Text.isBlank) := by
  have hdash : Text.isBlank (.char '-') = false := by decide
  exact hrest.cutWord (List.forall_mem_cons.mpr
    ⟨hdash, List.forall_mem_singleton.mpr (Text.isBlank_eq_false_of_isWordChar hc)⟩)

theorem isLongName_iff {name : Text} :
    isLongName name = true ↔
      ∃ d ds, name = d :: ds ∧ d ≠ .char '-' ∧ ∀ c ∈ name, isNameChar c = true := by
  rw [isLongName, Bool.and_eq_true, List.all_eq_true]
  cases name with
  | nil => simp
  | cons d ds =>
    have hdash : (!d.is '-') = true ↔ d ≠ .char '-' := by
      rw [Bool.not_eq_true', Bool.eq_false_iff, ne_eq, CodePoint.is_iff]
    rw [List.head?_cons, Option.any_some, hdash]
    constructor
    · rintro ⟨hall, hd⟩
      exact ⟨d, ds, rfl, hd, hall⟩
    · rintro ⟨d', ds', he, hd, hall⟩
      cases he
      exact ⟨hall, hd⟩

/-- A word is a long name, or two dashes and a long name. -/
theorem longName?_eq_some_iff {word name : Text} :
    longName? word = some name ↔
      isLongName name = true ∧ (word = name ∨ word = .char '-' :: .char '-' :: name) := by
  constructor
  · intro h
    unfold longName? at h
    split at h
    · next name' =>
      obtain ⟨hname, he⟩ := Option.ite_none_right_eq_some.mp h
      cases he
      exact ⟨hname, .inr rfl⟩
    · obtain ⟨hname, he⟩ := Option.ite_none_right_eq_some.mp h
      cases he
      exact ⟨hname, .inl rfl⟩
  · rintro ⟨hname, rfl | rfl⟩
    · obtain ⟨d, ds, rfl, hd, -⟩ := isLongName_iff.mp hname
      unfold longName?
      split
      · next he => exact absurd (List.cons.inj he).1 hd
      · exact if_pos hname
    · exact longName?_dashed hname

/-- A word that is a long name is cut off what stands apart from it. -/
theorem cutWord_longName {word name rest : Text} (h : longName? word = some name)
    (hrest : IsApart rest) : Text.cutWord (word ++ rest) = (word, rest.dropWhile Text.isBlank) := by
  obtain ⟨hname, hform⟩ := longName?_eq_some_iff.mp h
  obtain ⟨-, -, -, -, hall⟩ := isLongName_iff.mp hname
  have hink : ∀ c ∈ name, Text.isBlank c = false := fun c hc =>
    isBlank_eq_false_of_isNameChar (hall c hc)
  have hdash : Text.isBlank (.char '-') = false := by decide
  refine hrest.cutWord ?_
  rcases hform with rfl | rfl
  · exact hink
  · exact List.forall_mem_cons.mpr ⟨hdash, List.forall_mem_cons.mpr ⟨hdash, hink⟩⟩

namespace Tag

/-! ### Patterns of options -/

/-- Perhaps a flag behind blanks, and then a description. -/
def flagDescribed : Pattern Group := inOrder [.optional (inOrder [blanks, flagLabel]), described]

theorem failsAt_flagDescribed : flagDescribed.FailsAt isInk :=
  Pattern.failsAt_optional
    (Pattern.failsAt_seq_assoc (Pattern.failsAt_run (fun _ => isBlank_of_isInk) _))
    failsAt_described

/-- The end of a word is where the rest stands apart. -/
theorem finds_wordEnd {rest : Text} (h : IsApart rest) : wordEnd.finds rest = [⟨[], [], rest⟩] := by
  cases rest with
  | nil => rfl
  | cons c rest => simp [wordEnd, Pattern.finds, h c rfl]

theorem finds_wordEnd_of_not {rest : Text} (h : ¬ IsApart rest) : wordEnd.finds rest = [] := by
  cases rest with
  | nil => exact absurd nofun h
  | cons c rest =>
    have hc : Text.isBlank c = false := Bool.eq_false_iff.mpr fun hc =>
      h fun d hd => Option.mem_some.mp hd ▸ hc
    have hfeed : c ≠ .char '\n' := by
      rintro rfl
      cases hc
    simp [wordEnd, Pattern.finds, hc, hfeed]

/-- Behind the flag the word ends. -/
theorem groups?_flagLabel {c : CodePoint} {after : Text} (hc : Text.isWordChar c = true)
    (hafter : IsApart after) (q : Pattern Group) :
    (flagLabel.seq q).groups? (.char '-' :: c :: after) =
      (q.groups? after).map ((Group.flag, [c]) :: ·) := by
  rw [flagLabel, inOrder, Pattern.groups?_seq_assoc]
  refine (Pattern.groups?_literal_cons_self (.char '-') _ _).trans ?_
  rw [inOrder, inOrder, Pattern.groups?_seq_assoc, Pattern.groups?_group_one_cons, if_pos hc,
    Pattern.groups?_seq_of_only (finds_wordEnd hafter), Option.map_map]
  rfl

theorem groups?_flagLabel_of_not {t : Text}
    (h : ¬ ∃ c after, t = .char '-' :: c :: after ∧ Text.isWordChar c = true ∧ IsApart after)
    (q : Pattern Group) : (flagLabel.seq q).groups? t = none := by
  rw [flagLabel, inOrder, Pattern.groups?_seq_assoc]
  by_cases hprefix : (("-" : String) : Text) <+: t
  · obtain ⟨u, rfl⟩ := hprefix
    rw [Pattern.groups?_literal_append, inOrder, inOrder, Pattern.groups?_seq_assoc]
    cases u with
    | nil => rfl
    | cons c after =>
      rw [Pattern.groups?_group_one_cons]
      split
      · next hc =>
        have hend := finds_wordEnd_of_not fun hafter => h ⟨c, after, rfl, hc, hafter⟩
        rw [Pattern.groups?_seq_of_nil hend]
        rfl
      · rfl
  · exact Pattern.groups?_literal_of_not_prefix hprefix _

/-- Behind blanks a search goes on at the next word, and ends with the line. -/
theorem groups?_blanks_seq_of_isApart {q : Pattern Group} (fails : q.FailsAt Text.isBlank)
    (hend : q.groups? [] = none) {rest : Text} (hrest : IsApart rest) :
    (blanks.seq q).groups? rest = q.groups? (rest.dropWhile Text.isBlank) := by
  cases rest with
  | nil => exact (groups?_blanks_seq_of_not fun d hd => by cases hd).trans hend.symm
  | cons c rest => exact groups?_blanks_seq fails (hrest c rfl) rest

theorem failsAt_flagLabel (q : Pattern Group) : (flagLabel.seq q).FailsAt Text.isBlank :=
  Pattern.failsAt_seq_assoc (Pattern.failsAt_literal (by decide) _)

theorem notMem_of_dropWhile_eq_append {c : CodePoint} {kind : CodePoint → Bool}
    {t word rest : Text} (h : c ∉ t) (hsplit : t.dropWhile kind = word ++ rest) : c ∉ rest :=
  fun hmem => h ((List.dropWhile_suffix kind).subset (hsplit ▸ List.mem_append_right _ hmem))

/-- The flag is the next word if that is one, and what is behind it is described. -/
theorem groups?_flagDescribed {rest : Text} (oneLine : CodePoint.char '\n' ∉ rest)
    (hrest : IsApart rest) :
    ∃ flag after,
      flagDescribed.groups? rest =
        some (flag.toList.map (Group.flag, ·) ++ groupsApart after) ∧
      takeWord? shortFlag? (rest.dropWhile Text.isBlank) =
        (flag, after.dropWhile Text.isBlank) := by
  have hread : flagDescribed.groups? rest =
      ((flagLabel.seq described).groups? (rest.dropWhile Text.isBlank)).or
        (some (groupsApart rest)) := by
    show ((Pattern.optional (blanks.seq flagLabel)).seq described).groups? rest = _
    have hend : (flagLabel.seq described).groups? [] = none := by
      refine groups?_flagLabel_of_not ?_ _
      rintro ⟨c, after, h, -⟩
      cases h
    rw [Pattern.groups?_optional_seq, Pattern.groups?_seq_assoc,
      groups?_blanks_seq_of_isApart (failsAt_flagLabel _) hend hrest,
      groups?_described oneLine hrest]
  obtain ⟨word, after, hsplit, -, hafter, hcut⟩ := exists_word (rest.dropWhile Text.isBlank)
  cases hflag : shortFlag? word with
  | some flag =>
    obtain ⟨c, rfl, hc, rfl⟩ := shortFlag?_eq_some_iff.mp hflag
    have hline := notMem_of_dropWhile_eq_append oneLine hsplit
    refine ⟨some [c], after, ?_, by simp only [takeWord?, hcut, hflag]⟩
    rw [hread, hsplit, List.cons_append, List.singleton_append, groups?_flagLabel hc hafter,
      groups?_described hline hafter]
    rfl
  | none =>
    have hnoLabel : ¬ ∃ c after, rest.dropWhile Text.isBlank = .char '-' :: c :: after ∧
        Text.isWordChar c = true ∧ IsApart after := by
      rintro ⟨c, after', hbody, hc, hafter'⟩
      rw [hbody, cutWord_flag hc hafter'] at hcut
      rw [← (Prod.mk.inj hcut).1, shortFlag?_eq_some_iff.mpr ⟨c, rfl, hc, rfl⟩] at hflag
      cases hflag
    refine ⟨none, rest, ?_, by simp only [takeWord?, hcut, hflag]⟩
    rw [hread, groups?_flagLabel_of_not hnoLabel]
    rfl

theorem isInk_of_isNameChar {c : CodePoint} (h : isNameChar c = true) : isInk c = true :=
  isInk_of_isBlank_eq_false (isBlank_eq_false_of_isNameChar h)

/-- A blank is of no kind of which words are made. -/
theorem eq_false_of_isBlank {kind : CodePoint → Bool}
    (hkind : ∀ c, kind c = true → Text.isBlank c = false) {c : CodePoint}
    (h : Text.isBlank c = true) : kind c = false :=
  Bool.eq_false_iff.mpr fun hc => by
    rw [hkind c hc] at h
    cases h

theorem groups?_notDashed {c : CodePoint} (hc : c ≠ .char '-') (t : Text) (q : Pattern Group) :
    ((Pattern.notAhead (.literal "-")).seq q).groups? (c :: t) = q.groups? (c :: t) := by
  have hliteral : (Pattern.literal "-" : Pattern Group).finds (c :: t) = [] :=
    if_neg fun h => hc (beq_iff_eq.mp (Bool.and_eq_true_iff.mp h).1).symm
  have hnot : (Pattern.notAhead (.literal "-") : Pattern Group).finds (c :: t) =
      [⟨[], [], c :: t⟩] := by rw [Pattern.finds, hliteral]; rfl
  rw [Pattern.groups?_seq_of_only hnot]
  exact Option.map_id'

theorem groups?_dashed (t : Text) (q : Pattern Group) :
    ((Pattern.notAhead (.literal "-")).seq q).groups? (.char '-' :: t) = none :=
  Pattern.groups?_seq_of_nil rfl

/-- The long name ends where the word does. -/
theorem groups?_bareName {q : Pattern Group} (fails : q.FailsAt isInk) {name rest : Text}
    (hname : isLongName name = true) (hrest : IsApart rest) :
    (bareName.seq q).groups? (name ++ rest) =
      (q.groups? rest).map ((Group.longName, name) :: ·) := by
  obtain ⟨d, ds, rfl, hd, hall⟩ := isLongName_iff.mp hname
  obtain ⟨htake, hdrop⟩ := takeWhile_word isNameChar hall fun c hc =>
    eq_false_of_isBlank (fun _ => isBlank_eq_false_of_isNameChar) (hrest c hc)
  rw [bareName, inOrder, inOrder, Pattern.groups?_seq_assoc, List.cons_append,
    groups?_notDashed hd, Pattern.groups?_group_run_seq (hall d (List.mem_cons_self ..))
      (fails.of_imp fun _ => isInk_of_isNameChar), ← List.cons_append, htake, hdrop]

theorem groups?_bareName_of_not {q : Pattern Group} (fails : q.FailsAt isInk) {t : Text}
    (h : ¬ ∃ name rest, t = name ++ rest ∧ isLongName name = true ∧ IsApart rest) :
    (bareName.seq q).groups? t = none := by
  rw [bareName, inOrder, inOrder, Pattern.groups?_seq_assoc]
  cases t with
  | nil => rfl
  | cons c t =>
    by_cases hdash : c = .char '-'
    · rw [hdash, groups?_dashed]
    · rw [groups?_notDashed hdash]
      by_cases hc : isNameChar c = true
      · rw [Pattern.groups?_group_run_seq hc (fails.of_imp fun _ => isInk_of_isNameChar),
          groups?_of_not_isApart fails, Option.map_none]
        refine fun hrest => h ⟨_, _, List.takeWhile_append_dropWhile.symm, ?_, hrest⟩
        refine isLongName_iff.mpr ⟨c, t.takeWhile isNameChar, ?_, hdash, fun d hd =>
          List.mem_takeWhile_imp hd⟩
        exact List.takeWhile_cons_of_pos hc
      · exact Pattern.groups?_group_run_seq_of_not (Bool.eq_false_iff.mpr hc) t q

theorem failsAt_nameLabel (q : Pattern Group) : (nameLabel.seq q).FailsAt Text.isBlank := by
  have hbare : (bareName.seq q).FailsAt Text.isBlank :=
    Pattern.failsAt_seq_assoc (Pattern.failsAt_notAhead
      (Pattern.failsAt_group_run
        (fun _ => eq_false_of_isBlank fun _ => isBlank_eq_false_of_isNameChar) q) _)
  exact Pattern.failsAt_seq_assoc
    (Pattern.failsAt_optional (Pattern.failsAt_literal (by decide) _) hbare)

/-- The long name is a word without its dashes. -/
theorem groups?_nameLabel {q : Pattern Group} (fails : q.FailsAt isInk) {word name rest : Text}
    (hword : longName? word = some name) (hrest : IsApart rest) {found : List (Group × Text)}
    (hq : q.groups? rest = some found) :
    (nameLabel.seq q).groups? (word ++ rest) = some ((Group.longName, name) :: found) := by
  obtain ⟨hname, hform⟩ := longName?_eq_some_iff.mp hword
  have hbare : (bareName.seq q).groups? (name ++ rest) =
      some ((Group.longName, name) :: found) := by
    rw [groups?_bareName fails hname hrest, hq]
    rfl
  rw [nameLabel, inOrder, inOrder, Pattern.groups?_seq_assoc, Pattern.groups?_optional_seq]
  rcases hform with rfl | rfl
  · obtain ⟨d, ds, rfl, hd, -⟩ := isLongName_iff.mp hname
    have hdashes : ¬ (("--" : String) : Text) <+: d :: ds ++ rest := by
      rintro ⟨u, hu⟩
      exact hd (List.cons.inj hu).1.symm
    rw [Pattern.groups?_literal_of_not_prefix hdashes, hbare]
    rfl
  · have hdashed : ((Pattern.literal "--").seq (bareName.seq q)).groups?
        (.char '-' :: .char '-' :: name ++ rest) = _ :=
      Pattern.groups?_literal_append "--" (name ++ rest) (bareName.seq q)
    rw [hdashed, hbare]
    rfl

theorem groups?_nameLabel_of_not {q : Pattern Group} (fails : q.FailsAt isInk) {t : Text}
    (h : longName? (Text.cutWord t).1 = none) : (nameLabel.seq q).groups? t = none := by
  have hnot : ∀ word name rest, longName? word = some name → IsApart rest → t ≠ word ++ rest := by
    rintro word name rest hword hrest rfl
    rw [cutWord_longName hword hrest, hword] at h
    cases h
  have hbare : (bareName.seq q).groups? t = none := by
    refine groups?_bareName_of_not fails ?_
    rintro ⟨name, rest, ht, hname, hrest⟩
    exact hnot name name rest (longName?_eq_some_iff.mpr ⟨hname, .inl rfl⟩) hrest ht
  rw [nameLabel, inOrder, inOrder, Pattern.groups?_seq_assoc, Pattern.groups?_optional_seq, hbare,
    Option.or_none]
  by_cases hprefix : (("--" : String) : Text) <+: t
  · obtain ⟨u, rfl⟩ := hprefix
    rw [Pattern.groups?_literal_append]
    refine groups?_bareName_of_not fails ?_
    rintro ⟨name, rest, rfl, hname, hrest⟩
    exact hnot _ name rest (longName?_eq_some_iff.mpr ⟨hname, .inr rfl⟩) hrest rfl
  · exact Pattern.groups?_literal_of_not_prefix hprefix _

/-- Perhaps a long name and a flag behind blanks, and then a description. -/
def nameDescribed : Pattern Group :=
  inOrder [.optional (inOrder [blanks, nameLabel]), flagDescribed]

/-- The long name is the next word if that is one, and the flag and the description follow. -/
theorem groups?_nameDescribed {rest : Text} (oneLine : CodePoint.char '\n' ∉ rest)
    (hrest : IsApart rest) :
    ∃ longName flag after,
      nameDescribed.groups? rest = some (optionGroups longName flag after) ∧
      readOption (rest.dropWhile Text.isBlank) =
        { longName, flag, description := after.dropWhile Text.isBlank } := by
  have hread : nameDescribed.groups? rest =
      ((nameLabel.seq flagDescribed).groups? (rest.dropWhile Text.isBlank)).or
        (flagDescribed.groups? rest) := by
    show ((Pattern.optional (blanks.seq nameLabel)).seq flagDescribed).groups? rest = _
    have hend : (nameLabel.seq flagDescribed).groups? [] = none := rfl
    rw [Pattern.groups?_optional_seq, Pattern.groups?_seq_assoc,
      groups?_blanks_seq_of_isApart (failsAt_nameLabel _) hend hrest]
  obtain ⟨word, after, hsplit, -, hafter, hcut⟩ := exists_word (rest.dropWhile Text.isBlank)
  cases hname : longName? word with
  | some name =>
    have hline := notMem_of_dropWhile_eq_append oneLine hsplit
    obtain ⟨flag, behind, hfound, hflag⟩ := groups?_flagDescribed hline hafter
    have htake : takeWord? longName? (rest.dropWhile Text.isBlank) =
        (some name, after.dropWhile Text.isBlank) := by simp only [takeWord?, hcut, hname]
    refine ⟨some name, flag, behind, ?_, by simp only [readOption, htake, hflag]⟩
    rw [hread, hsplit, groups?_nameLabel failsAt_flagDescribed hname hafter hfound]
    rfl
  | none =>
    have hword : longName? (Text.cutWord (rest.dropWhile Text.isBlank)).1 = none := by
      rw [hcut, hname]
    obtain ⟨flag, behind, hfound, hflag⟩ := groups?_flagDescribed oneLine hrest
    have htake := takeWord?_of_none hword
    refine ⟨none, flag, behind, ?_, by simp only [readOption, htake, hflag]⟩
    rw [hread, groups?_nameLabel_of_not failsAt_flagDescribed hword, hfound]
    rfl

/-- The option of an option line is read word by word. -/
theorem read_opt {rest : Text} (hne : rest.dropWhile Text.isBlank ≠ [])
    (oneLine : CodePoint.char '\n' ∉ rest) (hrest : IsApart rest) :
    (opt.tail.groups? rest).map opt.ofGroups = opt.read? (rest.dropWhile Text.isBlank) := by
  obtain ⟨longName, flag, after, hfound, hoption⟩ := groups?_nameDescribed oneLine hrest
  have hblank : (Pattern.ahead (.one Text.isBlank) : Pattern Group).finds rest =
      [⟨[], [], rest⟩] := by
    cases rest with
    | nil => exact absurd rfl hne
    | cons c rest => simp [Pattern.finds, hrest c rfl]
  have htail : opt.tail.groups? rest = some (optionGroups longName flag after) :=
    (Pattern.groups?_seq_of_first hblank hfound).trans rfl
  rw [htail, read?, if_neg hne, hoption]
  exact congrArg some (ofGroups_optionGroups .opt rfl longName flag after)

/-- A tag reads what its pattern finds behind its word. -/
theorem read_tail (tag : Tag) {rest : Text} (hne : rest.dropWhile Text.isBlank ≠ [])
    (oneLine : CodePoint.char '\n' ∉ rest) (hrest : IsApart rest) :
    (tag.tail.groups? rest).map tag.ofGroups = tag.read? (rest.dropWhile Text.isBlank) := by
  have hline : CodePoint.char '\n' ∉ rest.dropWhile Text.isBlank := fun hmem =>
    oneLine ((List.dropWhile_suffix _).subset hmem)
  obtain ⟨c, rest, rfl⟩ : ∃ c tail, rest = c :: tail :=
    List.exists_cons_of_ne_nil (by rintro rfl; exact hne rfl)
  have hc : Text.isBlank c = true := hrest c rfl
  cases tag with
  | usage =>
    -- the text could start with blanks, but the longest run of them is tried first
    have htail : usage.tail.groups? (c :: rest) =
        some [(.text, (c :: rest).dropWhile Text.isBlank)] :=
      (Pattern.isGreedy_run hc rest).groups?_seq_of_some (groups?_text hne hline)
    rw [htail, read?, if_neg hne]
    rfl
  | arg =>
    have hhead : ∃ d ∈ ((c :: rest).dropWhile Text.isBlank).head?, Text.isBlank d = false := by
      obtain ⟨d, tail, htail⟩ := List.exists_cons_of_ne_nil hne
      have hd : d ∈ ((c :: rest).dropWhile Text.isBlank).head? := by rw [htail]; rfl
      exact ⟨d, hd, Text.not_of_head?_dropWhile hd⟩
    rw [← read_arg hhead hline, ← groups?_blanks_seq _ hc]
    · rfl
    · exact Pattern.failsAt_group_run
        (fun _ => eq_false_of_isBlank fun _ => isBlank_of_isInk) described
  | opt => exact read_opt hne oneLine hrest
  | flag =>
    rw [← read_flag hne hline, ← groups?_blanks_seq _ hc]
    · rfl
    · exact Pattern.failsAt_optional (Pattern.failsAt_literal (by decide) _)
        (Pattern.failsAt_group_one
          (fun _ => eq_false_of_isBlank fun _ => isBlank_eq_false_of_isPlain) described)
  | «example» =>
    rw [← read_example hne hline, ← groups?_blanks_seq _ hc]
    · rfl
    · exact Pattern.failsAt_literal (by decide) _

/-- A tag finds nothing behind its word if the word goes on. -/
theorem failsAt_tail (tag : Tag) : tag.tail.FailsAt isInk := by
  have hblanks : ∀ q : Pattern Group, (blanks.seq q).FailsAt isInk := fun q =>
    Pattern.failsAt_run (fun _ => isBlank_of_isInk) q
  cases tag with
  | opt =>
    refine Pattern.failsAt_of_finds (fun c rest hc => ?_) _
    simp [Pattern.finds, isBlank_of_isInk hc]
  | usage | arg | flag | «example» => exact hblanks _

end Tag

/-! ### Lines -/

/-- A content line of a comment: it keeps to one line and does not end in a blank. -/
structure IsClean (line : Text) : Prop where
  oneLine : CodePoint.char '\n' ∉ line
  ended : ∀ c ∈ line.getLast?, Text.isBlank c = false

theorem isClean_of_mem_lines {line comment : Text} (h : line ∈ lines comment) : IsClean line := by
  obtain ⟨piece, hpiece, rfl⟩ := List.mem_map.mp h
  have hsuffix : cleanLine piece <:+ Text.strip piece := List.dropWhile_suffix _
  refine ⟨fun hmem => Text.notMem_of_mem_splitOn hpiece
    (Text.trim_subset _ _ (hsuffix.subset hmem)), fun c hc => ?_⟩
  obtain ⟨before, hbefore⟩ := hsuffix
  have hlast : (Text.strip piece).getLast? = some c := by
    rw [← hbefore, List.getLast?_append, Option.mem_def.mp hc]
    rfl
  exact Text.not_of_getLast?_dropEndWhile hlast

/-- A clean line goes on behind its last blank. -/
theorem IsClean.dropWhile_ne_nil {start rest : Text} {c : CodePoint}
    (h : IsClean (start ++ c :: rest)) (hc : Text.isBlank c = true) :
    rest.dropWhile Text.isBlank ≠ [] := by
  intro hnil
  have hall : ∀ d ∈ c :: rest, Text.isBlank d = true :=
    List.forall_mem_cons.mpr ⟨hc, List.dropWhile_eq_nil_iff.mp hnil⟩
  have hlast : (start ++ c :: rest).getLast? =
      some ((c :: rest).getLast (List.cons_ne_nil _ _)) := by
    rw [List.getLast?_append_of_ne_nil _ (List.cons_ne_nil _ _)]
    exact List.getLast?_eq_some_getLast _
  have hink := h.ended _ hlast
  rw [hall _ (List.getLast_mem _)] at hink
  cases hink

/-- A tag finds something exactly if it is the first word of the line and reads what stands
behind it. -/
theorem Tag.find?_eq (tag : Tag) {line : Text} (h : IsClean line) :
    tag.find? line =
      if Tag.ofWord? (Text.cutWord line).1 = some tag then tag.read? (Text.cutWord line).2
      else none := by
  rw [find?, pattern, inOrder, inOrder]
  by_cases hprefix : tag.word <+: line
  · obtain ⟨rest, rfl⟩ := hprefix
    rw [Pattern.groups?_literal_append]
    by_cases hrest : IsApart rest
    · rw [hrest.cutWord tag.word_unblank, if_pos (ofWord?_word tag)]
      have hline : CodePoint.char '\n' ∉ rest := fun hmem =>
        h.oneLine (List.mem_append_right _ hmem)
      cases rest with
      | nil => cases tag <;> rfl
      | cons c rest =>
        refine read_tail tag ?_ hline hrest
        rw [List.dropWhile_cons_of_pos (hrest c rfl)]
        exact h.dropWhile_ne_nil (hrest c rfl)
    · rw [groups?_of_not_isApart (failsAt_tail tag) hrest, if_neg]
      · rfl
      · intro hword
        have hsplit : (Text.cutWord (tag.word ++ rest)).1 ++
            (tag.word ++ rest).dropWhile (!Text.isBlank ·) = tag.word ++ rest :=
          List.takeWhile_append_dropWhile
        rw [eq_word_of_ofWord? hword, List.append_cancel_left_eq] at hsplit
        exact hrest (hsplit ▸ isApart_dropWord (tag.word ++ rest))
  · rw [Pattern.groups?_literal_of_not_prefix hprefix, if_neg]
    · rfl
    · intro hword
      exact hprefix (eq_word_of_ofWord? hword ▸ List.takeWhile_prefix _)

theorem isSome_groups?_anyTag (line : Text) : (anyTag.groups? line).isSome = looksTagged line := by
  rw [anyTag, inOrder, inOrder]
  by_cases hprefix : (("@" : String) : Text) <+: line
  · obtain ⟨rest, rfl⟩ := hprefix
    rw [Pattern.groups?_literal_append]
    cases rest with
    | nil => rfl
    | cons c rest =>
      have hlooks : looksTagged (("@" : String) ++ c :: rest) = isTagChar c := rfl
      rw [hlooks]
      cases hc : isTagChar c with
      | true =>
        obtain ⟨shorter, hfinds, -⟩ := Pattern.isGreedy_run (κ := Group) hc rest
        rw [Pattern.groups?, hfinds]
        rfl
      | false =>
        rw [Pattern.groups?, Pattern.finds_run_of_not fun d hd => ?_]
        · rfl
        · rw [← Option.mem_some.mp hd, hc]
  · rw [Pattern.groups?_literal_of_not_prefix hprefix]
    unfold looksTagged
    split
    · next c rest => exact absurd ⟨c :: rest, rfl⟩ hprefix
    · rfl

/-- **The patterns find what is read word by word.** -/
theorem Line.ofPatterns_eq {line : Text} (h : IsClean line) : ofPatterns line = ofText line := by
  have htags : [Tag.usage, .arg, .opt, .flag, .example].findSome? (·.find? line) =
      (Tag.ofWord? (Text.cutWord line).1).bind (·.read? (Text.cutWord line).2) := by
    simp only [Tag.find?_eq _ h]
    cases Tag.ofWord? (Text.cutWord line).1 with
    | none => rfl
    | some tag =>
      cases hread : tag.read? (Text.cutWord line).2 <;> cases tag <;> simp [List.findSome?, hread]
  rw [ofPatterns, htags, isSome_groups?_anyTag]
  rfl

/-- What a comment says is what the patterns find in its lines. -/
theorem read_eq_ofPatterns (comment : Text) : read comment = (lines comment).map Line.ofPatterns :=
  List.map_congr_left fun _ hline => (Line.ofPatterns_eq (isClean_of_mem_lines hline)).symm

/-- What is left of a clean line behind blanks has no blanks around it. -/
theorem IsClean.strip_dropWhile {line t : Text} (h : IsClean line) (ht : t <:+ line) :
    Text.strip (t.dropWhile Text.isBlank) = t.dropWhile Text.isBlank := by
  refine Text.trim_eq_self_iff.mpr ⟨fun c hc => Text.not_of_head?_dropWhile hc, fun c hc => ?_⟩
  obtain ⟨before, hbefore⟩ := (List.dropWhile_suffix (l := t) Text.isBlank).trans ht
  refine h.ended c ?_
  rw [← hbefore, List.getLast?_append, Option.mem_def.mp hc]
  rfl

end Comment

namespace CommandOption

open Comment

/-- The words behind the long name of an option, or all of them if it has none. -/
def behindName (o : CommandOption) (body : Text) : Text :=
  if o.longName.isSome then (Text.cutWord body).2 else body

/-- The words behind the long name and the flag of an option. -/
def behindLabels (o : CommandOption) (body : Text) : Text :=
  if o.flag.isSome then (Text.cutWord (o.behindName body)).2 else o.behindName body

/-- The words of an option: its long name, which may have two dashes before it, its flag
behind a dash, and its description.  A part is there exactly if the next word is wholly of its
form, and the description takes all words that are left. -/
structure IsReadFrom (o : CommandOption) (body : Text) : Prop where
  longName : ∀ name, o.longName = some name ↔
    (∃ d ds, name = d :: ds ∧ d ≠ .char '-' ∧ ∀ c ∈ name, isNameChar c = true) ∧
      ((Text.cutWord body).1 = name ∨ (Text.cutWord body).1 = .char '-' :: .char '-' :: name)
  flag : ∀ flag, o.flag = some flag ↔
    ∃ c, (Text.cutWord (o.behindName body)).1 = [.char '-', c] ∧ Text.isWordChar c = true ∧
      flag = [c]
  description : o.description = o.behindLabels body
  stripped : Text.strip o.description = o.description

theorem takeWord?_eq (read? : Text → Option Text) (t : Text) :
    takeWord? read? t = (read? (Text.cutWord t).1,
      if (read? (Text.cutWord t).1).isSome then (Text.cutWord t).2 else t) := by
  unfold takeWord?
  cases read? (Text.cutWord t).1 <;> rfl

theorem longName_readOption (body : Text) :
    (readOption body).longName = longName? (Text.cutWord body).1 := by
  simp only [readOption, takeWord?_eq]

theorem flag_readOption (body : Text) :
    (readOption body).flag = shortFlag? (Text.cutWord ((readOption body).behindName body)).1 := by
  simp only [readOption, takeWord?_eq, behindName]

theorem description_readOption (body : Text) :
    (readOption body).description = (readOption body).behindLabels body := by
  simp only [readOption, takeWord?_eq, behindLabels, behindName]

/-- An option is read word by word. -/
theorem isReadFrom_readOption {line rest : Text} (h : IsClean line) (hrest : rest <:+ line) :
    (readOption (rest.dropWhile Text.isBlank)).IsReadFrom (rest.dropWhile Text.isBlank) := by
  have hbody : rest.dropWhile Text.isBlank <:+ line := (List.dropWhile_suffix _).trans hrest
  have hstripped := h.strip_dropWhile hrest
  generalize rest.dropWhile Text.isBlank = body at hbody hstripped
  -- behind each word the line goes on with a word, or it ends
  have hcut : ∀ t : Text, t <:+ line →
      Text.strip (Text.cutWord t).2 = (Text.cutWord t).2 ∧ (Text.cutWord t).2 <:+ line := by
    intro t ht
    have hbehind : t.dropWhile (!Text.isBlank ·) <:+ line := (List.dropWhile_suffix _).trans ht
    exact ⟨h.strip_dropWhile hbehind, (List.dropWhile_suffix _).trans hbehind⟩
  have hname : Text.strip ((readOption body).behindName body) = (readOption body).behindName body ∧
      (readOption body).behindName body <:+ line := by
    unfold behindName
    split
    · exact hcut body hbody
    · exact ⟨hstripped, hbody⟩
  refine ⟨fun name => ?_, fun flag => ?_, description_readOption body, ?_⟩
  · rw [longName_readOption, longName?_eq_some_iff, isLongName_iff]
  · rw [flag_readOption, shortFlag?_eq_some_iff]
  · rw [description_readOption, behindLabels]
    split
    · exact (hcut _ hname.2).1
    · exact hname.1

end CommandOption

namespace Page

open Comment (Line Tag)

/-- An option among the lines of a page is one more option of the page. -/
theorem ofLines_option (s : Substitution) (before after : List Line) (o : CommandOption) :
    ofLines s (before ++ .option o :: after) =
      { ofLines s (before ++ after) with
        options := before.filterMap Line.option? ++ o :: after.filterMap Line.option? } := by
  simp only [ofLines, List.filterMap_append, List.filterMap_cons, Line.prose?, Line.usage?,
    Line.arg?, Line.option?, Line.example?]

/-- **A line of an option adds the option that its words make, and nothing else.** -/
theorem ofComment_optLine (s : Substitution) {comment : Text} {before after : List Text}
    {c : CodePoint} {rest : Text}
    (hlines : Comment.lines comment = before ++ (Tag.opt.word ++ c :: rest) :: after)
    (hc : Text.isBlank c = true) :
    ∃ o : CommandOption,
      Line.ofPatterns (Tag.opt.word ++ c :: rest) = .option o ∧
      Line.ofText (Tag.opt.word ++ c :: rest) = .option o ∧
      o.IsReadFrom (rest.dropWhile Text.isBlank) ∧
      ofComment s comment =
        { ofLines s ((before ++ after).map Line.ofText) with
          options := (before.map Line.ofText).filterMap Line.option? ++
            o :: (after.map Line.ofText).filterMap Line.option? } ∧
      Comment.dropRemarks (Comment.read comment) =
        Comment.dropRemarks ((before ++ after).map Line.ofText) := by
  have hclean : Comment.IsClean (Tag.opt.word ++ c :: rest) := by
    have hmem : Tag.opt.word ++ c :: rest ∈ Comment.lines comment := by
      rw [hlines]
      exact List.mem_append_right _ (List.mem_cons_self ..)
    exact Comment.isClean_of_mem_lines hmem
  have hapart : Comment.IsApart (c :: rest) := fun d hd => Option.mem_some.mp hd ▸ hc
  have hsaid : Line.ofText (Tag.opt.word ++ c :: rest) =
      .option (Comment.readOption (rest.dropWhile Text.isBlank)) := by
    have hbody : rest.dropWhile Text.isBlank ≠ [] := hclean.dropWhile_ne_nil hc
    have hcut := hapart.cutWord Tag.opt.word_unblank
    rw [List.dropWhile_cons_of_pos hc] at hcut
    simp only [Line.ofText, hcut, Tag.ofWord?_word, Option.bind_some, Tag.read?, if_neg hbody]
  have hread : Comment.read comment = before.map Line.ofText ++
      .option (Comment.readOption (rest.dropWhile Text.isBlank)) :: after.map Line.ofText := by
    rw [Comment.read, hlines, List.map_append, List.map_cons, hsaid]
  refine ⟨_, (Line.ofPatterns_eq hclean).trans hsaid, hsaid, ?_, ?_, ?_⟩
  · exact CommandOption.isReadFrom_readOption hclean
      ((List.suffix_cons c rest).trans (List.suffix_append _ _))
  · rw [ofComment, hread, ofLines_option, List.map_append]
  · rw [hread, List.map_append]
    simp only [Comment.dropRemarks, List.filterMap_append, List.filterMap_cons, Line.dropped?]

/-- The words of an option with blanks of several scripts between them. -/
def previewWords : Text := "\u2003--dry_run=x\u00a0 -\u00e9\u3000Only -n  show"

/-- The content lines around an option. -/
def previewContext : List Text × List Text := (["Copy files."], ["@flag -q  Quiet", []])

/-- A comment with an option among other lines. -/
def previewComment : Text :=
  Text.joinWith "\n" ["/** Copy files.", " * @opt " ++ previewWords ++ "  ", " * @flag -q  Quiet",
    " */"]

theorem ofComment_optLine_preview :
    Comment.lines previewComment =
        previewContext.1 ++ (Tag.opt.word ++ CodePoint.char ' ' :: previewWords) ::
          previewContext.2 ∧
      Text.isBlank (CodePoint.char ' ') = true ∧
      ∃ o : CommandOption,
        Line.ofPatterns (Tag.opt.word ++ CodePoint.char ' ' :: previewWords) = .option o ∧
        Line.ofText (Tag.opt.word ++ CodePoint.char ' ' :: previewWords) = .option o ∧
        o.IsReadFrom (previewWords.dropWhile Text.isBlank) ∧
        ofComment {} previewComment =
          { ofLines {} ((previewContext.1 ++ previewContext.2).map Line.ofText) with
            options := (previewContext.1.map Line.ofText).filterMap Line.option? ++
              o :: (previewContext.2.map Line.ofText).filterMap Line.option? } ∧
        Comment.dropRemarks (Comment.read previewComment) =
          Comment.dropRemarks ((previewContext.1 ++ previewContext.2).map Line.ofText) := by
  have hlines : Comment.lines previewComment =
      previewContext.1 ++ (Tag.opt.word ++ CodePoint.char ' ' :: previewWords) ::
        previewContext.2 := by decide +kernel
  have hc : Text.isBlank (CodePoint.char ' ') = true := by decide
  exact ⟨hlines, hc, ofComment_optLine {} hlines hc⟩

example : (ofComment {} previewComment).options =
    [{ longName := some "dry_run=x", flag := some "\u00e9", description := "Only -n  show" },
      { flag := some "q", description := "Quiet" }] := by decide +kernel

end Page
end HelpPages
