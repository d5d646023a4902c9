import HelpPages.Catalog.Docstring
import HelpPages.Proofs.Comment.Block
import HelpPages.Proofs.Page.Paragraphs

/-! # Blanks that do not show

Reading takes blanks off a comment at two places: around the whole text and around every
line of it.  So blanks around a comment do not change its content lines
(`lines_append_left`, `lines_append_right`), and neither do blanks at the start of a line
(`lines_append_feed`), be the comment a block between delimiters or bare text.  Every change
of indentation is made of these two.
-/
namespace HelpPages
namespace Comment

/-- The text stands between the delimiters of a block comment. -/
def IsDelimited (t : Text) : Prop :=
  ∃ body, t = .char '/' :: .char '*' :: (body ++ [.char '*', .char '/'])

theorem undelimit_of_not_isDelimited {t : Text} (h : ¬ IsDelimited t) : undelimit t = t := by
  unfold undelimit
  split
  · next rest =>
    split
    · next body hrev =>
      have hrest : rest = body.reverse ++ [.char '*', .char '/'] := by
        rw [← List.reverse_reverse rest, hrev]
        simp
      exact absurd ⟨_, congrArg _ (congrArg _ hrest)⟩ h
    · rfl
  · rfl

/-- A text stands between delimiters exactly if there is something to take off it. -/
theorem isDelimited_iff {t : Text} : IsDelimited t ↔ undelimit t ≠ t := by
  refine ⟨?_, fun h => by_contra fun hd => h (undelimit_of_not_isDelimited hd)⟩
  rintro ⟨body, rfl⟩ he
  have hlength := congrArg List.length he
  rw [undelimit_delimited] at hlength
  simp only [List.length_cons, List.length_append, List.length_nil] at hlength
  omega

instance (t : Text) : Decidable (IsDelimited t) := decidable_of_iff _ isDelimited_iff.symm

/-! ### Blanks around a comment -/

theorem lines_append_left {blanks : Text} (comment : Text)
    (h : ∀ c ∈ blanks, Text.isBlank c = true) : lines (blanks ++ comment) = lines comment := by
  rw [lines, Text.strip, Text.trim_append_left h]
  rfl

theorem lines_append_right {blanks : Text} (comment : Text)
    (h : ∀ c ∈ blanks, Text.isBlank c = true) : lines (comment ++ blanks) = lines comment := by
  rw [lines, Text.strip, Text.trim_append_right h]
  rfl

/-! ### Blanks at the start of a line -/

/-- Blanks on the first line of a text do not change its clean lines. -/
theorem map_cleanLine_splitOn {blanks : Text} (t : Text)
    (h : ∀ c ∈ blanks, Text.isBlank c = true) (oneLine : CodePoint.char '\n' ∉ blanks) :
    (Text.splitOn '\n' (blanks ++ t)).map cleanLine = (Text.splitOn '\n' t).map cleanLine := by
  rw [Text.splitOn_append_of_notMem t oneLine, List.map_cons, cleanLine_blanks_append _ h]
  rfl

/-- A delimiter at the start of a text does not go over a line feed. -/
theorem exists_opening {t u body : Text}
    (h : t ++ .char '\n' :: u = .char '/' :: .char '*' :: body) :
    ∃ t', t = .char '/' :: .char '*' :: t' := by
  cases t with
  | nil => cases h
  | cons c t =>
    injection h with hc h
    cases t with
    | nil => cases h
    | cons d t =>
      injection h with hd h
      exact ⟨t, by rw [hc, hd]⟩

/-- A delimiter at the end of a text does not go over blanks. -/
theorem exists_closing {t blanks u body : Text} (hne : blanks ≠ [])
    (hblanks : ∀ c ∈ blanks, Text.isBlank c = true)
    (h : t ++ (blanks ++ u) = body ++ [.char '*', .char '/']) :
    ∃ u', u = u' ++ [.char '*', .char '/'] := by
  -- read backwards, the text starts with `u` and has a blank behind it
  obtain ⟨c, rest, hrest⟩ : ∃ c rest, blanks.reverse ++ t.reverse = c :: rest :=
    List.exists_cons_of_ne_nil (by simp [hne])
  have hc : Text.isBlank c = true := by
    refine hblanks c (List.mem_reverse.mp (List.mem_of_mem_head? ?_))
    have hhead : (blanks.reverse ++ t.reverse).head? = blanks.reverse.head? :=
      List.head?_append_of_ne_nil _ (by simpa using hne)
    rw [← hhead, hrest]
    rfl
  have hrev : u.reverse ++ c :: rest = .char '/' :: .char '*' :: body.reverse := by
    have hreverse := congrArg List.reverse h
    rwa [List.reverse_append, List.reverse_append, List.append_assoc, hrest,
      List.reverse_append] at hreverse
  cases hu : u.reverse with
  | nil =>
    rw [hu] at hrev
    cases hrev
    cases hc
  | cons d v =>
    rw [hu] at hrev
    injection hrev with hd hrev
    cases v with
    | nil =>
      cases hrev
      cases hc
    | cons e w =>
      injection hrev with he hrev
      refine ⟨w.reverse, ?_⟩
      rw [← List.reverse_reverse u, hu, hd, he]
      simp

/-- Delimiters that are taken off a text with a line feed in it stand on both sides of the
line feed, whatever blanks follow it. -/
theorem undelimit_append_feed (t u : Text) :
    ∃ t' u', ∀ blanks : Text, (∀ c ∈ blanks, Text.isBlank c = true) →
      undelimit (t ++ .char '\n' :: (blanks ++ u)) = t' ++ .char '\n' :: (blanks ++ u') := by
  by_cases hboth : (∃ t', t = .char '/' :: .char '*' :: t') ∧
      ∃ u', u = u' ++ [.char '*', .char '/']
  · obtain ⟨⟨t', rfl⟩, u', rfl⟩ := hboth
    refine ⟨t', u', fun blanks _ => ?_⟩
    have hbody := undelimit_delimited (t' ++ .char '\n' :: (blanks ++ u'))
    rw [← hbody]
    simp
  · refine ⟨t, u, fun blanks hblanks => undelimit_of_not_isDelimited ?_⟩
    rintro ⟨body, hbody⟩
    have hall : ∀ c ∈ .char '\n' :: blanks, Text.isBlank c = true :=
      List.forall_mem_cons.mpr ⟨by decide, hblanks⟩
    have hend : t ++ ((.char '\n' :: blanks) ++ u) =
        (.char '/' :: .char '*' :: body) ++ [.char '*', .char '/'] := hbody
    exact hboth ⟨exists_opening hbody, exists_closing (List.cons_ne_nil _ _) hall hend⟩

/-- Blanks at the start of a line do not change the content lines of a comment. -/
theorem lines_append_feed {blanks : Text} (t u : Text)
    (h : ∀ c ∈ blanks, Text.isBlank c = true) (oneLine : CodePoint.char '\n' ∉ blanks) :
    lines (t ++ .char '\n' :: (blanks ++ u)) = lines (t ++ .char '\n' :: u) := by
  have hfeed : Text.isBlank (.char '\n') = true := by decide
  have hblanks : ∀ c ∈ .char '\n' :: blanks, Text.isBlank c = true :=
    List.forall_mem_cons.mpr ⟨hfeed, h⟩
  by_cases ht : ∃ c ∈ t, Text.isBlank c = false
  · by_cases hu : ∃ c ∈ u, Text.isBlank c = false
    · -- nothing between `t` and `u` is stripped
      have hstrip : ∀ between : Text, Text.strip (t ++ between ++ u) =
          t.dropWhile Text.isBlank ++ between ++ Text.dropEndWhile Text.isBlank u := fun _ =>
        Text.trim_append_of_exists ht hu
      obtain ⟨t', u', hundelimit⟩ :=
        undelimit_append_feed (t.dropWhile Text.isBlank) (Text.dropEndWhile Text.isBlank u)
      have hlong := hstrip (.char '\n' :: blanks)
      have hshort := hstrip [.char '\n']
      simp only [List.append_assoc, List.cons_append, List.nil_append] at hlong hshort
      rw [lines, lines, hlong, hshort, hundelimit blanks h]
      have hnone := hundelimit [] fun c hc => absurd hc List.not_mem_nil
      rw [List.nil_append, List.nil_append] at hnone
      rw [hnone, Text.splitOn_append, Text.splitOn_append, List.map_append, List.map_append,
        map_cleanLine_splitOn u' h oneLine]
    · have hall : ∀ c ∈ u, Text.isBlank c = true := by simpa using hu
      have hlong : ∀ c ∈ .char '\n' :: (blanks ++ u), Text.isBlank c = true :=
        List.forall_mem_cons.mpr ⟨hfeed, List.forall_mem_append.mpr ⟨h, hall⟩⟩
      have hshort : ∀ c ∈ .char '\n' :: u, Text.isBlank c = true :=
        List.forall_mem_cons.mpr ⟨hfeed, hall⟩
      rw [lines_append_right t hlong, lines_append_right t hshort]
  · have hall : ∀ c ∈ t, Text.isBlank c = true := by simpa using ht
    have hlong : t ++ .char '\n' :: (blanks ++ u) = (t ++ .char '\n' :: blanks) ++ u := by simp
    have hshort : t ++ .char '\n' :: u = (t ++ [.char '\n']) ++ u := by simp
    rw [hlong, hshort, lines_append_left u (List.forall_mem_append.mpr ⟨hall, hblanks⟩),
      lines_append_left u (List.forall_mem_append.mpr ⟨hall, List.forall_mem_singleton.mpr hfeed⟩)]

end Comment

/-! ### Empty lines around a comment -/

namespace Docstring

variable {lines : List Text}

/-- Lines are those that are left of them between empty ones. -/
theorem exists_trimLines (lines : List Text) :
    ∃ m n, lines = List.replicate m [] ++ trimLines lines ++ List.replicate n [] := by
  have hempty : ∀ ls : List Text, ∃ n, ls.takeWhile List.isEmpty = List.replicate n [] := by
    refine fun ls => ⟨_, List.eq_replicate_iff.mpr ⟨rfl, fun l hl => ?_⟩⟩
    exact List.isEmpty_iff.mp (List.mem_takeWhile_imp hl)
  obtain ⟨m, hm⟩ := hempty lines
  obtain ⟨n, hn⟩ := hempty (lines.dropWhile List.isEmpty).reverse
  have hback : (lines.dropWhile List.isEmpty).reverse =
      List.replicate n [] ++ (lines.dropWhile List.isEmpty).reverse.dropWhile List.isEmpty :=
    hn ▸ List.takeWhile_append_dropWhile.symm
  refine ⟨m, n, ?_⟩
  calc lines
      = lines.takeWhile List.isEmpty ++ lines.dropWhile List.isEmpty :=
        List.takeWhile_append_dropWhile.symm
    _ = List.replicate m [] ++ (lines.dropWhile List.isEmpty).reverse.reverse := by
        rw [hm, List.reverse_reverse]
    _ = List.replicate m [] ++ (trimLines lines ++ List.replicate n []) := by
        rw [hback, List.reverse_append, List.reverse_replicate]
        rfl
    _ = List.replicate m [] ++ trimLines lines ++ List.replicate n [] :=
        (List.append_assoc ..).symm

theorem head?_trimLines_ne : (trimLines lines).head? ≠ some [] := by
  intro h
  have hprefix : trimLines lines <+: lines.dropWhile List.isEmpty := List.rdropWhile_prefix _ _
  obtain ⟨rest, hrest⟩ := hprefix
  have hhead := List.head?_dropWhile_not List.isEmpty lines
  rw [← hrest, List.head?_append, h] at hhead
  cases hhead

theorem getLast?_trimLines_ne : (trimLines lines).getLast? ≠ some [] := by
  intro h
  obtain ⟨hne, hlast⟩ := List.mem_getLast?_eq_getLast h
  refine List.rdropWhile_last_not List.isEmpty (lines.dropWhile List.isEmpty) hne ?_
  exact List.isEmpty_iff.mpr hlast.symm

/-- Empty lines around other lines are stripped. -/
theorem strip_joinWith_trimLines (lines : List Text) :
    Text.strip (Text.joinWith [.char '\n'] (trimLines lines)) =
      Text.strip (Text.joinWith [.char '\n'] lines) := by
  obtain ⟨m, n, hlines⟩ := exists_trimLines lines
  have htrim := Text.trim_joinWith_surrounded (p := Text.isBlank) (by decide) m n (trimLines lines)
  rw [← hlines] at htrim
  exact htrim.symm

/-- Empty lines around a comment do not change its content lines. -/
theorem lines_joinWith_trimLines (lines : List Text) :
    Comment.lines (Text.joinWith [.char '\n'] (trimLines lines)) =
      Comment.lines (Text.joinWith [.char '\n'] lines) := by
  rw [Comment.lines, strip_joinWith_trimLines, ← Comment.lines]

end Docstring
end HelpPages
