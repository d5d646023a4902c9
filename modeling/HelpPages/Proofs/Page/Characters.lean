import HelpPages.Page.OfComment
import HelpPages.Proofs.Text.Pieces
import HelpPages.Proofs.Text.Replace
import HelpPages.Proofs.Text.Trim

/-! # The characters of a page

Reading a comment makes no characters up: besides the line feeds between lines of prose a
page has only characters of its comment and of the name of the program, and those that
are added with sub-commands.  So a code point that is in none of them is nowhere in the
page (`Page.isFreeOf_ofComment`).
-/
namespace HelpPages

variable {d : CodePoint}

namespace Text

theorem cutWord_fst_subset (t : Text) : (cutWord t).1 ⊆ t :=
  (List.takeWhile_prefix _).subset

theorem cutWord_snd_subset (t : Text) : (cutWord t).2 ⊆ t :=
  List.Subset.trans (List.dropWhile_suffix _).subset (List.dropWhile_suffix _).subset

/-- What replaces occurrences is all that comes into a text. -/
theorem mem_replace {old new t : Text} (h : d ∈ replace old new t) : d ∈ new ∨ d ∈ t := by
  fun_induction replace old new t with
  | case1 => cases h
  | case2 c rest _ ih =>
    rcases List.mem_append.mp h with h | h
    · exact Or.inl h
    · exact (ih h).imp_right fun h => List.mem_cons_of_mem _ (List.mem_of_mem_drop h)
  | case3 c rest _ ih =>
    rcases List.mem_cons.mp h with rfl | h
    · exact Or.inr (List.mem_cons_self ..)
    · exact (ih h).imp_right (List.mem_cons_of_mem _)

/-- A text without the first code point of `old` stays as it is. -/
theorem replace_of_notMem {c : CodePoint} (old new : Text) {t : Text} (h : c ∉ t) :
    replace (c :: old) new t = t :=
  replace_eq_self new fun hold => h (hold.subset (List.mem_cons_self ..))

end Text

/-- A code point is in no name and no text of some entries. -/
def Entries.IsFreeOf (d : CodePoint) (entries : Entries Text) : Prop :=
  ∀ entry ∈ entries, d ∉ entry.1 ∧ d ∉ entry.2

theorem Entries.IsFreeOf.put {entries : Entries Text} {name value : Text}
    (h : entries.IsFreeOf d) (hname : d ∉ name) (hvalue : d ∉ value) :
    (entries.put name value).IsFreeOf d := by
  induction entries with
  | nil =>
    intro entry hentry
    rw [List.mem_singleton.mp hentry]
    exact ⟨hname, hvalue⟩
  | cons first rest ih =>
    have hfirst := h first (List.mem_cons_self ..)
    have hrest : Entries.IsFreeOf d rest := fun entry hentry =>
      h entry (List.mem_cons_of_mem _ hentry)
    intro entry hentry
    rw [Entries.put] at hentry
    split at hentry
    · rcases List.mem_cons.mp hentry with rfl | hentry
      · exact ⟨hfirst.1, hvalue⟩
      · exact hrest entry hentry
    · rcases List.mem_cons.mp hentry with rfl | hentry
      · exact hfirst
      · exact ih hrest entry hentry

theorem Entries.isFreeOf_ofList {pairs : List (Text × Text)}
    (h : ∀ pair ∈ pairs, d ∉ pair.1 ∧ d ∉ pair.2) : (Entries.ofList pairs).IsFreeOf d := by
  have hnothing : Entries.IsFreeOf d [] := fun _ hentry => absurd hentry List.not_mem_nil
  refine List.foldlRecOn (motive := Entries.IsFreeOf d) pairs _ hnothing ?_
  intro entries hentries pair hpair
  obtain ⟨hname, hvalue⟩ := h pair hpair
  exact hentries.put hname hvalue

/-! ### Lines -/

namespace Comment

theorem undelimit_subset (t : Text) : undelimit t ⊆ t := by
  rw [undelimit.eq_def]
  split
  · next rest =>
    split
    · next body hreverse =>
      -- the delimiters at the end are found on the reversed text
      have hrest : rest = body.reverse ++ [.char '*', .char '/'] := by
        rw [← List.reverse_reverse rest, hreverse]
        simp
      rw [hrest]
      intro c hc
      exact List.mem_cons_of_mem _ (List.mem_cons_of_mem _ (List.mem_append_left _ hc))
    · exact List.Subset.refl _
  · exact List.Subset.refl _

theorem cleanLine_subset (line : Text) : cleanLine line ⊆ line :=
  List.Subset.trans (List.dropWhile_suffix _).subset (Text.trim_subset _ _)

theorem subset_of_mem_lines {line comment : Text} (h : line ∈ lines comment) :
    line ⊆ comment := by
  obtain ⟨piece, hpiece, rfl⟩ := List.mem_map.mp h
  have hbody : undelimit (Text.strip comment) ⊆ comment :=
    List.Subset.trans (undelimit_subset _) (Text.trim_subset _ _)
  exact List.Subset.trans (cleanLine_subset piece)
    (List.Subset.trans (Text.subset_of_mem_splitOn hpiece) hbody)

theorem takeWord?_snd_subset (read? : Text → Option Text) (t : Text) :
    (takeWord? read? t).2 ⊆ t := by
  rw [takeWord?]
  split
  · exact Text.cutWord_snd_subset t
  · exact List.Subset.refl _

theorem takeWord?_fst_subset {read? : Text → Option Text}
    (hread : ∀ {word found : Text}, read? word = some found → found ⊆ word) {t found : Text}
    (h : (takeWord? read? t).1 = some found) : found ⊆ t := by
  rw [takeWord?] at h
  split at h
  · next found' hfound =>
    cases h
    exact List.Subset.trans (hread hfound) (Text.cutWord_fst_subset t)
  · cases h

theorem longName?_subset {word name : Text} (h : longName? word = some name) : name ⊆ word := by
  have hname : ∀ {t : Text}, (if isLongName t then some t else none) = some name → name ⊆ t := by
    intro t ht
    split at ht
    · cases ht
      exact List.Subset.refl _
    · cases ht
  rw [longName?.eq_def] at h
  split at h
  · exact fun c hc => List.mem_cons_of_mem _ (List.mem_cons_of_mem _ (hname h hc))
  · exact hname h

theorem shortFlag?_subset {word flag : Text} (h : shortFlag? word = some flag) : flag ⊆ word := by
  rw [shortFlag?.eq_def] at h
  split at h
  · split at h
    · cases h
      exact List.subset_cons_self ..
    · cases h
  · cases h

theorem bareFlag?_subset {word flag : Text} (h : bareFlag? word = some flag) : flag ⊆ word := by
  rw [bareFlag?.eq_def] at h
  split at h
  · split at h
    · cases h
      exact List.Subset.refl _
    · cases h
  · split at h
    · cases h
      exact List.subset_cons_self ..
    · cases h
  · cases h

theorem readExample?_subset {t : Text} {e : Example} (h : readExample? t = some e) :
    e.code ⊆ t ∧ e.description ⊆ t := by
  rw [readExample?.eq_def] at h
  split at h
  · next rest =>
    have hcode : rest.takeWhile (!·.is '\x60') ⊆ .char '\x60' :: rest :=
      List.Subset.trans (List.takeWhile_prefix _).subset (List.subset_cons_self ..)
    have hbehind : rest.dropWhile (!·.is '\x60') ⊆ .char '\x60' :: rest :=
      List.Subset.trans (List.dropWhile_suffix _).subset (List.subset_cons_self ..)
    split at h
    · cases h
    · cases h
      exact ⟨hcode, List.nil_subset _⟩
    · next c behind hdrop _ =>
      split at h
      · cases h
        rw [hdrop] at hbehind
        refine ⟨hcode, fun d hd => hbehind ?_⟩
        exact List.mem_cons_of_mem _ (List.mem_cons_of_mem _ ((List.dropWhile_suffix _).subset hd))
      · cases h
    · cases h
  · cases h

end Comment

/-- A code point is in nothing that an option says. -/
structure CommandOption.IsFreeOf (d : CodePoint) (o : CommandOption) : Prop where
  longName : ∀ name ∈ o.longName, d ∉ name
  flag : ∀ flag ∈ o.flag, d ∉ flag
  description : d ∉ o.description

theorem Comment.readOption_isFreeOf {body : Text} (h : d ∉ body) :
    (readOption body).IsFreeOf d where
  longName _ hname hmem := h (takeWord?_fst_subset longName?_subset hname hmem)
  flag _ hflag hmem :=
    h (takeWord?_snd_subset _ _ (takeWord?_fst_subset shortFlag?_subset hflag hmem))
  description hmem := h (takeWord?_snd_subset _ _ (takeWord?_snd_subset _ _ hmem))

namespace Comment.Line

/-- A code point is in nothing that a line says. -/
def IsFreeOf (d : CodePoint) : Line → Prop
  | usage text => d ∉ text
  | arg name description => d ∉ name ∧ d ∉ description
  | option o => o.IsFreeOf d
  | «example» e => d ∉ e.code ∧ d ∉ e.description
  | dropped line => d ∉ line
  | prose line => d ∉ line

theorem isFreeOf_of_read? {tag : Tag} {body : Text} {line : Line} (hbody : d ∉ body)
    (h : tag.read? body = some line) : line.IsFreeOf d := by
  have hword : d ∉ (Text.cutWord body).1 := fun hmem => hbody (Text.cutWord_fst_subset _ hmem)
  have hrest : d ∉ (Text.cutWord body).2 := fun hmem => hbody (Text.cutWord_snd_subset _ hmem)
  rw [Tag.read?] at h
  split at h
  · cases h
  · cases tag with
    | usage => cases h; exact hbody
    | arg => cases h; exact ⟨hword, hrest⟩
    | opt => cases h; exact readOption_isFreeOf hbody
    | flag =>
      obtain ⟨flag, hmap, rfl⟩ := Option.map_eq_some_iff.mp h
      obtain ⟨letter, hflag, he⟩ := Option.bind_eq_some_iff.mp hmap
      cases he
      refine ⟨fun _ hname => absurd hname (Option.not_mem_none _), fun f hf => ?_, hrest⟩
      cases hf
      exact fun hmem => hword (bareFlag?_subset hflag hmem)
    | «example» =>
      obtain ⟨e, he, rfl⟩ := Option.map_eq_some_iff.mp h
      obtain ⟨hcode, hdescription⟩ := readExample?_subset he
      exact ⟨fun hmem => hbody (hcode hmem), fun hmem => hbody (hdescription hmem)⟩

/-- A line says nothing that is not in its text. -/
theorem isFreeOf_ofText {t : Text} (h : d ∉ t) : (ofText t).IsFreeOf d := by
  rw [ofText]
  split
  next word body hcut =>
  have hbody : d ∉ body := fun hmem => h (Text.cutWord_snd_subset t (by rw [hcut]; exact hmem))
  split
  · next line hline =>
    obtain ⟨tag, -, hread⟩ := Option.bind_eq_some_iff.mp hline
    exact isFreeOf_of_read? hbody hread
  · split
    · exact h
    · exact h

end Comment.Line

/-! ### Pages -/

theorem cutAtGap_subset (t : Text) :
    (cutAtGap t).1 ⊆ t ∧ ∀ behind ∈ (cutAtGap t).2, behind ⊆ t := by
  fun_induction cutAtGap t with
  | case1 => exact ⟨List.Subset.refl _, fun _ h => absurd h (Option.not_mem_none _)⟩
  | case2 rest =>
    refine ⟨List.nil_subset _, fun behind h => ?_⟩
    cases h
    exact fun c hc =>
      List.mem_cons_of_mem _ (List.mem_cons_of_mem _ ((List.dropWhile_suffix _).subset hc))
  | case3 c rest _ before behind? hcut ih =>
    rw [hcut] at ih
    exact ⟨List.cons_subset_cons _ ih.1, fun behind h =>
      List.subset_cons_of_subset _ (ih.2 behind h)⟩

theorem splitDescription_subset (t : Text) :
    (splitDescription t).1 ⊆ t ∧ ∀ behind ∈ (splitDescription t).2, behind ⊆ t := by
  obtain ⟨hbefore, hbehind⟩ := cutAtGap_subset (Text.trim (fun c => c = '\n' || c = ' ') t)
  exact ⟨List.Subset.trans hbefore (Text.trim_subset _ _), fun behind h =>
    List.Subset.trans (hbehind behind h) (Text.trim_subset _ _)⟩

namespace Page

/-- A code point is in none of the texts of a page. -/
structure IsFreeOf (d : CodePoint) (page : Page) : Prop where
  description : d ∉ page.description
  longDescription : ∀ t ∈ page.longDescription, d ∉ t
  usage : ∀ t ∈ page.usage, d ∉ t
  args : page.args.IsFreeOf d
  options : ∀ o ∈ page.options, o.IsFreeOf d
  subCommands : page.subCommands.IsFreeOf d
  examples : ∀ e ∈ page.examples, d ∉ e.code ∧ d ∉ e.description

theorem ofLines_eq (s : Substitution) (lines : List Comment.Line) :
    ofLines s lines =
      { description :=
          (splitDescription (Text.joinWith "\n" (lines.filterMap Comment.Line.prose?))).1
        longDescription :=
          (splitDescription (Text.joinWith "\n" (lines.filterMap Comment.Line.prose?))).2
        usage := (lines.filterMap Comment.Line.usage?).getLast?.map s.apply
        args := Entries.ofList (lines.filterMap Comment.Line.arg?)
        options := lines.filterMap Comment.Line.option?
        examples := (lines.filterMap Comment.Line.example?).map fun e =>
          { e with code := s.apply e.code } } := by
  rw [ofLines]

/-- The page of a comment has the characters of the comment and of the name of the
program only. -/
theorem isFreeOf_ofComment {s : Substitution} {comment : Text} (hcomment : d ∉ comment)
    (hprogram : d ∉ s.program) (hfeed : d ≠ .char '\n') : (ofComment s comment).IsFreeOf d := by
  have hlines : ∀ line ∈ Comment.read comment, line.IsFreeOf d := by
    intro line hline
    obtain ⟨t, ht, rfl⟩ := List.mem_map.mp hline
    exact Comment.Line.isFreeOf_ofText fun hmem => hcomment (Comment.subset_of_mem_lines ht hmem)
  have happly : ∀ t : Text, d ∉ t → d ∉ s.apply t := fun t ht hmem =>
    (Text.mem_replace hmem).elim hprogram ht
  have hprose : d ∉ Text.joinWith "\n" ((Comment.read comment).filterMap Comment.Line.prose?) := by
    intro hmem
    rcases Text.mem_joinWith hmem with hmem | ⟨t, ht, hmem⟩
    · exact hfeed (List.mem_singleton.mp hmem)
    · obtain ⟨line, hline, hsome⟩ := List.mem_filterMap.mp ht
      cases line with
      | prose t' => cases hsome; exact hlines _ hline hmem
      | _ => cases hsome
  obtain ⟨hdescription, hlong⟩ := splitDescription_subset
    (Text.joinWith "\n" ((Comment.read comment).filterMap Comment.Line.prose?))
  rw [ofComment, ofLines_eq]
  constructor
  · dsimp only
    intro hmem
    exact hprose (hdescription hmem)
  · dsimp only
    intro t ht hmem
    exact hprose (hlong t ht hmem)
  · intro t ht
    obtain ⟨usage, husage, rfl⟩ := Option.map_eq_some_iff.mp ht
    obtain ⟨line, hline, hsome⟩ := List.mem_filterMap.mp (List.mem_of_getLast? husage)
    cases line with
    | usage text => cases hsome; exact happly _ (hlines _ hline)
    | _ => cases hsome
  · refine Entries.isFreeOf_ofList fun pair hpair => ?_
    obtain ⟨line, hline, hsome⟩ := List.mem_filterMap.mp hpair
    cases line with
    | arg name description => cases hsome; exact hlines _ hline
    | _ => cases hsome
  · intro o ho
    obtain ⟨line, hline, hsome⟩ := List.mem_filterMap.mp ho
    cases line with
    | option o' => cases hsome; exact hlines _ hline
    | _ => cases hsome
  · exact fun entry hentry => absurd hentry List.not_mem_nil
  · intro e he
    obtain ⟨e', he', rfl⟩ := List.mem_map.mp he
    obtain ⟨line, hline, hsome⟩ := List.mem_filterMap.mp he'
    cases line with
    | «example» e'' =>
      cases hsome
      obtain ⟨hcode, hdescription⟩ := hlines _ hline
      exact ⟨happly _ hcode, hdescription⟩
    | _ => cases hsome

/-- The page with more sub-commands, which are added one by one. -/
def addSubCommands (subCommands : Entries Text) (page : Page) : Page :=
  subCommands.foldl (fun page (name, description) => page.addSubCommand name description) page

theorem IsFreeOf.addSubCommands {page : Page} {subCommands : Entries Text}
    (h : page.IsFreeOf d) (hsubs : subCommands.IsFreeOf d) :
    (page.addSubCommands subCommands).IsFreeOf d := by
  induction subCommands generalizing page with
  | nil => exact h
  | cons entry rest ih =>
    obtain ⟨hname, hdescription⟩ := hsubs entry (List.mem_cons_self ..)
    have hadd : (page.addSubCommand entry.1 entry.2).IsFreeOf d :=
      { h with subCommands := h.subCommands.put hname hdescription }
    exact ih hadd fun e he => hsubs e (List.mem_cons_of_mem _ he)

/-- Sub-commands leave the rest of a page as it is. -/
theorem addSubCommands_eq (page : Page) (subCommands : Entries Text) :
    ∃ all, page.addSubCommands subCommands = { page with subCommands := all } := by
  induction subCommands generalizing page with
  | nil => exact ⟨page.subCommands, rfl⟩
  | cons entry rest ih =>
    obtain ⟨all, hall⟩ := ih (page.addSubCommand entry.1 entry.2)
    exact ⟨all, hall⟩

end Page
end HelpPages
