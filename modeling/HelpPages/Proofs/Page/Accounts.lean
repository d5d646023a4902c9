import HelpPages.Proofs.Comment.Uses
import HelpPages.Proofs.Page.Description
import HelpPages.Proofs.Page.Remarks

/-! # Every line is accounted for

Each content line of a comment has one use, and the parts of the page are made of the lines
of their uses, in order (`Page.IsMadeOf`).  The dropped lines go nowhere but to the log, one
remark for each, with a last remark that counts what is on the page.  The description is cut
out of lines of prose that are not indented, so trimming and cutting begin a line only where
one began before, and no line of it looks like a tag (`IsProseText`).  The whole account is
`Page.read_accounted`.
-/
namespace HelpPages

open Comment (Line Tag Kind Use looksTagged)
open Text (isFiller)

/-- Messages that are made from one template are printed one after the other. -/
theorem Log.foldlM_emit {α : Type} {log : Log} {level : Int} {channel message : Text}
    {values : α → Entries Value} {text : α → Text} (heard : log.isActive channel level = true)
    (h : ∀ item, textOf message (values item) = .ok (text item)) (items : List α) :
    items.foldlM (fun (log : Log) item => log.emit level channel message (values item)) log =
      .ok { log with printed := log.printed ++ items.map text } := by
  induction items generalizing log with
  | nil => rw [List.map_nil, List.append_nil]; rfl
  | cons item items ih =>
    have hrest : (log.print (text item)).isActive channel level = true := heard
    rw [List.foldlM_cons, emit_of_isActive heard (h item)]
    show items.foldlM _ (log.print (text item)) = _
    rw [ih hrest, print, List.append_assoc]
    rfl

/-! ### Lines of prose -/

/-- A line that neither looks like a tag nor is indented. -/
structure IsProseLine (line : Text) : Prop where
  untagged : looksTagged line = false
  unindented : line.head? ≠ some (.char ' ')

theorem isProseLine_nil : IsProseLine [] := ⟨rfl, nofun⟩

theorem looksTagged_append {line : Text} (h : looksTagged line = true) (rest : Text) :
    looksTagged (line ++ rest) = true := by
  unfold looksTagged at h
  split at h
  · exact h
  · cases h

theorem IsProseLine.of_start {start line : Text} (h : IsProseLine line) (hstart : start <+: line) :
    IsProseLine start := by
  obtain ⟨rest, rfl⟩ := hstart
  refine ⟨Bool.eq_false_iff.mpr fun hlooks => ?_, fun hhead => h.unindented ?_⟩
  · exact absurd (looksTagged_append hlooks rest) (Bool.eq_false_iff.mp h.untagged)
  · rw [List.head?_append, hhead]
    rfl

/-- The lines of a text are prose. -/
def IsProseText (t : Text) : Prop := ∀ line ∈ Text.splitOn '\n' t, IsProseLine line

namespace IsProseText

variable {s t : Text}

/-- A start of a text breaks its last line off. -/
theorem of_start (h : IsProseText t) (hs : s <+: t) : IsProseText s := by
  obtain ⟨rest, rfl⟩ := hs
  intro line hline
  obtain ⟨longer, hlonger, hprefix⟩ := Text.exists_of_mem_splitOn_append rest hline
  exact (h longer hlonger).of_start hprefix

/-- Behind a line feed a text goes on with the lines that it had. -/
theorem behind (h : IsProseText (s ++ .char '\n' :: t)) : IsProseText t := fun line hline =>
  h line (by rw [Text.splitOn_append]; exact List.mem_append_right _ hline)

/-- Filler at the start is line feeds, as no line is indented. -/
theorem dropWhile (h : IsProseText t) : IsProseText (t.dropWhile isFiller) := by
  induction t with
  | nil => exact h
  | cons c t ih =>
    by_cases hc : isFiller c = true
    · rw [List.dropWhile_cons_of_pos hc]
      rcases Text.isFiller_iff.mp hc with rfl | rfl
      · exact ih (behind (s := []) h)
      · have hfirst : IsProseLine (.char ' ' :: (Text.splitFirst '\n' t).1) := h _ (by
          rw [Text.splitOn_cons_ne (by decide)]
          exact List.mem_cons_self ..)
        exact absurd rfl hfirst.unindented
    · rwa [List.dropWhile_cons_of_neg hc]

theorem trim (h : IsProseText t) : IsProseText (Text.trim isFiller t) :=
  h.dropWhile.of_start (Text.dropEndWhile_isPrefix _ _)

/-- The lines that make a text are its lines. -/
theorem joinWith {lines : List Text} (h : ∀ line ∈ lines, IsProseLine line)
    (oneLine : ∀ line ∈ lines, CodePoint.char '\n' ∉ line) :
    IsProseText (Text.joinWith "\n" lines) := by
  by_cases hlines : lines = []
  · rw [hlines]
    exact List.forall_mem_singleton.mpr isProseLine_nil
  · intro line hline
    rw [show (("\n" : String) : Text) = [.char '\n'] from rfl,
      Text.splitOn_joinWith hlines oneLine] at hline
    exact h line hline

/-- Both parts of a description have lines of the text that it is cut out of. -/
theorem splitDescription (h : IsProseText t) :
    IsProseText (splitDescription t).1 ∧
      ∀ long ∈ (HelpPages.splitDescription t).2, IsProseText long := by
  by_cases hgap : gap <:+: Text.trim isFiller t
  · obtain ⟨d, k, l, hsaid, hsplit⟩ := splitDescription_of_gap hgap
    have htext := h.trim
    rw [hsplit.text] at htext
    rw [hsaid]
    refine ⟨htext.of_start (List.prefix_append _ _), fun long hlong => ?_⟩
    obtain ⟨n, rfl⟩ := Nat.exists_eq_add_of_le' (Nat.le_of_succ_le hsplit.isGap)
    rw [List.replicate_succ', List.append_assoc, ← List.append_assoc] at htext
    rw [← Option.mem_some.mp hlong]
    exact htext.behind
  · rw [splitDescription_of_not_gap hgap]
    exact ⟨h.trim, nofun⟩

end IsProseText

namespace Comment

/-- The lines of the description are prose. -/
theorem isProseLine_of_takes {line comment : Text} (hline : line ∈ lines comment)
    (h : Use.prose.takes line = true) : IsProseLine line := by
  obtain ⟨piece, -, rfl⟩ := List.mem_map.mp hline
  refine ⟨by simpa [Use.takes] using h, fun hhead => ?_⟩
  exact absurd (Text.not_of_head?_dropWhile hhead) (by decide)

end Comment

/-! ### Pages -/

namespace Page

/-- The parts of a page are made of the lines of their kinds: the arguments, options, examples
and the usage text of what the patterns for them find, and the descriptions of the lines that
do not look like tags. -/
structure IsMadeOf (page : Page) (s : Substitution) (lines : List Text) : Prop where
  usage : page.usage = (lines.filterMap fun line =>
    (Kind.usage.find? line).bind Line.usage?).getLast?.map s.apply
  args : page.args = Entries.ofList (lines.filterMap fun line =>
    (Kind.arg.find? line).bind Line.arg?)
  options : page.options = lines.filterMap fun line => (Kind.option.find? line).bind Line.option?
  examples : page.examples = (lines.filterMap fun line =>
    (Kind.example.find? line).bind Line.example?).map fun e => { e with code := s.apply e.code }
  descriptions : (page.description, page.longDescription) =
    splitDescription (Text.joinWith "\n" (lines.filter Use.prose.takes))
  subCommands : page.subCommands = []

/-- A page is made of the lines of its comment. -/
theorem isMadeOf_ofComment (s : Substitution) (comment : Text) :
    (ofComment s comment).IsMadeOf s (Comment.lines comment) := by
  have husage : ∀ said : Line, said.kind ≠ .usage → said.usage? = none := fun said h => by
    cases said with
    | usage text => exact absurd rfl h
    | _ => rfl
  have harg : ∀ said : Line, said.kind ≠ .arg → said.arg? = none := fun said h => by
    cases said with
    | arg name description => exact absurd rfl h
    | _ => rfl
  have hoption : ∀ said : Line, said.kind ≠ .option → said.option? = none := fun said h => by
    cases said with
    | option o => exact absurd rfl h
    | _ => rfl
  have hexample : ∀ said : Line, said.kind ≠ .example → said.example? = none :=
    fun said h => by
      cases said with
      | «example» e => exact absurd rfl h
      | _ => rfl
  rw [ofComment, ofLines_eq]
  refine ⟨?_, ?_, ?_, ?_, ?_, rfl⟩
  · rw [Comment.filterMap_read (by decide) husage]
  · rw [Comment.filterMap_read (by decide) harg]
  · rw [Comment.filterMap_read (by decide) hoption]
  · rw [Comment.filterMap_read (by decide) hexample]
  · rw [Comment.filterMap_prose?_read]

/-- The descriptions of a page have lines of prose. -/
theorem isProseText_ofComment (s : Substitution) (comment : Text) :
    IsProseText (ofComment s comment).description ∧
      ∀ long ∈ (ofComment s comment).longDescription, IsProseText long := by
  have hprose : IsProseText (Text.joinWith "\n" ((Comment.lines comment).filter Use.prose.takes)) :=
    .joinWith (fun line hline => by
      obtain ⟨hmem, htaken⟩ := List.mem_filter.mp hline
      exact Comment.isProseLine_of_takes hmem htaken)
      fun line hline => (Comment.isClean_of_mem_lines (List.mem_filter.mp hline).1).oneLine
  have hdescriptions := (isMadeOf_ofComment s comment).descriptions
  have hboth := hprose.splitDescription
  rw [← hdescriptions] at hboth
  dsimp only at hboth
  exact hboth

/-- **Every line of a comment is accounted for exactly once.**  Each content line has one of the
seven uses, and the page is made of the lines that are not dropped.  A console that shows the
remarks gets one for each dropped line, in order, and one with the numbers of arguments, options
and examples on the page, and nothing else; they are what the templates of the remarks say.  A
line is dropped exactly if it looks like a tag and fits the pattern of none, and no line of the
descriptions looks like a tag. -/
theorem read_accounted (s : Substitution) (comment : Text) {c : Console}
    (heard : 3 ≤ c.log.threshold "parse") :
    ∃ page dropped, (read s comment : Run Failure Page).outcome = .ok page ∧
      page.IsMadeOf s (Comment.lines comment) ∧
      (∀ line ∈ Comment.lines comment, ∃! use : Use, use.takes line = true) ∧
      dropped = (Comment.lines comment).filter Use.dropped.takes ∧
      (∀ line, line ∈ dropped ↔ line ∈ Comment.lines comment ∧
        (∃ c rest, line = .char '@' :: c :: rest ∧ Comment.isTagChar c = true) ∧
        ∀ tag : Tag, tag.pattern.groups? line = none) ∧
      (read s comment : Run Failure Page).perform c =
        (.ok page, { c with log := { c.log with printed := c.log.printed ++
          (dropped.map (("dropped tag line: " : Text) ++ ·) ++ [Comment.summary page]) } }) ∧
      (dropped.foldlM (fun (log : Log) line =>
          log.emit 3 "parse" Comment.droppedTemplate [("line", .text line)]) c.log >>= fun log =>
        log.emit 3 "parse" Comment.summaryTemplate (Comment.counts page)) =
          .ok ((read s comment : Run Failure Page).perform c).2.log ∧
      (∀ line ∈ Text.splitOn '\n' page.description, looksTagged line = false) ∧
      ∀ long ∈ page.longDescription, ∀ line ∈ Text.splitOn '\n' long,
        looksTagged line = false := by
  have hwall : Log.wall < c.log.threshold "parse" := Int.lt_of_lt_of_le (by decide) heard
  have hactive : c.log.isActive "parse" 3 = true := Log.isActive_iff.mpr ⟨hwall, heard⟩
  have hread := remarks_read (ε := Failure) s comment c
  rw [Console.heard_of_isActive hactive, remarks, Comment.dropRemarks,
    Comment.filterMap_dropped?_read] at hread
  obtain ⟨hdescription, hlong⟩ := isProseText_ofComment s comment
  refine ⟨ofComment s comment, _, outcome_read s comment, isMadeOf_ofComment s comment,
    fun line hline => Comment.existsUnique_takes (Comment.isClean_of_mem_lines hline), rfl,
    fun line => ?_, hread, ?_, fun line hline => (hdescription line hline).untagged,
    fun long hmem line hline => (hlong long hmem line hline).untagged⟩
  · rw [List.mem_filter, Comment.takes_dropped_iff, Comment.looksTagged_iff]
    simp only [Tag.fits, Option.isSome_eq_false_iff, Option.isNone_iff_eq_none]
  · rw [Log.foldlM_emit hactive Comment.textOf_droppedTemplate, hread]
    refine (Log.emit_of_isActive ?_ (Comment.textOf_summaryTemplate _)).trans ?_
    · exact hactive
    · rw [Log.print, List.append_assoc]
      rfl

/-- A comment with a line of every use. -/
def mixedComment : Text :=
  Text.joinWith "\n" ["/**", " * Copy @files.", " * @arg src  Source",
    " * @opt --force -f  Force it", " * @flag quiet", " * @flag -q  Quiet",
    " * @example \x60copy a b\x60  Copies", " * @usage copy a b", " * @see other", " *",
    " *  * @  Not a tag.", " */"]

theorem read_accounted_mixed :
    let c : Console := { log := { verbosity := 3 } }
    (3 : Int) ≤ c.log.threshold "parse" ∧
    ∃ page dropped, (read {} mixedComment : Run Failure Page).outcome = .ok page ∧
      page.IsMadeOf {} (Comment.lines mixedComment) ∧
      (∀ line ∈ Comment.lines mixedComment, ∃! use : Use, use.takes line = true) ∧
      dropped = (Comment.lines mixedComment).filter Use.dropped.takes ∧
      (∀ line, line ∈ dropped ↔ line ∈ Comment.lines mixedComment ∧
        (∃ c rest, line = .char '@' :: c :: rest ∧ Comment.isTagChar c = true) ∧
        ∀ tag : Tag, tag.pattern.groups? line = none) ∧
      (read {} mixedComment : Run Failure Page).perform c =
        (.ok page, { c with log := { c.log with printed := c.log.printed ++
          (dropped.map (("dropped tag line: " : Text) ++ ·) ++ [Comment.summary page]) } }) ∧
      (dropped.foldlM (fun (log : Log) line =>
          log.emit 3 "parse" Comment.droppedTemplate [("line", .text line)]) c.log >>= fun log =>
        log.emit 3 "parse" Comment.summaryTemplate (Comment.counts page)) =
          .ok ((read {} mixedComment : Run Failure Page).perform c).2.log ∧
      (∀ line ∈ Text.splitOn '\n' page.description, looksTagged line = false) ∧
      ∀ long ∈ page.longDescription, ∀ line ∈ Text.splitOn '\n' long,
        looksTagged line = false := by
  intro c
  have heard : (3 : Int) ≤ c.log.threshold "parse" := by decide
  exact ⟨heard, read_accounted {} mixedComment heard⟩

example : ((read {} "@see other\n@arg a" : Run Failure Page).perform
    { log := { verbosity := 3 } }).2.log.printed =
      ["dropped tag line: @see other", "parsed 1 args, 0 options, 0 examples"] := by
  decide +kernel

end Page
end HelpPages
