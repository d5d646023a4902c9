import HelpPages.Proofs.Catalog.Pages
import HelpPages.Proofs.Comment.Blanks

/-! # Docstrings and texts

The margin that is taken off the lines of a docstring is blank
(`Docstring.isBlank_of_mem_margin`), and so is everything else that is taken off unless the
docstring has tabs.  Reading takes blanks off all lines anyway, so a docstring says what its
text says before anything was taken off it (`Docstring.lines_clean`).  A command has
therefore the same page whether a text was registered for it or code whose docstring is
that text (`Catalog.loadPage_of_isBareCode`).
-/
namespace HelpPages

namespace Comment

/-- Blanks at the start of the first line do not change the content lines of a comment. -/
theorem lines_joinWith_dropWhile (line : Text) (rest : List Text) :
    lines (Text.joinWith [.char '\n'] (line.dropWhile Text.isBlank :: rest)) =
      lines (Text.joinWith [.char '\n'] (line :: rest)) := by
  have hblanks : ∀ c ∈ line.takeWhile Text.isBlank, Text.isBlank c = true := fun c hc =>
    List.mem_takeWhile_imp hc
  rw [Text.joinWith_cons_eq, Text.joinWith_cons_eq, ← lines_append_left _ hblanks,
    ← List.append_assoc, List.takeWhile_append_dropWhile]

/-- Blanks at the start of the lines behind the first one do not change the content lines
of a comment. -/
theorem lines_joinWith_map {unindent : Text → Text} (t : Text) {rest : List Text}
    (h : ∀ line ∈ rest, ∃ blanks, line = blanks ++ unindent line ∧
      (∀ c ∈ blanks, Text.isBlank c = true) ∧ CodePoint.char '\n' ∉ blanks) :
    lines (Text.joinWith [.char '\n'] (t :: rest.map unindent)) =
      lines (Text.joinWith [.char '\n'] (t :: rest)) := by
  -- the text before the line grows, as the lines behind it keep their feeds
  induction rest generalizing t with
  | nil => rfl
  | cons line rest ih =>
    obtain ⟨⟨blanks, hline, hblanks, oneLine⟩, hrest⟩ := List.forall_mem_cons.mp h
    have hgrow : ∀ (u : Text) (us : List Text), Text.joinWith [.char '\n'] (t :: u :: us) =
        Text.joinWith [.char '\n'] ((t ++ .char '\n' :: u) :: us) := fun u us => by
      rw [Text.joinWith_cons_eq, Text.joinWith_cons_eq, List.flatMap_cons]
      simp
    have hfeed : ∀ u : Text, Text.joinWith [.char '\n'] ((t ++ .char '\n' :: u) :: rest) =
        t ++ .char '\n' :: (u ++ rest.flatMap ([CodePoint.char '\n'] ++ ·)) := fun u => by
      rw [Text.joinWith_cons_eq]
      simp
    calc lines (Text.joinWith [.char '\n'] (t :: (line :: rest).map unindent))
        = lines (Text.joinWith [.char '\n'] ((t ++ .char '\n' :: unindent line) :: rest)) := by
          rw [List.map_cons, hgrow, ih _ hrest]
      _ = lines (Text.joinWith [.char '\n'] ((t ++ .char '\n' :: line) :: rest)) := by
          conv_rhs => rw [hline]
          rw [hfeed, hfeed, List.append_assoc, lines_append_feed t _ hblanks oneLine]
      _ = lines (Text.joinWith [.char '\n'] (t :: line :: rest)) := by rw [hgrow]

end Comment

namespace Docstring

theorem expandTabs_of_notMem {t : Text} (h : CodePoint.char '\t' ∉ t) (column : Nat) :
    expandTabs column t = t := by
  induction t generalizing column with
  | nil => rfl
  | cons c t ih =>
    obtain ⟨hc, ht⟩ := not_or.mp (mt List.mem_cons.mpr h)
    rw [expandTabs, if_neg (Ne.symm hc), ih ht]

/-- No line that shows anything stands left of the margin. -/
theorem margin_le_indent {lines : List Text} {line : Text} (hline : line ∈ lines)
    (shown : line.all Text.isBlank = false) : (margin lines).getD 0 ≤ indent line := by
  have hmem : indent line ∈
      (lines.filter fun line => !line.all Text.isBlank).map indent :=
    List.mem_map_of_mem (List.mem_filter.mpr ⟨hline, by simp [shown]⟩)
  rw [margin]
  cases hmin : ((lines.filter fun line => !line.all Text.isBlank).map indent).min? with
  | none => exact Nat.zero_le _
  | some m => exact (List.min?_eq_some_iff.mp hmin).2 _ hmem

/-- Nothing but blanks stands in the margin. -/
theorem isBlank_of_mem_margin {lines : List Text} {line : Text} (hline : line ∈ lines) :
    ∀ c ∈ line.take ((margin lines).getD 0), Text.isBlank c = true := by
  intro c hc
  cases hshown : line.all Text.isBlank with
  | true => exact List.all_eq_true.mp hshown c (List.take_subset _ _ hc)
  | false =>
    have htake : line.take (indent line) = line.takeWhile Text.isBlank :=
      (List.prefix_iff_eq_take.mp (List.takeWhile_prefix _)).symm
    have hmem : c ∈ line.take (indent line) :=
      List.take_subset_take_left line (margin_le_indent hline hshown) hc
    rw [htake] at hmem
    exact List.mem_takeWhile_imp hmem

/-- **A docstring without tabs says what its text says.** -/
theorem lines_clean {doc : Text} (h : CodePoint.char '\t' ∉ doc) :
    Comment.lines (clean doc) = Comment.lines doc := by
  obtain ⟨first, rest, hdoc⟩ :=
    List.exists_cons_of_ne_nil (Text.splitOn_ne_nil (.char '\n') doc)
  have hrest : ∀ line ∈ rest, ∃ blanks, line = blanks ++ line.drop ((margin rest).getD 0) ∧
      (∀ c ∈ blanks, Text.isBlank c = true) ∧ CodePoint.char '\n' ∉ blanks := by
    intro line hline
    have oneLine : CodePoint.char '\n' ∉ line :=
      Text.notMem_of_mem_splitOn (t := doc) (hdoc ▸ List.mem_cons_of_mem _ hline)
    exact ⟨_, (List.take_append_drop _ _).symm, isBlank_of_mem_margin hline,
      fun hfeed => oneLine (List.take_subset _ _ hfeed)⟩
  have hclean : clean doc = Text.joinWith [.char '\n'] (trimLines
      (first.dropWhile Text.isBlank :: rest.map (·.drop ((margin rest).getD 0)))) := by
    rw [clean, expandTabs_of_notMem h, hdoc]
    rfl
  rw [hclean, lines_joinWith_trimLines, Comment.lines_joinWith_map _ hrest,
    Comment.lines_joinWith_dropWhile, ← hdoc, Text.joinWith_splitOn]

end Docstring

/-- A reader reads the same of comments with the same content lines, and remarks the same. -/
theorem Reader.read_congr {a b : Text} (reader : Reader) (h : Comment.lines a = Comment.lines b) :
    reader.read a = reader.read b := by
  have hread : Comment.read a = Comment.read b := congrArg (List.map Comment.Line.ofText) h
  have hpage : ∀ s, (Page.read s a : Run Failure Page) = Page.read s b := fun s => by
    simp only [Page.read, Page.ofComment, hread]
  cases reader with
  | replacing s => exact hpage s
  | unable => simp only [read, hread, hpage]

namespace Target

/-- Code with a docstring and without members, that does not answer to any name either. -/
inductive IsBareCode (doc : Text) : Target → Prop
  | function : IsBareCode doc (.function (some doc) [])
  | module {beyond : Text → Answer} (silent : ∀ name, (beyond name).IsSilent) :
    IsBareCode doc (.module (some doc) [] beyond)
  | type {c : Class} {beyond : Text → Answer} (said : c.doc = some doc)
    (bare : ∀ k ∈ c.line, k.members = []) (silent : ∀ name, (beyond name).IsSilent) :
    IsBareCode doc (.type c beyond)

namespace IsBareCode

variable {doc : Text} {target : Target}

theorem doc_eq (h : target.IsBareCode doc) : target.doc = Docstring.clean doc := by
  cases h with
  | function => rfl
  | module => rfl
  | type said => rw [Target.doc, Class.line, List.findSome?_cons, said]; rfl

theorem memberNames_eq (h : target.IsBareCode doc) : target.memberNames = [] := by
  cases h with
  | function => rfl
  | module => rfl
  | type said bare =>
    refine List.flatMap_eq_nil_iff.mpr fun k hk => ?_
    rw [bare k hk]
    rfl

theorem reach?_eq (h : target.IsBareCode doc) (known : Entries Class) (name : Text) :
    target.reach? known name = none := by
  cases h with
  | function => rfl
  | module => rfl
  | @type c beyond said bare =>
    have hfind : c.find? name = none := by
      refine List.findSome?_eq_none_iff.mpr fun k hk => ?_
      rw [bare k hk]
      rfl
    rw [reach?, hfind]
    rfl

/-- Nothing is found on bare code. -/
theorem isSilent_access (h : target.IsBareCode doc) (known : Entries Class) (name : Text) :
    (target.access known name).IsSilent := by
  rw [access, h.reach?_eq known name]
  cases h with
  | function => exact ⟨fun _ h => Answer.noConfusion h, fun _ _ h => Answer.noConfusion h⟩
  | module silent => exact silent name
  | type said bare silent => exact silent name

end IsBareCode
end Target

namespace Catalog

variable {c : Catalog} {name : Text} {target : Target} {sub : Option Text}

/-- The page of a command without sub-commands is read from what is said about it. -/
theorem outcome_loadPage_of_memberNames (registered : c.get name = .ok target)
    (leaf : target.memberNames = []) (hsub : sub.getD [] = []) (reader : Reader) :
    (c.loadPage reader name sub).outcome = reader.pageOf target.doc := by
  have hresolve : c.resolve name (sub.getD []) = .ok target.doc := by
    rw [hsub, resolve_nil registered]
  have hsources : c.sources name = .ok [] := by
    rw [sources_of_get registered, sourcesOf, leaf]
    rfl
  rw [outcome_loadPage_of_resolve c reader hresolve]
  simp only [if_pos hsub, hsources]
  cases reader.pageOf target.doc <;> rfl

/-- A sub-command to which nothing answers has no page. -/
theorem outcome_loadPage_of_isSilent (registered : c.get name = .ok target)
    (silent : ∀ member, (target.access c.classes member).IsSilent) (hsub : sub.getD [] ≠ [])
    (reader : Reader) :
    (c.loadPage reader name sub).outcome =
      .error (.catalog (.unknownSubCommand (sub.getD []) name)) := by
  refine outcome_loadPage_of_unresolved c reader ?_
  rw [resolve_of_get registered hsub]
  exact ofAnswer_eq_unknown_iff.mpr (silent _)

/-- **It does not matter whether a text is registered or code that has it as docstring.**
Two commands, one with a text without tabs and one with code of that docstring that has no
members, have the same page, and neither has a sub-command. -/
theorem loadPage_of_isBareCode {c c' : Catalog} {name name' doc : Text} {target : Target}
    (hc : c.get name = .ok (.text doc)) (hc' : c'.get name' = .ok target)
    (bare : target.IsBareCode doc) (notab : CodePoint.char '\t' ∉ doc) (sub : Option Text)
    (reader : Reader) :
    (sub.getD [] = [] →
      (c.loadPage reader name sub).outcome = (c'.loadPage reader name' sub).outcome ∧
      ∀ s, reader = .replacing s →
        (c.loadPage reader name sub).outcome = .ok (Page.ofComment s doc)) ∧
    (sub.getD [] ≠ [] →
      (c.loadPage reader name sub).outcome =
        .error (.catalog (.unknownSubCommand (sub.getD []) name)) ∧
      (c'.loadPage reader name' sub).outcome =
        .error (.catalog (.unknownSubCommand (sub.getD []) name'))) := by
  refine ⟨fun hsub => ?_, fun hsub => ⟨?_, ?_⟩⟩
  · have htext : (c.loadPage reader name sub).outcome = reader.pageOf doc :=
      outcome_loadPage_of_memberNames hc rfl hsub reader
    have hcode : (c'.loadPage reader name' sub).outcome =
        reader.pageOf (Docstring.clean doc) := by
      rw [outcome_loadPage_of_memberNames hc' bare.memberNames_eq hsub, bare.doc_eq]
    have hclean := Docstring.lines_clean notab
    refine ⟨?_, ?_⟩
    · rw [htext, hcode, ← reader.outcome_read, ← reader.outcome_read, reader.read_congr hclean]
    · rintro s rfl
      rw [htext]
      rfl
  · exact outcome_loadPage_of_isSilent hc (fun _ => ⟨nofun, nofun⟩) hsub reader
  · exact outcome_loadPage_of_isSilent hc' (bare.isSilent_access c'.classes) hsub reader

/-- A documented command as a text and as a class. -/
def copyCatalog : Catalog :=
  let doc : Text := "  Copy files.\n    @arg src  Source\n\n      \n  More.\n  "
  let copy := Class.mk 1 "Copy" (some doc) [] [Class.mk 0 "Base" (some "Base.") [] []]
  { commands := [("copy", .text doc), ("copy-type", .type copy)] }

theorem loadPage_of_isBareCode_copy :
    ∃ doc target, copyCatalog.get "copy" = .ok (.text doc) ∧
      copyCatalog.get "copy-type" = .ok target ∧ target.IsBareCode doc ∧
      CodePoint.char '\t' ∉ doc ∧
      (copyCatalog.loadPage (.replacing {}) "copy" none).outcome =
        (copyCatalog.loadPage (.replacing {}) "copy-type" none).outcome ∧
      ∀ s, Reader.replacing {} = .replacing s →
        (copyCatalog.loadPage (.replacing {}) "copy" none).outcome =
          .ok (Page.ofComment s doc) :=
  have bare : Target.IsBareCode _ (Target.type _) := .type rfl (by decide) fun _ => ⟨nofun, nofun⟩
  ⟨_, _, rfl, rfl, bare, by decide,
    (loadPage_of_isBareCode rfl rfl bare (by decide) none (.replacing {})).1 rfl⟩

end Catalog
end HelpPages
