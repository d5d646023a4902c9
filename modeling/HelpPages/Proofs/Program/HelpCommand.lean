import HelpPages.Proofs.Catalog.Docstring
import HelpPages.Proofs.Page.Encodable
import HelpPages.Proofs.Program.Stages

/-! # The help command on the commands of the program

What the program says about its own commands can be drawn, whatever the name of the program is,
and it names the program.  So the help command fails at nothing but its settings, at commands that
there are not and at its output: at an indent that is no length, at a token or a name that is no
text, at a name that the catalog does not resolve, and at a text that has no form in bytes
(`Help.outcome_showCommands`, `Help.outcome_showPage`).
-/
namespace HelpPages

/-! ### Pages that can be drawn -/

/-- All names and texts can be encoded. -/
def Entries.AreEncodable (entries : Entries Text) : Prop :=
  ∀ entry ∈ entries, entry.1.isEncodable = true ∧ entry.2.isEncodable = true

theorem Entries.AreEncodable.put {entries : Entries Text} (h : entries.AreEncodable)
    {name value : Text} (hname : name.isEncodable = true) (hvalue : value.isEncodable = true) :
    (entries.put name value).AreEncodable := by
  induction entries with
  | nil => exact List.forall_mem_singleton.mpr ⟨hname, hvalue⟩
  | cons entry rest ih =>
    obtain ⟨hentry, hrest⟩ := List.forall_mem_cons.mp h
    rw [Entries.put]
    split
    · exact List.forall_mem_cons.mpr ⟨⟨hentry.1, hvalue⟩, hrest⟩
    · exact List.forall_mem_cons.mpr ⟨hentry, ih hrest⟩

namespace Renderer

theorem isMeasurable_nameLayout_iff {entries : Entries Text} :
    Table.isMeasurable (nameLayout entries).2 = true ↔ entries.AreEncodable := by
  simp [nameLayout, Table.isMeasurable, Entries.AreEncodable]

/-- A page can be drawn if all in its tables can be encoded. -/
theorem isDrawable_iff {page : Page} :
    isDrawable page = true ↔ page.args.AreEncodable ∧
      Table.isMeasurable (page.options.map optionRow) = true ∧ page.subCommands.AreEncodable := by
  have hnames : ∀ entries : Entries Text,
      areMeasurable (if entries = [] then [] else [nameLayout entries]) = true ↔
        entries.AreEncodable := by
    intro entries
    split
    · next hnil => simp [hnil, areMeasurable, Entries.AreEncodable]
    · rw [areMeasurable_singleton, isMeasurable_nameLayout_iff]
  have hoptions : areMeasurable (optionLayouts page) = true ↔
      Table.isMeasurable (page.options.map optionRow) = true := by
    rw [optionLayouts]
    split
    · next hnil => simp [hnil, areMeasurable, Table.isMeasurable]
    · rw [areMeasurable_singleton]
  rw [isDrawable, layouts, areMeasurable, List.all_append, List.all_append, Bool.and_eq_true,
    Bool.and_eq_true, ← areMeasurable, ← areMeasurable, ← areMeasurable, hoptions, argLayouts,
    subCommandLayouts, hnames, hnames, and_assoc]

/-- A page can still be drawn with sub-commands that can be encoded. -/
theorem isDrawable_addSubCommands {page : Page} {subCommands : Entries Text}
    (h : isDrawable page = true) (hsubs : subCommands.AreEncodable) :
    isDrawable (page.addSubCommands subCommands) = true := by
  induction subCommands generalizing page with
  | nil => exact h
  | cons entry rest ih =>
    obtain ⟨⟨hname, hdescription⟩, hrest⟩ := List.forall_mem_cons.mp hsubs
    obtain ⟨hargs, hoptions, hall⟩ := isDrawable_iff.mp h
    exact ih (isDrawable_iff.mpr ⟨hargs, hoptions, hall.put hname hdescription⟩) hrest

/-- A list of commands that can be encoded is drawn. -/
theorem outcome_drawCommandList {r : Renderer} {commands : Entries Text}
    (h : commands.AreEncodable) :
    (r.drawCommandList commands).outcome = .ok (r.commandList commands) := by
  rw [drawCommandList, Run.outcome_bind, outcome_tellLayouts, areMeasurable_singleton,
    isMeasurable_nameLayout_iff.mpr h]
  rfl

end Renderer

/-! ### What the program says about its commands -/

/-- What is said about a command names the program, and its page can be drawn and listed. -/
structure IsOwnDoc (doc : Text) : Prop where
  names : (Comment.read doc).any Comment.Line.namesProgram = true
  drawable : Renderer.isDrawable (Page.ofComment .none doc) = true
  listable : (Page.ofComment .none doc).shortDescription.isEncodable = true
  tabless : CodePoint.char '\t' ∉ doc

instance (doc : Text) : Decidable (IsOwnDoc doc) :=
  decidable_of_iff ((Comment.read doc).any Comment.Line.namesProgram = true ∧
      Renderer.isDrawable (Page.ofComment .none doc) = true ∧
      (Page.ofComment .none doc).shortDescription.isEncodable = true ∧ CodePoint.char '\t' ∉ doc)
    ⟨fun h => ⟨h.1, h.2.1, h.2.2.1, h.2.2.2⟩, fun h => ⟨h.1, h.2, h.3, h.4⟩⟩

theorem isOwnDoc_help : IsOwnDoc Help.doc := by
  rw [Help.doc]
  repeat rw [Text.ofString_ofList]
  decide +kernel

theorem isOwnDoc_table : IsOwnDoc Table.doc := by
  rw [Table.doc]
  repeat rw [Text.ofString_ofList]
  decide +kernel

theorem isOwnDoc_csv : IsOwnDoc Table.csvDoc := by
  rw [Table.csvDoc]
  repeat rw [Text.ofString_ofList]
  decide +kernel

theorem isOwnDoc_tsv : IsOwnDoc Table.tsvDoc := by
  rw [Table.tsvDoc]
  repeat rw [Text.ofString_ofList]
  decide +kernel

/-- The name of the program has no part in the tables of a page, nor in its first line. -/
theorem Page.ofComment_tables (s : Substitution) (doc : Text) :
    (ofComment s doc).args = (ofComment .none doc).args ∧
      (ofComment s doc).options = (ofComment .none doc).options ∧
      (ofComment s doc).subCommands = (ofComment .none doc).subCommands ∧
      (ofComment s doc).shortDescription = (ofComment .none doc).shortDescription := by
  rw [ofComment, ofComment, ofLines_eq, ofLines_eq]
  exact ⟨rfl, rfl, rfl, rfl⟩

namespace IsOwnDoc

variable {doc : Text} (h : IsOwnDoc doc) (s : Substitution)
include h

theorem isDrawable_ofComment : Renderer.isDrawable (Page.ofComment s doc) = true := by
  obtain ⟨hargs, hoptions, hsubs, -⟩ := Page.ofComment_tables s doc
  rw [Renderer.isDrawable_iff, hargs, hoptions, hsubs]
  exact Renderer.isDrawable_iff.mp h.drawable

theorem ofComment_clean : Page.ofComment s (Docstring.clean doc) = Page.ofComment s doc := by
  have hread : Comment.read (Docstring.clean doc) = Comment.read doc :=
    congrArg (List.map Comment.Line.ofText) (Docstring.lines_clean h.tabless)
  rw [Page.ofComment, Page.ofComment, hread]

theorem isEncodable_shortDescription :
    (Page.ofComment s doc).shortDescription.isEncodable = true := by
  rw [(Page.ofComment_tables s doc).2.2.2]
  exact h.listable

end IsOwnDoc

namespace Reader

/-- The reader can put the name of the program in. -/
def check : Reader → Except Failure Unit
  | replacing _ => .ok ()
  | unable => .error .wrongKind

variable {doc : Text}

/-- Of what is said about a command a reader makes a page, unless it cannot put the name of the
program in. -/
theorem pageOf_of_isOwnDoc (h : IsOwnDoc doc) (reader : Reader) :
    reader.pageOf (Docstring.clean doc) =
      match reader with
      | replacing s => .ok (Page.ofComment s doc)
      | unable => .error .wrongKind := by
  have hread : Comment.read (Docstring.clean doc) = Comment.read doc :=
    congrArg (List.map Comment.Line.ofText) (Docstring.lines_clean h.tabless)
  cases reader with
  | replacing s => exact congrArg Except.ok (h.ofComment_clean s)
  | unable => rw [pageOf, hread, if_pos h.names]

end Reader

/-! ### The catalog of the program -/

/-- A target is documented by the program: by code with a docstring, and by functions with
docstrings for its sub-commands. -/
structure Target.IsOwn (target : Target) : Prop where
  doc_eq : ∃ doc, IsOwnDoc doc ∧ target.doc = Docstring.clean doc
  reached : ∀ known member found, target.reach? known member = some found →
    ∃ doc, IsOwnDoc doc ∧ found = ⟨true, Docstring.clean doc⟩
  alone : ∀ name, target.beyond name = .nothing
  plain : ∀ member ∈ target.memberNames, CodePoint.char '-' ∉ member
  named : ∀ member ∈ target.memberNames, ∀ sub ∈ subCommandName? member, sub.isEncodable = true

theorem Target.docText_some (doc : Text) : docText (some doc) = Docstring.clean doc := rfl

theorem Help.isOwn_target : Help.target.IsOwn where
  doc_eq := ⟨Help.doc, isOwnDoc_help, by rw [Help.target, Target.doc, Target.docText_some]⟩
  reached := nofun
  alone _ := rfl
  plain := nofun
  named := nofun

theorem Table.isOwn_target : Table.target.IsOwn where
  doc_eq := ⟨Table.doc, isOwnDoc_table, by rw [Table.target, Target.doc, Target.docText_some]⟩
  reached _ member found h := by
    obtain ⟨m, hm, rfl⟩ := Option.map_eq_some_iff.mp h
    rcases List.mem_pair.mp (Entries.mem_of_get?_eq_some hm) with he | he
    · refine ⟨Table.csvDoc, isOwnDoc_csv, ?_⟩
      rw [(Prod.mk.inj he).2, Target.reachPlain, Target.docText_some]
    · refine ⟨Table.tsvDoc, isOwnDoc_tsv, ?_⟩
      rw [(Prod.mk.inj he).2, Target.reachPlain, Target.docText_some]
  alone _ := rfl
  plain := by decide
  named := by decide

namespace Catalog

variable {name sub doc : Text}

theorem isOwn_of_get {target : Target} (h : Catalog.standard.get name = .ok target) :
    target.IsOwn := by
  have hget : Entries.get? name standardCommands = some target := by
    rw [get] at h
    split at h
    · next found hfound => cases h; exact hfound
    · cases h
  rcases List.mem_pair.mp (Entries.mem_of_get?_eq_some hget) with he | he
  · rw [(Prod.mk.inj he).2]
    exact Help.isOwn_target
  · rw [(Prod.mk.inj he).2]
    exact Table.isOwn_target

/-- What is found about a command of the program is said by the program. -/
theorem isOwnDoc_of_resolve (h : Catalog.standard.resolve name sub = .ok doc) :
    ∃ own, IsOwnDoc own ∧ doc = Docstring.clean own := by
  obtain ⟨target, htarget, -⟩ := bind_eq_ok_iff.mp h
  have hown := isOwn_of_get htarget
  by_cases hsub : sub = []
  · obtain ⟨own, hsaid, he⟩ := hown.doc_eq
    rw [hsub, resolve_nil htarget] at h
    exact ⟨own, hsaid, (Except.ok.inj h).symm.trans he⟩
  · rw [resolve_of_get htarget hsub, ofAnswer_eq_ok_iff, Target.access, hown.alone] at h
    split at h
    · next found hfound =>
      obtain ⟨own, hsaid, he⟩ := hown.reached _ _ _ hfound
      have hdoc := congrArg Target.Reached.doc (Target.Answer.found.inj h)
      exact ⟨own, hsaid, hdoc.symm.trans (congrArg Target.Reached.doc he)⟩
    · cases h

/-- A command or sub-command of the program is only missed because there is none. -/
theorem exitCode?_of_resolve {e : Error} (h : Catalog.standard.resolve name sub = .error e) :
    (Failure.catalog e).exitCode? = some 1 := by
  cases hget : Catalog.standard.get name with
  | error e' =>
    have hfirst : e' = e := by
      rw [resolve, hget] at h
      exact Except.error.inj h
    rw [get] at hget
    split at hget
    · cases hget
    · cases hget
      rw [← hfirst]
      rfl
  | ok target =>
    by_cases hsub : sub = []
    · rw [hsub, resolve_nil hget] at h
      cases h
    · have hown := isOwn_of_get hget
      rw [resolve_of_get hget hsub, Target.access, hown.alone] at h
      split at h
      · next found hfound =>
        obtain ⟨own, -, rfl⟩ := hown.reached _ _ _ hfound
        cases h
      · cases h
        rfl

/-- What is said about the sub-commands of a command of the program is said by the program. -/
theorem isOwnDoc_of_mem_sources {sources : Entries Text}
    (h : Catalog.standard.sources name = .ok sources) {entry : Text × Text}
    (hentry : entry ∈ sources) :
    entry.1.isEncodable = true ∧ ∃ own, IsOwnDoc own ∧ entry.2 = Docstring.clean own := by
  obtain ⟨target, htarget, -⟩ := bind_eq_ok_iff.mp h
  have hown := isOwn_of_get htarget
  rw [sources_of_get htarget] at h
  cases h
  obtain ⟨⟨member, hmember, hname⟩, hreach⟩ :=
    ((isListing_sourcesOf hown.plain).mem_iff entry.1 entry.2).mp hentry
  obtain ⟨own, hsaid, he⟩ := hown.reached _ _ _ hreach
  exact ⟨hown.named member hmember entry.1 hname, own, hsaid, congrArg Target.Reached.doc he⟩

theorem outcome_loadPage_unable {sub : Option Text}
    (h : Catalog.standard.resolve name (sub.getD []) = .ok doc) :
    (Catalog.standard.loadPage .unable name sub).outcome = .error .wrongKind := by
  obtain ⟨own, hown, rfl⟩ := isOwnDoc_of_resolve h
  rw [outcome_loadPage_of_resolve _ _ h, Reader.pageOf_of_isOwnDoc hown]
  rfl

/-- The short descriptions of the sub-commands of a command of the program can be encoded. -/
theorem areEncodable_subCommands (s : Substitution) {sources : Entries Text}
    (h : Catalog.standard.sources name = .ok sources) :
    (listed s sources).AreEncodable := by
  intro entry hentry
  obtain ⟨source, hsource, rfl⟩ := List.mem_map.mp hentry
  obtain ⟨hname, own, hown, he⟩ := isOwnDoc_of_mem_sources h hsource
  have hshort : (Page.ofComment s source.2).shortDescription.isEncodable = true := by
    rw [he, hown.ofComment_clean]
    exact hown.isEncodable_shortDescription s
  generalize Page.ofComment s source.2 = page at hshort ⊢
  exact ⟨hname, hshort⟩

/-- The page of a command of the program can be drawn. -/
theorem outcome_loadPage_replacing (s : Substitution) {sub : Option Text}
    (h : Catalog.standard.resolve name (sub.getD []) = .ok doc) :
    ∃ page, (Catalog.standard.loadPage (.replacing s) name sub).outcome = .ok page ∧
      Renderer.isDrawable page = true := by
  obtain ⟨own, hown, rfl⟩ := isOwnDoc_of_resolve h
  obtain ⟨target, htarget, -⟩ := bind_eq_ok_iff.mp h
  have hsources := sources_of_get htarget
  have hpage := hown.isDrawable_ofComment s
  rw [outcome_loadPage_of_resolve _ _ h, Reader.pageOf_of_isOwnDoc hown]
  by_cases hsub : sub.getD [] = []
  · refine ⟨_, ?_, Renderer.isDrawable_addSubCommands hpage (areEncodable_subCommands s hsources)⟩
    simp only [Except.bind, if_pos hsub, hsources, Except.mapError, outcome_addSubCommands]
  · refine ⟨_, ?_, hpage⟩
    simp only [Except.bind, if_neg hsub]

/-- A command of the program is found by its name. -/
theorem exists_resolve_of_mem_names (h : name ∈ Catalog.standard.names) :
    name.isEncodable = true ∧ ∃ doc, Catalog.standard.resolve name [] = .ok doc := by
  rcases List.mem_pair.mp h with rfl | rfl
  · exact ⟨by decide, Help.target.doc, rfl⟩
  · exact ⟨by decide, Table.target.doc, rfl⟩

/-- Without a name for the program not even the first command can be described. -/
theorem outcome_shortDescriptions_unable :
    (Catalog.standard.shortDescriptions .unable).outcome = .error .wrongKind := by
  obtain ⟨-, doc, hdoc⟩ := exists_resolve_of_mem_names (List.mem_cons_self ..)
  obtain ⟨own, hown, rfl⟩ := isOwnDoc_of_resolve hdoc
  show (Catalog.standard.describeAll .unable (CommandLine.helpName :: _)).outcome = _
  rw [outcome_describeAll_cons _ _ _ hdoc, Reader.pageOf_of_isOwnDoc hown]
  rfl

/-- The list of all commands can be drawn. -/
theorem outcome_shortDescriptions_replacing (s : Substitution) :
    ∃ commands, (Catalog.standard.shortDescriptions (.replacing s)).outcome = .ok commands ∧
      commands.AreEncodable := by
  obtain ⟨commands, hcommands, hnames, hshort⟩ :=
    outcome_describeAll s fun name (h : name ∈ Catalog.standard.names) => h
  refine ⟨commands, hcommands, ?_⟩
  rintro ⟨name, short⟩ hentry
  have hname : name ∈ Catalog.standard.names := hnames ▸ List.mem_map_of_mem hentry
  obtain ⟨target, htarget, hfirst⟩ := hshort name short hentry
  obtain ⟨own, hown, he⟩ := isOwnDoc_of_resolve (resolve_nil htarget)
  have hencodable : short.isEncodable = true := by
    rw [hfirst, he, hown.ofComment_clean]
    exact hown.isEncodable_shortDescription s
  exact ⟨(exists_resolve_of_mem_names hname).1, hencodable⟩

end Catalog

/-! ### The help command -/

namespace Help

/-- The line that shows how the program is called can be written if the name of the program
can. -/
theorem takes_usage (sink : Sink) (pen : Pen) (program : Text) :
    sink.takes (pen.heading "Usage:" ++ "\n  " ++ program ++ " command [arguments]\n") =
      sink.takes program := by
  cases sink with
  | memory => rfl
  | utf8 =>
    have hheading : (pen.heading "Usage:" ++ "\n  " : Text).isEncodable = true :=
      Text.isEncodable_append (pen.isEncodable_write _ (by decide)) rfl
    have hrest : Text.isEncodable (" command [arguments]\n" : Text) = true := by decide
    rw [Text.isEncodable] at hheading hrest
    rw [Sink.takes, Sink.takes, Text.isEncodable, List.all_append, List.all_append, hheading,
      hrest, Bool.true_and, Bool.and_true]
    rfl

/-- The list of all commands is shown, unless the name of the program cannot be written, or the
renderer or the reader cannot be made. -/
theorem outcome_showCommands {r : Request} (writable : r.program.isWritable = true) :
    (showCommands .standard r).outcome =
      if r.sink.takes r.program.plain then
        r.settings.renderer.bind fun _ => (Reader.ofValues r.settings.token r.program).check
      else .error .unencodable := by
  have husage : usage ⟨r.settings.color.isTruthy⟩ r.program =
      .ok (Pen.heading ⟨r.settings.color.isTruthy⟩ "Usage:" ++ "\n  " ++ r.program.plain
        ++ " command [arguments]\n") := by
    rw [usage, Value.plain?, if_pos writable]
    rfl
  rw [showCommands, husage]
  show (Run.write _ _ >>= _ : Run Failure Unit).outcome = _
  rw [Run.outcome_bind, Run.outcome_write, takes_usage]
  split
  · show (Run.ofExcept r.settings.renderer >>= _ : Run Failure Unit).outcome = _
    rw [Run.outcome_bind]
    refine congrArg _ (funext fun renderer => ?_)
    rw [Run.outcome_bind]
    cases Reader.ofValues r.settings.token r.program with
    | unable =>
      rw [Catalog.outcome_shortDescriptions_unable]
      rfl
    | replacing s =>
      obtain ⟨commands, hcommands, hall⟩ := Catalog.outcome_shortDescriptions_replacing s
      rw [hcommands]
      show (renderer.drawCommandList commands >>= _ : Run Failure Unit).outcome = _
      rw [Run.outcome_bind, Renderer.outcome_drawCommandList hall]
      show (Run.write _ _ >>= _ : Run Failure Unit).outcome = _
      have hlist : (Text.dropEndWhile (·.is '\n') (renderer.commandList commands)).isEncodable =
          true :=
        Text.isEncodable_of_subset (Text.dropEndWhile_isPrefix _ _).subset
          (renderer.isEncodable_commandList (Renderer.isMeasurable_nameLayout_iff.mpr hall))
      rw [Run.outcome_bind, Run.outcome_write, if_pos (r.sink.takes_of_isEncodable hlist)]
      rfl
  · rfl

/-- A page of the program is not found, or the name of the program cannot be put in. -/
theorem outcome_loadPage_eq_error_iff {reader : Reader} {name : Text} {sub : Option Text}
    {e : Failure} : (Catalog.standard.loadPage reader name sub).outcome = .error e ↔
      (∃ missing, Catalog.standard.resolve name (sub.getD []) = .error missing ∧
        e = .catalog missing) ∨
      (∃ doc, Catalog.standard.resolve name (sub.getD []) = .ok doc) ∧
        reader.check = .error e := by
  cases hdoc : Catalog.standard.resolve name (sub.getD []) with
  | error missing =>
    rw [Catalog.outcome_loadPage_of_unresolved _ _ hdoc]
    constructor
    · intro h
      exact .inl ⟨missing, rfl, (Except.error.inj h).symm⟩
    · rintro (⟨_, hmissing, rfl⟩ | ⟨⟨_, hnone⟩, -⟩)
      · rw [Except.error.inj hmissing]
      · cases hnone
  | ok doc =>
    constructor
    · intro h
      refine .inr ⟨⟨doc, rfl⟩, ?_⟩
      cases reader with
      | unable =>
        rw [Catalog.outcome_loadPage_unable hdoc] at h
        cases h
        rfl
      | replacing s =>
        obtain ⟨page, hpage, -⟩ := Catalog.outcome_loadPage_replacing s hdoc
        cases hpage.symm.trans h
    · rintro (⟨_, hmissing, -⟩ | ⟨-, hcheck⟩)
      · cases hmissing
      · cases reader with
        | unable =>
          cases hcheck
          exact Catalog.outcome_loadPage_unable hdoc
        | replacing s => cases hcheck

/-- A page of the program that is loaded can be drawn. -/
theorem isDrawable_of_loadPage {reader : Reader} {name : Text} {sub : Option Text} {page : Page}
    (h : (Catalog.standard.loadPage reader name sub).outcome = .ok page) :
    Renderer.isDrawable page = true := by
  cases hdoc : Catalog.standard.resolve name (sub.getD []) with
  | error missing =>
    rw [Catalog.outcome_loadPage_of_unresolved _ _ hdoc] at h
    cases h
  | ok doc =>
    cases reader with
    | unable =>
      rw [Catalog.outcome_loadPage_unable hdoc] at h
      cases h
    | replacing s =>
      obtain ⟨other, hother, hdrawable⟩ := Catalog.outcome_loadPage_replacing s hdoc
      cases hother.symm.trans h
      exact hdrawable

/-- A page is shown, unless it is not loaded, or the renderer cannot be made, or its text cannot
be written. -/
theorem outcome_showPage (r : Request) :
    (showPage .standard r).outcome =
      (Catalog.standard.loadPage (Reader.ofValues r.settings.token r.program) r.command
        r.subCommand).outcome.bind fun page =>
          r.settings.renderer.bind fun renderer =>
            if r.sink.takes (renderer.render page) then .ok () else .error .unencodable := by
  rw [showPage, Run.outcome_bind]
  cases hpage : (Catalog.standard.loadPage (Reader.ofValues r.settings.token r.program) r.command
      r.subCommand).outcome with
  | error e => rfl
  | ok page =>
    show (Run.ofExcept r.settings.renderer >>= _ : Run Failure Unit).outcome =
      r.settings.renderer.bind _
    rw [Run.outcome_bind]
    refine congrArg _ (funext fun renderer => ?_)
    rw [Run.outcome_bind, Renderer.outcome_draw_page, if_pos (isDrawable_of_loadPage hpage)]
    show (Run.write _ _ >>= _ : Run Failure Unit).outcome = _
    rw [Run.outcome_bind, Run.outcome_write]
    split
    · show (if page.subCommands ≠ [] then _ else _ : Run Failure Unit).outcome = _
      split <;> rfl
    · rfl

end Help
end HelpPages
