import HelpPages.Catalog.Run
import HelpPages.Proofs.Catalog.SubCommands
import HelpPages.Proofs.Page.Characters
import HelpPages.Proofs.Page.Remarks

/-! # Listings and the pages behind them

A page is read from what a look-up finds, and the page of a command gets its sub-commands
from the scan of its members (`Catalog.outcome_loadPage_of_resolve`).  What the scan finds
for a sub-command is what a look-up of it finds (`Catalog.resolve_of_mem_sourcesOf`), so
the line that a listing shows beside a name is the first line of the page that is loaded
under that name (`Catalog.loadPage_of_listed`).
-/
namespace HelpPages

namespace Page

/-- Lines say nothing of sub-commands. -/
theorem subCommands_ofComment (s : Substitution) (comment : Text) :
    (ofComment s comment).subCommands = [] := by
  rw [ofComment, ofLines_eq]

/-- New names are added to the sub-commands of a page behind those that it has. -/
theorem subCommands_addSubCommands {page : Page} {subCommands : Entries Text}
    (distinct : Entries.names (page.subCommands ++ subCommands) |>.Nodup) :
    (page.addSubCommands subCommands).subCommands = page.subCommands ++ subCommands := by
  have hput : ∀ (subCommands : Entries Text) (page : Page),
      (page.addSubCommands subCommands).subCommands =
        subCommands.foldl (fun entries entry => Entries.put entry.1 entry.2 entries)
          page.subCommands := by
    intro subCommands
    induction subCommands with
    | nil => intro page; rfl
    | cons entry rest ih => intro page; exact ih (page.addSubCommand entry.1 entry.2)
  exact (hput subCommands page).trans (Entries.foldl_put subCommands distinct)

theorem shortDescription_addSubCommands (page : Page) (subCommands : Entries Text) :
    (page.addSubCommands subCommands).shortDescription = page.shortDescription := by
  obtain ⟨all, hall⟩ := page.addSubCommands_eq subCommands
  rw [hall]
  rfl

/-- The text is the description of the page up to its first line feed, or all of it. -/
structure IsDescribed (page : Page) (short : Text) : Prop where
  oneLine : CodePoint.char '\n' ∉ short
  start : page.description = short ∨ ∃ rest, page.description = short ++ .char '\n' :: rest

/-- A text is its first line, or goes on behind it with a line feed. -/
theorem eq_firstLine (t : Text) :
    t = t.takeWhile (!·.is '\n') ∨ ∃ rest, t = t.takeWhile (!·.is '\n') ++ .char '\n' :: rest := by
  induction t with
  | nil => exact .inl rfl
  | cons c t ih =>
    by_cases hc : c = .char '\n'
    · subst hc
      exact .inr ⟨t, rfl⟩
    · have hother : (!c.is '\n') = true :=
        Bool.not_eq_true' _ ▸ Bool.eq_false_iff.mpr (mt CodePoint.is_iff.mp hc)
      have hline : (c :: t).takeWhile (!·.is '\n') = c :: t.takeWhile (!·.is '\n') :=
        List.takeWhile_cons_of_pos hother
      rw [hline]
      exact ih.imp (congrArg (c :: ·)) fun ⟨rest, h⟩ => ⟨rest, congrArg (c :: ·) h⟩

/-- The short description is the first line of the description. -/
theorem isDescribed_shortDescription (page : Page) : page.IsDescribed page.shortDescription where
  oneLine hmem := by
    have hline := List.mem_takeWhile_imp (p := fun c : CodePoint => !c.is '\n') hmem
    cases hline
  start := eq_firstLine page.description

end Page

namespace Catalog

variable {c : Catalog} {target : Target} {name sub doc : Text}

/-! ### Look-ups -/

theorem outcome_lookUp (c : Catalog) (name : Text) (sub : Option Text) (given : List Value) :
    (c.lookUp name sub given).outcome = (c.resolve name (sub.getD [])).mapError .catalog := rfl

/-- Every registered name leads to a target. -/
theorem exists_get_of_mem_names (h : name ∈ c.names) : ∃ target, c.get name = .ok target := by
  rw [get]
  cases hget : c.commands.get? name with
  | some target => exact ⟨target, rfl⟩
  | none => exact absurd h (Entries.get?_eq_none_iff.mp hget)

/-- A sub-command that the scan lists is found by its look-up, with the same text. -/
theorem resolve_of_mem_sourcesOf (registered : c.get name = .ok target)
    (plain : ∀ member ∈ target.memberNames, CodePoint.char '-' ∉ member)
    (listed : (sub, doc) ∈ c.sourcesOf target) : sub ≠ [] ∧ c.resolve name sub = .ok doc := by
  obtain ⟨⟨member, -, hname⟩, hreach⟩ := ((isListing_sourcesOf plain).mem_iff sub doc).mp listed
  have hsub : sub ≠ [] := ne_nil_of_subCommandName? hname
  exact ⟨hsub, by rw [resolve_of_get registered hsub, Target.access, hreach, ofAnswer]⟩

/-! ### Pages -/

/-- A page that the catalog does not resolve is not found. -/
theorem outcome_loadPage_of_unresolved (c : Catalog) (reader : Reader) {sub : Option Text}
    {e : Catalog.Error} (h : c.resolve name (sub.getD []) = .error e) :
    (c.loadPage reader name sub).outcome = .error (.catalog e) := by
  rw [loadPage, Run.outcome_bind, outcome_lookUp, h]
  rfl

/-- The page of what the catalog resolves is read, and that of a command gets its
sub-commands. -/
theorem outcome_loadPage_of_resolve (c : Catalog) (reader : Reader) {sub : Option Text}
    (h : c.resolve name (sub.getD []) = .ok doc) :
    (c.loadPage reader name sub).outcome =
      (reader.pageOf doc).bind fun page =>
        if sub.getD [] = [] then
          ((c.sources name).mapError Failure.catalog).bind fun sources =>
            (addSubCommands reader page sources).outcome
        else .ok page := by
  rw [loadPage, Run.outcome_bind, outcome_lookUp, h]
  show (reader.read doc >>= _).outcome = _
  rw [Run.outcome_bind, reader.outcome_read]
  refine congrArg _ (funext fun page => ?_)
  split
  · rw [Run.outcome_bind]
    rfl
  · rfl

/-- Sub-commands as a page lists them: each with the first line of what is said about it. -/
def listed (s : Substitution) (sources : Entries Text) : Entries Text :=
  sources.map fun source => (source.1, (Page.ofComment s source.2).shortDescription)

theorem names_listed (s : Substitution) (sources : Entries Text) :
    (listed s sources).names = sources.names :=
  List.map_map

theorem outcome_addSubCommands (s : Substitution) (page : Page) (sources : Entries Text) :
    (addSubCommands (.replacing s) page sources).outcome =
      .ok (page.addSubCommands (listed s sources)) := by
  induction sources generalizing page with
  | nil => rfl
  | cons source sources ih =>
    rw [addSubCommands, Run.outcome_bind, Reader.outcome_read]
    exact ih _

/-- The page of a sub-command is that of what is said about it. -/
theorem outcome_loadPage_some (s : Substitution) (hsub : sub ≠ [])
    (h : c.resolve name sub = .ok doc) :
    (c.loadPage (.replacing s) name (some sub)).outcome = .ok (Page.ofComment s doc) := by
  have hsome : c.resolve name ((some sub).getD []) = .ok doc := h
  rw [outcome_loadPage_of_resolve c _ hsome]
  simp only [Option.getD_some, if_neg hsub]
  rfl

/-- The page of a command is that of what is said about it, with its sub-commands. -/
theorem outcome_loadPage_none (s : Substitution) (registered : c.get name = .ok target) :
    (c.loadPage (.replacing s) name none).outcome =
      .ok ((Page.ofComment s target.doc).addSubCommands (listed s (c.sourcesOf target))) := by
  have hnone : c.resolve name ((none : Option Text).getD []) = .ok target.doc :=
    resolve_nil registered
  rw [outcome_loadPage_of_resolve c _ hnone, sources_of_get registered]
  exact outcome_addSubCommands s _ _

/-- The sub-commands of the page of a command are those that the scan lists. -/
theorem subCommands_listed (s : Substitution) (doc : Text)
    (plain : ∀ member ∈ target.memberNames, CodePoint.char '-' ∉ member) :
    ((Page.ofComment s doc).addSubCommands (listed s (c.sourcesOf target))).subCommands =
      listed s (c.sourcesOf target) := by
  have hnone : (Page.ofComment s doc).subCommands = [] := Page.subCommands_ofComment s doc
  have hnodup := (isListing_sourcesOf (c := c) plain).nodup
  rw [Page.subCommands_addSubCommands, hnone, List.nil_append]
  rwa [hnone, List.nil_append, names_listed]

/-! ### Listings -/

theorem outcome_describeAll_cons (c : Catalog) (reader : Reader) (names : List Text)
    (h : c.resolve name [] = .ok doc) :
    (c.describeAll reader (name :: names)).outcome =
      (reader.pageOf doc).bind fun page =>
        (c.describeAll reader names).outcome.map fun rest =>
          (name, page.shortDescription) :: rest := by
  have hlookUp : (c.lookUp name none [.text name]).outcome = .ok doc := by
    rw [outcome_lookUp, Option.getD_none, h]
    rfl
  rw [describeAll, Run.outcome_bind, hlookUp]
  show (reader.read doc >>= _).outcome = _
  rw [Run.outcome_bind, reader.outcome_read]
  refine congrArg _ (funext fun page => ?_)
  rw [Run.outcome_bind]
  cases (c.describeAll reader names).outcome <;> rfl

/-- Registered commands are listed in order, each with the first line of what is said about
it. -/
theorem outcome_describeAll (s : Substitution) {names : List Text}
    (registered : ∀ name ∈ names, name ∈ c.names) :
    ∃ listing, (c.describeAll (.replacing s) names).outcome = .ok listing ∧
      listing.names = names ∧
      ∀ name short, (name, short) ∈ listing → ∃ target, c.get name = .ok target ∧
        short = (Page.ofComment s target.doc).shortDescription := by
  induction names with
  | nil => exact ⟨[], rfl, rfl, nofun⟩
  | cons name names ih =>
    obtain ⟨hname, hrest⟩ := List.forall_mem_cons.mp registered
    obtain ⟨target, htarget⟩ := exists_get_of_mem_names hname
    obtain ⟨listing, hlisting, hnames, hshort⟩ := ih hrest
    refine ⟨(name, (Page.ofComment s target.doc).shortDescription) :: listing, ?_, ?_, ?_⟩
    · rw [outcome_describeAll_cons _ _ _ (resolve_nil htarget), hlisting]
      rfl
    · rw [← hnames]
      rfl
    · intro name' short hmem
      rcases List.mem_cons.mp hmem with he | hmem
      · cases he
        exact ⟨target, htarget, rfl⟩
      · exact hshort name' short hmem

/-- **What is listed is the first line of the page behind it.**  The page of a command whose
members have no dashes in their names lists the sub-commands that the scan finds, in its
order, each with the short description of the page that is loaded for it; and the list of all
commands has every registered name in order, each with the short description of its page.  A
short description is the description up to its first line feed. -/
theorem loadPage_of_listed (c : Catalog) (s : Substitution) :
    (∀ name target, c.get name = .ok target →
      (∀ member ∈ target.memberNames, CodePoint.char '-' ∉ member) →
      ∃ sources page, c.sources name = .ok sources ∧
        (c.loadPage (.replacing s) name none).outcome = .ok page ∧
        page.subCommands.names = sources.names ∧
        ∀ sub short, (sub, short) ∈ page.subCommands → ∃ subPage,
          (c.loadPage (.replacing s) name (some sub)).outcome = .ok subPage ∧
          subPage.shortDescription = short ∧ subPage.IsDescribed short) ∧
    ∃ listing, (c.shortDescriptions (.replacing s)).outcome = .ok listing ∧
      listing.names = c.names ∧
      ∀ name short, (name, short) ∈ listing → ∃ page,
        (c.loadPage (.replacing s) name none).outcome = .ok page ∧
        page.shortDescription = short ∧ page.IsDescribed short := by
  constructor
  · intro name target registered plain
    have hsubs := subCommands_listed (c := c) s target.doc plain
    refine ⟨_, _, sources_of_get registered, outcome_loadPage_none s registered, ?_, ?_⟩
    · rw [hsubs, names_listed]
    · intro sub short hmem
      rw [hsubs] at hmem
      obtain ⟨⟨sub', doc⟩, hsource, he⟩ := List.mem_map.mp hmem
      cases he
      obtain ⟨hsub, hresolve⟩ := resolve_of_mem_sourcesOf registered plain hsource
      exact ⟨_, outcome_loadPage_some s hsub hresolve, rfl, Page.isDescribed_shortDescription _⟩
  · obtain ⟨listing, hlisting, hnames, hshort⟩ :=
      outcome_describeAll s fun name (h : name ∈ c.names) => h
    refine ⟨listing, hlisting, hnames, ?_⟩
    intro name short hmem
    obtain ⟨target, htarget, hfirst⟩ := hshort name short hmem
    have hpage := (Page.shortDescription_addSubCommands (Page.ofComment s target.doc)
      (listed s (c.sourcesOf target))).trans hfirst.symm
    exact ⟨_, outcome_loadPage_none s htarget, hpage, hpage ▸ Page.isDescribed_shortDescription _⟩

theorem loadPage_of_listed_release :
    ∃ target, releaseCatalog.get "release" = .ok target ∧
      (∀ member ∈ target.memberNames, CodePoint.char '-' ∉ member) ∧
      (∃ sources page, releaseCatalog.sources "release" = .ok sources ∧
        (releaseCatalog.loadPage (.replacing {}) "release" none).outcome = .ok page ∧
        page.subCommands.names = sources.names ∧
        ∀ sub short, (sub, short) ∈ page.subCommands → ∃ subPage,
          (releaseCatalog.loadPage (.replacing {}) "release" (some sub)).outcome = .ok subPage ∧
          subPage.shortDescription = short ∧ subPage.IsDescribed short) ∧
      ∃ listing, (releaseCatalog.shortDescriptions (.replacing {})).outcome = .ok listing ∧
        listing.names = releaseCatalog.names ∧
        ∀ name short, (name, short) ∈ listing → ∃ page,
          (releaseCatalog.loadPage (.replacing {}) name none).outcome = .ok page ∧
          page.shortDescription = short ∧ page.IsDescribed short :=
  ⟨_, rfl, by decide, (loadPage_of_listed releaseCatalog {}).1 "release" _ rfl (by decide),
    (loadPage_of_listed releaseCatalog {}).2⟩

end Catalog
end HelpPages
