import HelpPages.Proofs.Program.Failures

/-! # Settings files

A settings file is a map.  One that is missing, that is no document or that holds something else
than a map counts as an empty map (`Place.FileHolds`); one that is there and cannot be read or
decoded fails (`Place.FileFails`), and there is no third case.  The settings are found, all of
them, if each file that is asked for them holds a map (`resolve_of_files`).
-/
namespace HelpPages

/-! ### The first file of some -/

namespace FileTree

variable {tree : FileTree} {ls : List Location} {l : Location}

theorem firstFile?_cons_of_isFile (ls : List Location) (h : tree.isFile l = .ok true) :
    tree.firstFile? (l :: ls) = .ok (some l) := by
  rw [firstFile?, h]
  rfl

theorem firstFile?_cons_of_absent (ls : List Location) (h : tree.isFile l = .ok false) :
    tree.firstFile? (l :: ls) = tree.firstFile? ls := by
  rw [firstFile?, h]
  rfl

theorem firstFile?_cons_of_error {e : Error} (ls : List Location) (h : tree.isFile l = .error e) :
    tree.firstFile? (l :: ls) = .error e := by
  rw [firstFile?, h]
  rfl

/-- No file is found if there is none at all of the locations. -/
theorem firstFile?_eq_none_iff :
    tree.firstFile? ls = .ok none ↔ ∀ l ∈ ls, tree.isFile l = .ok false := by
  induction ls with
  | nil => exact ⟨fun _ => nofun, fun _ => rfl⟩
  | cons l ls ih =>
    rw [List.forall_mem_cons]
    cases h : tree.isFile l with
    | error e => simp [firstFile?_cons_of_error ls h]
    | ok isFile =>
      cases isFile with
      | true => simp [firstFile?_cons_of_isFile ls h]
      | false => simp [firstFile?_cons_of_absent ls h, ih]

/-- A file is found if there is one at its location and none at those before it. -/
theorem firstFile?_eq_some_iff :
    tree.firstFile? ls = .ok (some l) ↔ ∃ before behind, ls = before ++ l :: behind ∧
      (∀ other ∈ before, tree.isFile other = .ok false) ∧ tree.isFile l = .ok true := by
  induction ls with
  | nil => exact ⟨nofun, fun ⟨before, _, h, _⟩ => by cases before <;> cases h⟩
  | cons first ls ih =>
    constructor
    · intro h
      cases hfirst : tree.isFile first with
      | error e =>
        rw [firstFile?_cons_of_error ls hfirst] at h
        cases h
      | ok isFile =>
        cases isFile with
        | true =>
          rw [firstFile?_cons_of_isFile ls hfirst] at h
          cases h
          exact ⟨[], ls, rfl, nofun, hfirst⟩
        | false =>
          rw [firstFile?_cons_of_absent ls hfirst] at h
          obtain ⟨before, behind, rfl, habsent, hfile⟩ := ih.mp h
          exact ⟨first :: before, behind, rfl, List.forall_mem_cons.mpr ⟨hfirst, habsent⟩, hfile⟩
    · rintro ⟨before, behind, hsplit, habsent, hfile⟩
      cases before with
      | nil =>
        cases hsplit
        exact firstFile?_cons_of_isFile _ hfile
      | cons other before =>
        cases hsplit
        obtain ⟨hother, habsent⟩ := List.forall_mem_cons.mp habsent
        rw [firstFile?_cons_of_absent _ hother]
        exact ih.mpr ⟨before, behind, rfl, habsent, hfile⟩

end FileTree

namespace Settings

/-! ### What a file holds -/

/-- The map that the settings file at a path holds: that of the document that the file is the
UTF-8 encoding of.  The map is empty if there is no file, and if the text of the file is no
document, or one of something else than a map, in which no numeral is too long and nothing is too
deep. -/
inductive Place.FileHolds (p : Place) (path : Text) : Entries Value → Prop
  | missing {name : Text} (read : p.files.read p.here path = .error (.missing name)) :
      FileHolds p path []
  | map {text : Text} {entries : Entries Value} (holds : p.HoldsText path text)
      (document : Json.read p.depth text = .ok (.map entries)) : FileHolds p path entries
  | other {text : Text} (holds : p.HoldsText path text)
      (kind : ∀ entries, Json.read p.depth text ≠ .ok (.map entries))
      (bounded : ∀ e, Json.read p.depth text = .error e → e = .malformed) : FileHolds p path []

variable {p : Place} {given : Given} {start path : Text} {entries : Entries Value} {e : Failure}

theorem Place.readMap_eq_ok_iff : p.readMap path = .ok entries ↔ p.FileHolds path entries := by
  constructor
  · intro h
    rcases p.read_cases path with ⟨name, hread⟩ | ⟨e, hread, hfound⟩ | ⟨bytes, hread, hforeign⟩ |
      ⟨text, hholds⟩
    · rw [readMap_of_missing hread] at h
      cases h
      exact .missing hread
    · rw [readMap_of_unreadable hread hfound] at h
      cases h
    · rw [readMap_of_foreign hread hforeign] at h
      cases h
    · rw [readMap_of_holdsText hholds] at h
      split at h
      · next hdocument =>
        cases h
        exact .map hholds hdocument
      · next v hkind hdocument =>
        cases h
        refine .other hholds (fun entries he => ?_) (fun e he => ?_)
        · exact hkind entries (Except.ok.inj (hdocument.symm.trans he))
        · cases hdocument.symm.trans he
      · next hdocument =>
        cases h
        refine .other hholds (fun entries he => ?_) (fun e he => ?_)
        · cases hdocument.symm.trans he
        · exact (Except.error.inj (hdocument.symm.trans he)).symm
      · cases h
      · cases h
  · intro h
    cases h with
    | missing read => exact readMap_of_missing read
    | map holds document => rw [readMap_of_holdsText holds, document]
    | other holds kind bounded =>
      rw [readMap_of_holdsText holds]
      split
      · next document => exact absurd document (kind _)
      · rfl
      · rfl
      · next document => cases bounded _ document
      · next document => cases bounded _ document

/-- A settings file holds a map, or it fails. -/
theorem Place.exists_fileHolds_iff :
    (∃ entries, p.FileHolds path entries) ↔ ∀ e, ¬ p.FileFails path e := by
  simp only [← readMap_eq_ok_iff, ← readMap_eq_error_iff]
  exact exists_eq_ok_iff

/-! ### The nearest file -/

/-- Where a settings file of the project may be: in a directory or one of its ancestors. -/
def Place.projectFiles (p : Place) (start : Text) : List Location :=
  (searched (Path.resolve p.here start)).map (· ++ [fileName])

/-- The nearest settings file of the project, if there is one.  The names on the way to the
directory where the search starts have a form in bytes. -/
inductive Place.IsNearest (p : Place) (start : Text) : Option Location → Prop
  | found {before behind : List Location} {l : Location}
      (formed : ∀ name ∈ Path.names start, FileTree.checkForm name = .ok ())
      (split : p.projectFiles start = before ++ l :: behind)
      (absent : ∀ other ∈ before, p.files.isFile other = .ok false)
      (file : p.files.isFile l = .ok true) : IsNearest p start (some l)
  | none (formed : ∀ name ∈ Path.names start, FileTree.checkForm name = .ok ())
      (absent : ∀ l ∈ p.projectFiles start, p.files.isFile l = .ok false) :
      IsNearest p start none

theorem Place.projectFile?_eq_ok_iff {found : Option Location} :
    p.projectFile? start = .ok found ↔ p.IsNearest start found := by
  have hsearch : p.projectFile? start = .ok found ↔
      (∀ name ∈ Path.names start, FileTree.checkForm name = .ok ()) ∧
        p.files.firstFile? (p.projectFiles start) = .ok found := by
    refine bind_eq_ok_iff.trans ⟨?_, ?_⟩
    · rintro ⟨units, hformed, hfound⟩
      exact ⟨fun name hname => (exists_of_mapM (mapError_eq_ok_iff.mp hformed) name hname).elim
        fun _ h => h, mapError_eq_ok_iff.mp hfound⟩
    · rintro ⟨hformed, hfound⟩
      obtain ⟨units, hunits⟩ := exists_mapM fun name hname => ⟨(), hformed name hname⟩
      exact ⟨units, mapError_eq_ok_iff.mpr hunits, mapError_eq_ok_iff.mpr hfound⟩
  rw [hsearch]
  cases found with
  | none =>
    rw [FileTree.firstFile?_eq_none_iff]
    constructor
    · rintro ⟨formed, absent⟩
      exact .none formed absent
    · intro h
      cases h with
      | none formed absent => exact ⟨formed, absent⟩
  | some l =>
    rw [FileTree.firstFile?_eq_some_iff]
    constructor
    · rintro ⟨formed, before, behind, split, absent, file⟩
      exact .found formed split absent file
    · intro h
      cases h with
      | found formed split absent file => exact ⟨formed, _, _, split, absent, file⟩

/-! ### The files that are asked -/

/-- The settings files that are read: the one that is given or else the nearest one of the
project, and that of the user. -/
inductive Asks (p : Place) (given : Given) (start : Text) : Text → Prop
  | named (named : given.file ≠ []) : Asks p given start given.file
  | nearest {l : Location} (unnamed : given.file = []) (nearest : p.IsNearest start (some l)) :
      Asks p given start l.text
  | user : Asks p given start p.userFile.text

/-- The nearest settings file of the project is looked for, and the search fails. -/
def SearchFails (p : Place) (given : Given) (start : Text) (e : Failure) : Prop :=
  given.file = [] ∧ p.projectFile? start = .error e

/-- The map of the settings of the project. -/
inductive ProjectHolds (p : Place) (given : Given) (start : Text) : Entries Value → Prop
  | named {entries : Entries Value} (named : given.file ≠ [])
      (holds : p.FileHolds given.file entries) : ProjectHolds p given start entries
  | nearest {l : Location} {entries : Entries Value} (unnamed : given.file = [])
      (nearest : p.IsNearest start (some l)) (holds : p.FileHolds l.text entries) :
      ProjectHolds p given start entries
  | none (unnamed : given.file = []) (nearest : p.IsNearest start none) :
      ProjectHolds p given start []

theorem exists_projectLayer_iff :
    (∃ path, projectLayer p given start = .ok (entries, path)) ↔
      ProjectHolds p given start entries := by
  rw [projectLayer]
  constructor
  · rintro ⟨path, h⟩
    split at h
    · next unnamed =>
      obtain ⟨found, hfound, h⟩ := bind_eq_ok_iff.mp h
      cases found with
      | none =>
        cases h
        exact .none unnamed (Place.projectFile?_eq_ok_iff.mp hfound)
      | some l =>
        obtain ⟨map, hmap, hdone⟩ := bind_eq_ok_iff.mp h
        cases hdone
        exact .nearest unnamed (Place.projectFile?_eq_ok_iff.mp hfound)
          (Place.readMap_eq_ok_iff.mp hmap)
    · next named =>
      cases hmap : p.readMap given.file with
      | error e =>
        rw [hmap] at h
        cases h
      | ok map =>
        rw [hmap] at h
        cases h
        exact .named named (Place.readMap_eq_ok_iff.mp hmap)
  · intro h
    cases h with
    | named named holds =>
      rw [if_neg named, Place.readMap_eq_ok_iff.mpr holds]
      exact ⟨_, rfl⟩
    | nearest unnamed nearest holds =>
      rw [if_pos unnamed]
      have hmap := Place.readMap_eq_ok_iff.mpr holds
      exact ⟨_, bind_eq_ok_iff.mpr ⟨_, Place.projectFile?_eq_ok_iff.mpr nearest,
        bind_eq_ok_iff.mpr ⟨_, hmap, rfl⟩⟩⟩
    | none unnamed nearest =>
      rw [if_pos unnamed]
      exact ⟨_, bind_eq_ok_iff.mpr ⟨_, Place.projectFile?_eq_ok_iff.mpr nearest, rfl⟩⟩

/-- All layers can be read if the project has its map and the user has theirs. -/
theorem layers_eq_ok_iff {found : List Layer × Option Text} :
    layers p given start = .ok found ↔ ∃ project path user,
      projectLayer p given start = .ok (project, path) ∧ p.FileHolds p.userFile.text user ∧
        found = (([("cli", commandLine given), ("project", project), ("global", user)] :
          List Layer), path) := by
  rw [layers_eq, bind_eq_ok_iff]
  constructor
  · rintro ⟨⟨project, path⟩, hproject, h⟩
    cases huser : p.readUser with
    | error e =>
      rw [huser] at h
      cases h
    | ok user =>
      rw [huser] at h
      cases h
      exact ⟨project, path, user, hproject, Place.readMap_eq_ok_iff.mp huser, rfl⟩
  · rintro ⟨project, path, user, hproject, huser, rfl⟩
    have hread : p.readUser = .ok user := Place.readMap_eq_ok_iff.mpr huser
    exact ⟨(project, path), hproject, by rw [hread]; rfl⟩

/-- What cannot be read is a file that is asked, or else the search for one fails. -/
theorem layers_eq_error (h : layers p given start = .error e) :
    SearchFails p given start e ∨ ∃ path, Asks p given start path ∧ p.FileFails path e := by
  rw [layers_eq] at h
  rcases bind_eq_error_iff.mp h with hproject | ⟨_, -, huser⟩
  · rw [projectLayer] at hproject
    split at hproject
    · next unnamed =>
      rcases Place.readProject_eq_error_iff.mp hproject with hsearch | ⟨l, hfound, hfails⟩
      · exact .inl ⟨unnamed, hsearch⟩
      · exact .inr ⟨_, .nearest unnamed (Place.projectFile?_eq_ok_iff.mp hfound), hfails⟩
    · next named =>
      have hfails := Place.readMap_eq_error_iff.mp (map_eq_error_iff.mp hproject)
      exact .inr ⟨_, .named named, hfails⟩
  · exact .inr ⟨_, .user, Place.readMap_eq_error_iff.mp (map_eq_error_iff.mp huser)⟩

/-- The project has a map if nothing fails on the way to its file, and the file holds one. -/
theorem ProjectHolds.not_searchFails (h : ProjectHolds p given start entries) :
    ¬ SearchFails p given start e := by
  rintro ⟨unnamed, hsearch⟩
  cases h with
  | named named holds => exact named unnamed
  | nearest _ nearest holds => cases hsearch.symm.trans (Place.projectFile?_eq_ok_iff.mpr nearest)
  | none _ nearest => cases hsearch.symm.trans (Place.projectFile?_eq_ok_iff.mpr nearest)

/-- A file that is asked holds a map if the project and the user have theirs. -/
theorem ProjectHolds.exists_fileHolds {user : Entries Value}
    (h : ProjectHolds p given start entries) (huser : p.FileHolds p.userFile.text user)
    (hasks : Asks p given start path) : ∃ map, p.FileHolds path map := by
  cases hasks with
  | user => exact ⟨user, huser⟩
  | named named =>
    cases h with
    | named _ holds => exact ⟨entries, holds⟩
    | nearest unnamed nearest holds => exact absurd unnamed named
    | none unnamed nearest => exact absurd unnamed named
  | nearest unnamed hl =>
    have hfound := Place.projectFile?_eq_ok_iff.mpr hl
    cases h with
    | named named holds => exact absurd unnamed named
    | nearest _ nearest holds =>
      cases hfound.symm.trans (Place.projectFile?_eq_ok_iff.mpr nearest)
      exact ⟨entries, holds⟩
    | none _ nearest => cases hfound.symm.trans (Place.projectFile?_eq_ok_iff.mpr nearest)

/-- The layers can be read if nothing fails on the way to the nearest file, and all files that
are asked hold maps. -/
theorem exists_layers_iff :
    (∃ found, layers p given start = .ok found) ↔ (∀ e, ¬ SearchFails p given start e) ∧
      ∀ path, Asks p given start path → ∃ map, p.FileHolds path map := by
  constructor
  · rintro ⟨found, h⟩
    obtain ⟨project, path, user, hproject, huser, -⟩ := layers_eq_ok_iff.mp h
    have hholds := exists_projectLayer_iff.mp ⟨path, hproject⟩
    exact ⟨fun e => hholds.not_searchFails, fun _ hasks => hholds.exists_fileHolds huser hasks⟩
  · rintro ⟨hsearch, hasks⟩
    refine exists_eq_ok_iff.mpr fun e h => ?_
    rcases layers_eq_error h with hfails | ⟨path, hpath, hfails⟩
    · exact hsearch e hfails
    · exact Place.exists_fileHolds_iff.mp (hasks path hpath) e hfails

/-- **A settings file holds a map, or it fails; a missing one, one that is no document and one
that holds something else are empty maps.**  The values of all settings are found if each file
that is asked for them holds a map; otherwise what fails is one of these files, or the search for
the nearest one. -/
theorem resolve_of_files (p : Place) :
    (∀ path, (∀ entries, p.readMap path = .ok entries ↔ p.FileHolds path entries) ∧
      ∀ e, p.readMap path = .error e ↔ p.FileFails path e) ∧
    ∀ given start,
      ((∃ values, (resolve p given start).outcome = .ok values) ↔
        (∀ e, ¬ SearchFails p given start e) ∧
          ∀ path, Asks p given start path → ∃ map, p.FileHolds path map) ∧
      (∀ values, (resolve p given start).outcome = .ok values → values.names = defaults.names) ∧
      ∀ e, (resolve p given start).outcome = .error e →
        SearchFails p given start e ∨ ∃ path, Asks p given start path ∧ p.FileFails path e := by
  refine ⟨fun path => ⟨fun entries => Place.readMap_eq_ok_iff, fun e => Place.readMap_eq_error_iff⟩,
    fun given start => ?_⟩
  rw [outcome_resolve, ← exists_layers_iff]
  cases h : layers p given start with
  | error e =>
    refine ⟨⟨nofun, nofun⟩, nofun, fun e' he => ?_⟩
    cases he
    exact layers_eq_error h
  | ok found =>
    refine ⟨⟨fun _ => ⟨found, rfl⟩, fun _ => ⟨_, rfl⟩⟩, fun values hvalues => ?_, nofun⟩
    cases hvalues
    rfl

/-- Bytes that are no text fail where other broken files are empty. -/
example : ({ files.nodes := [(["a.json"], .file [0xff])] } : Place).readMap "a.json" =
    .error .undecodable := by
  rfl

end Settings
end HelpPages
