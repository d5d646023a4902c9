import HelpPages.Proofs.Program.HelpCommand
import HelpPages.Proofs.Program.Tables

/-! # What may go wrong

The settings files, the tables and the pages of help each fail at a few things that they read.
Here these are listed, one constructor for each, and the lists are complete: what is not on
them does not go wrong.  Which failures a call reports is another matter.
-/
namespace HelpPages

variable {e : Failure}

/-! ### Settings -/

namespace Settings

/-- The file at a path holds a text, encoded in UTF-8. -/
structure Place.HoldsText (p : Place) (path text : Text) : Prop where
  encodable : text.isEncodable = true
  read : p.files.read p.here path = .ok (Text.toUtf8 text)

/-- What goes wrong with the settings file at a path: the system refuses to read a file that is
there, its bytes are those of no text, or its text has a numeral of too many digits or lists and
maps that are too deep in each other. -/
inductive Place.FileFails (p : Place) (path : Text) : Failure → Prop
  | unreadable {e : FileTree.Error} (read : p.files.read p.here path = .error e)
      (found : ∀ name, e ≠ .missing name) : FileFails p path (.file e)
  | undecodable {bytes : List UInt8} (read : p.files.read p.here path = .ok bytes)
      (foreign : ∀ text : Text, text.isEncodable = true → Text.toUtf8 text ≠ bytes) :
      FileFails p path .undecodable
  | number {text : Text} {e : Integer.Error} (holds : p.HoldsText path text)
      (long : Json.read p.depth text = .error (.integer e)) : FileFails p path (.number e)
  | tooDeep {text : Text} (holds : p.HoldsText path text)
      (deep : Json.read p.depth text = .error .tooDeep) : FileFails p path .tooDeep

/-- What goes wrong with the settings of the project: with the file that is given, or else on the
way up to the nearest one or with that one. -/
inductive ProjectFails (p : Place) (given : Given) : Failure → Prop
  | given {e : Failure} (named : given.file ≠ []) (fails : p.FileFails given.file e) :
      ProjectFails p given e
  | search {e : FileTree.Error} (unnamed : given.file = [])
      (refused : p.projectFile? [] = .error (.file e)) (grave : e.saysNo = false) :
      ProjectFails p given (.file e)
  | nearest {e : Failure} {l : Location} (unnamed : given.file = [])
      (found : p.projectFile? [] = .ok (some l)) (fails : p.FileFails l.text e) :
      ProjectFails p given e

/-- What goes wrong with the settings: with those of the project, or else with those of the
user. -/
inductive Fails (p : Place) (given : Given) : Failure → Prop
  | project {e : Failure} (fails : ProjectFails p given e) : Fails p given e
  | user {e : Failure} (project : ∀ e', ¬ ProjectFails p given e')
      (fails : p.FileFails p.userFile.text e) : Fails p given e

variable {p : Place} {given : Given} {start : Text}

namespace Place

variable {path text : Text}

/-- A file whose bytes are read as a text holds the text. -/
theorem holdsText_iff :
    p.HoldsText path text ↔
      ∃ bytes, p.files.read p.here path = .ok bytes ∧ Text.ofUtf8? bytes = some text := by
  constructor
  · intro h
    exact ⟨_, h.read, Text.ofUtf8?_toUtf8 h.encodable⟩
  · rintro ⟨bytes, hread, hdecode⟩
    obtain ⟨encodable, rfl⟩ := Text.ofUtf8?_eq_some_iff.mp hdecode
    exact ⟨encodable, hread⟩

theorem readMap_of_foreign {bytes : List UInt8} (read : p.files.read p.here path = .ok bytes)
    (foreign : ∀ text : Text, text.isEncodable = true → Text.toUtf8 text ≠ bytes) :
    p.readMap path = .error .undecodable := by
  simp only [readMap, read, Text.ofUtf8?_eq_none_iff.mpr foreign]

theorem readMap_of_missing {name : Text}
    (read : p.files.read p.here path = .error (.missing name)) : p.readMap path = .ok [] := by
  simp only [readMap, read]

theorem readMap_of_unreadable {e : FileTree.Error} (read : p.files.read p.here path = .error e)
    (found : ∀ name, e ≠ .missing name) : p.readMap path = .error (.file e) := by
  rw [readMap, read]
  split
  · next name he => exact absurd (Except.error.inj he) (found name)
  · next e' _ he =>
    cases he
    rfl
  · next he => cases he

/-- What a text is read as decides what its file gives. -/
theorem readMap_of_holdsText (holds : p.HoldsText path text) :
    p.readMap path =
      match Json.read p.depth text with
      | .ok (.map entries) => .ok entries
      | .ok _ => .ok []
      | .error .malformed => .ok []
      | .error (.integer e) => .error (.number e)
      | .error .tooDeep => .error .tooDeep := by
  have hdecode := Text.ofUtf8?_toUtf8 holds.encodable
  rw [readMap, holds.read]
  dsimp only
  generalize Text.ofUtf8? (Text.toUtf8 text) = decoded at hdecode ⊢
  cases hdecode
  rfl

/-- There is no file at a path, it cannot be read, its bytes are those of no text, or it holds a
text. -/
theorem read_cases (p : Place) (path : Text) :
    (∃ name, p.files.read p.here path = .error (.missing name)) ∨
      (∃ e, p.files.read p.here path = .error e ∧ ∀ name, e ≠ .missing name) ∨
      (∃ bytes, p.files.read p.here path = .ok bytes ∧
        ∀ text : Text, text.isEncodable = true → Text.toUtf8 text ≠ bytes) ∨
      ∃ text, p.HoldsText path text := by
  cases hread : p.files.read p.here path with
  | error e =>
    by_cases hmissing : ∃ name, e = .missing name
    · obtain ⟨name, rfl⟩ := hmissing
      exact .inl ⟨name, rfl⟩
    · exact .inr (.inl ⟨e, rfl, fun name he => hmissing ⟨name, he⟩⟩)
  | ok bytes =>
    cases hdecode : Text.ofUtf8? bytes with
    | none => exact .inr (.inr (.inl ⟨bytes, rfl, Text.ofUtf8?_eq_none_iff.mp hdecode⟩))
    | some text => exact .inr (.inr (.inr ⟨text, holdsText_iff.mpr ⟨bytes, hread, hdecode⟩⟩))

theorem readMap_eq_error_iff : p.readMap path = .error e ↔ p.FileFails path e := by
  constructor
  · intro h
    rcases p.read_cases path with ⟨name, hread⟩ | ⟨e', hread, hfound⟩ | ⟨bytes, hread, hforeign⟩ |
      ⟨text, hholds⟩
    · rw [readMap_of_missing hread] at h
      cases h
    · rw [readMap_of_unreadable hread hfound] at h
      cases h
      exact .unreadable hread hfound
    · rw [readMap_of_foreign hread hforeign] at h
      cases h
      exact .undecodable hread hforeign
    · rw [readMap_of_holdsText hholds] at h
      split at h
      · cases h
      · cases h
      · cases h
      · next long =>
        cases h
        exact .number hholds long
      · next deep =>
        cases h
        exact .tooDeep hholds deep
  · intro h
    cases h with
    | unreadable read found => exact readMap_of_unreadable read found
    | undecodable read foreign => exact readMap_of_foreign read foreign
    | number holds long => rw [readMap_of_holdsText holds, long]
    | tooDeep holds deep => rw [readMap_of_holdsText holds, deep]

end Place

/-- On the way up only a path that the system refuses is an error. -/
theorem saysNo_of_firstFile? {tree : FileTree} {ls : List Location} {e : FileTree.Error}
    (h : tree.firstFile? ls = .error e) : e.saysNo = false := by
  induction ls with
  | nil => cases h
  | cons l ls ih =>
    rcases bind_eq_error_iff.mp h with hfile | ⟨isFile, -, hrest⟩
    · rw [FileTree.isFile] at hfile
      split at hfile
      · cases hfile
      · cases hfile
      · split at hfile
        · cases hfile
        · next hgrave =>
          cases hfile
          exact Bool.eq_false_iff.mpr hgrave
    · cases isFile with
      | true => cases hrest
      | false => exact ih hrest

theorem exists_of_projectFile? (h : p.projectFile? [] = .error e) :
    ∃ refused, e = .file refused ∧ refused.saysNo = false := by
  rcases bind_eq_error_iff.mp h with hnames | ⟨_, -, hsearch⟩
  · -- the search starts where the program is run, so there is no path whose form could be wrong
    cases hnames
  · obtain ⟨e', hfirst, rfl⟩ := mapError_eq_error_iff.mp hsearch
    exact ⟨e', rfl, saysNo_of_firstFile? hfirst⟩

theorem Place.readProject_eq_error_iff :
    p.readProject start = .error e ↔ p.projectFile? start = .error e ∨
      ∃ l, p.projectFile? start = .ok (some l) ∧ p.FileFails l.text e := by
  refine bind_eq_error_iff.trans (or_congr_right ⟨?_, ?_⟩)
  · rintro ⟨found, hfound, h⟩
    cases found with
    | none => cases h
    | some l =>
      have hread : (p.readMap l.text >>= fun entries => pure (entries, some l.text)) =
          .error e := h
      rcases bind_eq_error_iff.mp hread with hmap | ⟨_, -, hdone⟩
      · exact ⟨l, hfound, readMap_eq_error_iff.mp hmap⟩
      · cases hdone
  · rintro ⟨l, hfound, hfails⟩
    exact ⟨some l, hfound, bind_eq_error_iff.mpr (.inl (readMap_eq_error_iff.mpr hfails))⟩

theorem projectLayer_eq_error_iff :
    projectLayer p given [] = .error e ↔ ProjectFails p given e := by
  rw [projectLayer]
  constructor
  · intro h
    split at h
    · next hunnamed =>
      rcases Place.readProject_eq_error_iff.mp h with hsearch | ⟨l, hfound, hfails⟩
      · obtain ⟨refused, rfl, hgrave⟩ := exists_of_projectFile? hsearch
        exact .search hunnamed hsearch hgrave
      · exact .nearest hunnamed hfound hfails
    · next hnamed => exact .given hnamed (Place.readMap_eq_error_iff.mp (map_eq_error_iff.mp h))
  · intro h
    cases h with
    | given named fails =>
      rw [if_neg named]
      exact map_eq_error_iff.mpr (Place.readMap_eq_error_iff.mpr fails)
    | search unnamed refused grave =>
      rw [if_pos unnamed]
      exact Place.readProject_eq_error_iff.mpr (.inl refused)
    | nearest unnamed found fails =>
      rw [if_pos unnamed]
      exact Place.readProject_eq_error_iff.mpr (.inr ⟨_, found, fails⟩)

/-- The settings cannot be read if something goes wrong with them, and only then. -/
theorem layers_eq_error_iff : layers p given [] = .error e ↔ Fails p given e := by
  rw [layers_eq, bind_eq_error_iff, projectLayer_eq_error_iff]
  constructor
  · rintro (hproject | ⟨layer, hlayer, huser⟩)
    · exact .project hproject
    · -- the file of the user is only read behind a project whose settings could be read
      refine .user (fun e' hfails => ?_) (Place.readMap_eq_error_iff.mp (map_eq_error_iff.mp huser))
      rw [projectLayer_eq_error_iff.mpr hfails] at hlayer
      cases hlayer
  · intro h
    cases h with
    | project fails => exact .inl fails
    | user project fails =>
      cases hlayer : projectLayer p given [] with
      | error e' => exact absurd (projectLayer_eq_error_iff.mp hlayer) (project e')
      | ok layer =>
        exact .inr ⟨layer, rfl, map_eq_error_iff.mpr (Place.readMap_eq_error_iff.mpr fails)⟩

end Settings

/-! ### Tables -/

namespace Table

/-- The bytes that the table command reads: those of a file, or else of the input. -/
inductive Reads (files : FileTree) (here : Location) (input : Input) (file : Option Text) :
    List UInt8 → Prop
  | file {path : Text} {bytes : List UInt8} (named : file = some path)
      (read : files.read here path = .ok bytes) : Reads files here input file bytes
  | input {bytes : List UInt8} (unnamed : file = none) (given : input = .bytes bytes) :
      Reads files here input file bytes

/-- What goes wrong with the input of a table: its file cannot be read, its user interrupts it,
or its bytes are no text. -/
inductive InputFails (files : FileTree) (here : Location) (input : Input) (file : Option Text) :
    Failure → Prop
  | unreadable {path : Text} {e : FileTree.Error} (named : file = some path)
      (read : files.read here path = .error e) : InputFails files here input file (.file e)
  | interrupted (unnamed : file = none) (given : input = .interrupt) :
      InputFails files here input file .interrupted
  | undecodable {bytes : List UInt8} (reads : Reads files here input file bytes)
      (decode : Text.ofUtf8? bytes = none) : InputFails files here input file .undecodable

/-- What goes wrong with a table: with its input, or with a field that is too long. -/
inductive Fails (files : FileTree) (here : Location) (input : Input) (r : Request) :
    Failure → Prop
  | input {e : Failure} (fails : InputFails files here input r.file e) : Fails files here input r e
  | fieldTooLong {text : Text} (read : readInput files here input r.file = .ok text)
      (csv : r.format = .csv)
      (long : ∃ row ∈ Csv.rowsFrom {} text, ∃ field ∈ row, Csv.fieldLimit < field.length) :
      Fails files here input r .fieldTooLong

variable {files : FileTree} {here : Location} {input : Input} {sink : Sink} {r : Request}

theorem decode_eq_error_iff {bytes : List UInt8} :
    decode bytes = .error e ↔ e = .undecodable ∧ Text.ofUtf8? bytes = none := by
  rw [decode]
  cases Text.ofUtf8? bytes with
  | some t => exact ⟨fun h => absurd h (by simp), fun h => absurd h.2 (by simp)⟩
  | none => exact ⟨fun h => ⟨(Except.error.inj h).symm, rfl⟩, fun h => by rw [h.1]⟩

theorem rows_eq_error_iff {format : Format} {text : Text} :
    format.rows text = .error e ↔ e = .fieldTooLong ∧ format = .csv ∧
      ∃ row ∈ Csv.rowsFrom {} text, ∃ field ∈ row, Csv.fieldLimit < field.length := by
  cases format with
  | tsv => exact ⟨fun h => absurd h (by simp [Format.rows]), fun h => absurd h.2.1 (by simp)⟩
  | csv =>
    have hlong : ((Csv.rowsFrom {} text).any fun row =>
        row.any fun field => Csv.fieldLimit < field.length) = true ↔
          ∃ row ∈ Csv.rowsFrom {} text, ∃ field ∈ row, Csv.fieldLimit < field.length := by
      simp only [List.any_eq_true, decide_eq_true_eq]
    have hrows : Format.csv.rows text =
        if (Csv.rowsFrom {} text).any fun row => row.any fun field => Csv.fieldLimit < field.length
          then .error .fieldTooLong else .ok (Csv.rowsFrom {} text) := by
      rw [Format.rows, Csv.rows?]
      split
      · next h =>
        split at h
        · cases h
        · next hshort =>
          cases h
          rw [if_neg hshort]
      · next h =>
        split at h
        · next hlong' => rw [if_pos hlong']
        · cases h
    rw [hrows, ← hlong]
    split
    · next h => exact ⟨fun he => ⟨(Except.error.inj he).symm, rfl, h⟩, fun he => by rw [he.1]⟩
    · next h => exact ⟨fun he => absurd he (by simp), fun he => absurd he.2.2 h⟩

theorem readInput_eq_error_iff {file : Option Text} :
    readInput files here input file = .error e ↔ InputFails files here input file e := by
  constructor
  · intro h
    cases file with
    | some path =>
      rcases bind_eq_error_iff.mp h with hfile | ⟨bytes, hfile, hbytes⟩
      · obtain ⟨e', hread, rfl⟩ := mapError_eq_error_iff.mp hfile
        exact .unreadable rfl hread
      · obtain ⟨rfl, hdecode⟩ := decode_eq_error_iff.mp hbytes
        exact .undecodable (.file rfl (mapError_eq_ok_iff.mp hfile)) hdecode
    | none =>
      cases input with
      | bytes bytes =>
        rcases bind_eq_error_iff.mp h with hbytes | ⟨_, -, hdone⟩
        · obtain ⟨rfl, hdecode⟩ := decode_eq_error_iff.mp hbytes
          exact .undecodable (.input rfl rfl) hdecode
        · cases hdone
      | interrupt =>
        cases h
        exact .interrupted rfl rfl
  · intro h
    cases h with
    | unreadable named read =>
      subst named
      exact bind_eq_error_iff.mpr (.inl (mapError_eq_error_iff.mpr ⟨_, read, rfl⟩))
    | interrupted unnamed given =>
      subst unnamed given
      rfl
    | undecodable reads decode =>
      have hdecode := decode_eq_error_iff.mpr ⟨rfl, decode⟩
      cases reads with
      | file named read =>
        subst named
        exact bind_eq_error_iff.mpr (.inr ⟨_, mapError_eq_ok_iff.mpr read, hdecode⟩)
      | input unnamed given =>
        subst unnamed given
        exact bind_eq_error_iff.mpr (.inl hdecode)

/-- The table command fails if something goes wrong with its table, and only then. -/
theorem outcome_run_eq_error_iff :
    (run files here input sink r).outcome = .error e ↔ Fails files here input r e := by
  rw [outcome_run, map_eq_error_iff, bind_eq_error_iff, readInput_eq_error_iff]
  constructor
  · rintro (hinput | ⟨text, htext, hrows⟩)
    · exact .input hinput
    · obtain ⟨rfl, hcsv, hlong⟩ := rows_eq_error_iff.mp hrows
      exact .fieldTooLong htext hcsv hlong
  · intro h
    cases h with
    | input fails => exact .inl fails
    | fieldTooLong read csv long => exact .inr ⟨_, read, rows_eq_error_iff.mpr ⟨rfl, csv, long⟩⟩

end Table

/-! ### Help -/

/-- What goes wrong with an indent: it is not an integer or a truth value, or it is no length. -/
inductive Value.IndentFails : Value → Failure → Prop
  | wrongKind {v : Value} (integer : ∀ i, v ≠ .int i) (bool : ∀ b, v ≠ .bool b) :
      IndentFails v .wrongKind
  | length {i : Int} {e : Text.LengthError} (length : Text.lengthOf i = .error e) :
      IndentFails (.int i) (.length e)

/-- No indent makes a command go missing. -/
theorem Value.IndentFails.ne_catalog {v : Value} (h : v.IndentFails e) (c : Catalog.Error) :
    e ≠ .catalog c := by
  cases h <;> exact Failure.noConfusion

theorem Renderer.ofIndent_eq_error_iff {pen : Pen} {indent : Value} :
    ofIndent pen indent = .error e ↔ indent.IndentFails e := by
  constructor
  · intro h
    cases indent with
    | int i =>
      rcases bind_eq_error_iff.mp h with hlength | ⟨_, -, hdone⟩
      · obtain ⟨e', hlong, rfl⟩ := mapError_eq_error_iff.mp hlength
        exact .length hlong
      · cases hdone
    | bool b => cases h
    | _ =>
      cases h
      exact .wrongKind nofun nofun
  · intro h
    cases h with
    | wrongKind integer bool =>
      cases indent with
      | int i => exact absurd rfl (integer i)
      | bool b => exact absurd rfl (bool b)
      | _ => rfl
    | length length =>
      exact bind_eq_error_iff.mpr (.inl (mapError_eq_error_iff.mpr ⟨_, length, rfl⟩))

/-- There is a token to replace, but the token or what is put in for it is no text. -/
def Reader.IsStuck (token program : Value) : Prop :=
  token.isTruthy = true ∧ ∀ t name, token = .text t → program ≠ .text name

theorem Reader.check_eq_error_iff {token program : Value} :
    (ofValues token program).check = .error e ↔ e = .wrongKind ∧ IsStuck token program := by
  unfold ofValues
  split
  · next hfalse =>
    refine ⟨nofun, fun h => ?_⟩
    rw [h.2.1] at hfalse
    cases hfalse
  · next htrue =>
    have htruthy : token.isTruthy = true := by simpa using htrue
    split
    · exact ⟨nofun, fun h => absurd rfl (h.2.2 _ _ rfl)⟩
    · next hkind =>
      exact ⟨fun h => ⟨(Except.error.inj h).symm, htruthy, hkind⟩, fun h => by rw [h.1]; rfl⟩
namespace Help

/-- What goes wrong with help.  For the list of all commands the name of the program cannot be
written, or the list cannot be indented, or the name cannot be put in for a token.  A page is not
found, or the name of the program cannot be put in, or the page cannot be indented, or its text
cannot be written. -/
inductive Fails (r : Request) : Failure → Prop
  | listName (list : r.command = []) (refused : r.sink.takes r.program.plain = false) :
      Fails r .unencodable
  | listIndent {e : Failure} (list : r.command = []) (named : r.sink.takes r.program.plain = true)
      (fails : r.settings.indent.IndentFails e) : Fails r e
  | listToken (list : r.command = []) (named : r.sink.takes r.program.plain = true)
      (indent : ∀ e, ¬ r.settings.indent.IndentFails e)
      (stuck : Reader.IsStuck r.settings.token r.program) : Fails r .wrongKind
  | unknown {e : Catalog.Error} (page : r.command ≠ [])
      (missing : Catalog.standard.resolve r.command (r.subCommand.getD []) = .error e) :
      Fails r (.catalog e)
  | pageToken {doc : Text} (page : r.command ≠ [])
      (found : Catalog.standard.resolve r.command (r.subCommand.getD []) = .ok doc)
      (stuck : Reader.IsStuck r.settings.token r.program) : Fails r .wrongKind
  | pageIndent {e : Failure} {doc : Text} (page : r.command ≠ [])
      (found : Catalog.standard.resolve r.command (r.subCommand.getD []) = .ok doc)
      (able : ¬ Reader.IsStuck r.settings.token r.program)
      (fails : r.settings.indent.IndentFails e) : Fails r e
  | pageText {loaded : Page} {renderer : Renderer} (page : r.command ≠ [])
      (load : (Catalog.standard.loadPage (Reader.ofValues r.settings.token r.program) r.command
        r.subCommand).outcome = .ok loaded)
      (indent : r.settings.renderer = .ok renderer)
      (refused : r.sink.takes (renderer.render loaded) = false) : Fails r .unencodable

variable {r : Request}

theorem check_eq_ok_iff :
    (∃ a, (Reader.ofValues r.settings.token r.program).check = .ok a) ↔
      ¬ Reader.IsStuck r.settings.token r.program := by
  simp only [exists_eq_ok_iff, ne_eq, Reader.check_eq_error_iff, not_and, forall_eq]

theorem renderer_eq_error_iff :
    r.settings.renderer = .error e ↔ r.settings.indent.IndentFails e :=
  Renderer.ofIndent_eq_error_iff

/-- The list of all commands needs the name of the program first, then the indent and then the
token. -/
theorem outcome_showCommands_eq_error_iff (writable : r.program.isWritable = true)
    (list : r.command = []) :
    (showCommands .standard r).outcome = .error e ↔ Fails r e := by
  rw [outcome_showCommands writable]
  constructor
  · intro h
    split at h
    · next named =>
      rcases bind_eq_error_iff.mp h with hrenderer | ⟨renderer, hrenderer, hreader⟩
      · exact .listIndent list named (renderer_eq_error_iff.mp hrenderer)
      · obtain ⟨rfl, hstuck⟩ := Reader.check_eq_error_iff.mp hreader
        refine .listToken list named (fun e' hfails => ?_) hstuck
        rw [renderer_eq_error_iff.mpr hfails] at hrenderer
        cases hrenderer
    · next refused =>
      cases h
      exact .listName list (Bool.eq_false_iff.mpr refused)
  · intro h
    cases h with
    | listName _ refused => rw [if_neg (Bool.eq_false_iff.mp refused)]
    | listIndent _ named fails =>
      rw [if_pos named]
      exact bind_eq_error_iff.mpr (.inl (renderer_eq_error_iff.mpr fails))
    | listToken _ named indent stuck =>
      rw [if_pos named]
      obtain ⟨renderer, hrenderer⟩ :=
        exists_eq_ok_iff.mpr fun e' he => indent e' (renderer_eq_error_iff.mp he)
      exact bind_eq_error_iff.mpr
        (.inr ⟨renderer, hrenderer, Reader.check_eq_error_iff.mpr ⟨rfl, stuck⟩⟩)
    | unknown page => exact absurd list page
    | pageToken page => exact absurd list page
    | pageIndent page => exact absurd list page
    | pageText page => exact absurd list page

/-- A page of the program is loaded if it is found and the name of the program can be put in. -/
theorem exists_loadPage_iff {reader : Reader} {name : Text} {sub : Option Text} :
    (∃ page, (Catalog.standard.loadPage reader name sub).outcome = .ok page) ↔
      (∃ doc, Catalog.standard.resolve name (sub.getD []) = .ok doc) ∧
        ∃ a, reader.check = .ok a := by
  rw [exists_eq_ok_iff]
  simp only [ne_eq, outcome_loadPage_eq_error_iff, not_or, not_and, not_exists]
  constructor
  · intro h
    cases hdoc : Catalog.standard.resolve name (sub.getD []) with
    | error missing => exact absurd rfl ((h (.catalog missing)).1 missing hdoc)
    | ok doc =>
      refine ⟨⟨doc, rfl⟩, exists_eq_ok_iff.mpr fun e => (h e).2 ⟨doc, hdoc⟩⟩
  · rintro ⟨⟨doc, hdoc⟩, hcheck⟩ e
    refine ⟨fun missing hmissing => ?_, fun _ => exists_eq_ok_iff.mp hcheck e⟩
    cases hdoc.symm.trans hmissing

/-- A page is looked up first and read then; its indent is needed behind that, and last its text is
written. -/
theorem outcome_showPage_eq_error_iff (page : r.command ≠ []) :
    (showPage .standard r).outcome = .error e ↔ Fails r e := by
  rw [outcome_showPage]
  constructor
  · intro h
    rcases bind_eq_error_iff.mp h with hload | ⟨loaded, hload, h⟩
    · rcases outcome_loadPage_eq_error_iff.mp hload with
        ⟨e', hmissing, rfl⟩ | ⟨⟨doc, hfound⟩, hcheck⟩
      · exact .unknown page hmissing
      · obtain ⟨rfl, hstuck⟩ := Reader.check_eq_error_iff.mp hcheck
        exact .pageToken page hfound hstuck
    · rcases bind_eq_error_iff.mp h with hrenderer | ⟨renderer, hrenderer, h⟩
      · obtain ⟨⟨doc, hfound⟩, hcheck⟩ := exists_loadPage_iff.mp ⟨loaded, hload⟩
        exact .pageIndent page hfound (check_eq_ok_iff.mp hcheck)
          (renderer_eq_error_iff.mp hrenderer)
      · split at h
        · cases h
        · next refused =>
          cases h
          exact .pageText page hload hrenderer (Bool.eq_false_iff.mpr refused)
  · intro h
    cases h with
    | listName list => exact absurd list page
    | listIndent list => exact absurd list page
    | listToken list => exact absurd list page
    | unknown _ missing =>
      exact bind_eq_error_iff.mpr
        (.inl (outcome_loadPage_eq_error_iff.mpr (.inl ⟨_, missing, rfl⟩)))
    | pageToken _ found stuck =>
      have hcheck := Reader.check_eq_error_iff.mpr ⟨rfl, stuck⟩
      exact bind_eq_error_iff.mpr
        (.inl (outcome_loadPage_eq_error_iff.mpr (.inr ⟨⟨_, found⟩, hcheck⟩)))
    | pageIndent _ found able fails =>
      obtain ⟨loaded, hload⟩ := exists_loadPage_iff.mpr ⟨⟨_, found⟩, check_eq_ok_iff.mpr able⟩
      exact bind_eq_error_iff.mpr (.inr ⟨loaded, hload, bind_eq_error_iff.mpr
        (.inl (renderer_eq_error_iff.mpr fails))⟩)
    | pageText _ load indent refused =>
      refine bind_eq_error_iff.mpr (.inr ⟨_, load, bind_eq_error_iff.mpr (.inr ⟨_, indent, ?_⟩)⟩)
      exact if_neg (Bool.eq_false_iff.mp refused)

/-- The help command fails if something goes wrong with help, and only then. -/
theorem outcome_run_eq_error_iff (writable : r.program.isWritable = true) :
    (run .standard r).outcome = .error e ↔ Fails r e := by
  rw [run]
  split
  · next list => exact outcome_showCommands_eq_error_iff writable list
  · next page => exact outcome_showPage_eq_error_iff page

end Help
end HelpPages
