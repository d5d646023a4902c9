import HelpPages.Proofs.Json.Writable
import HelpPages.Proofs.Log.Remarks
import HelpPages.Settings

/-! # Layers of settings

The layers of settings come from documents and from the command line, so all their values have
texts (`isWritable_of_layers`), and so have the values of the settings themselves
(`isWritable_of_mem_ofLayers`).  Where a value comes from can therefore always be told, and all
that is told of settings are remarks (`exists_remarks_resolve`).
-/
namespace HelpPages
namespace Settings

variable {p : Place} {given : Given} {start : Text}

/-! ### Values with texts -/

/-- The values in a settings file have texts. -/
theorem isWritable_of_readMap {path : Text} {entries : Entries Value}
    (h : p.readMap path = .ok entries) : ∀ entry ∈ entries, entry.2.isWritable = true := by
  rw [Place.readMap] at h
  split at h
  · cases h
    nofun
  · cases h
  · split at h
    · cases h
    · split at h
      · next hdocument =>
        cases h
        have hmap := Json.isWritable_read hdocument
        rw [Value.isWritable] at hmap
        exact Value.haveWritable_iff.mp hmap
      · cases h
        nofun
      · cases h
        nofun
      · cases h
      · cases h

theorem isWritable_of_readProject {found : Entries Value × Option Text}
    (h : p.readProject start = .ok found) : ∀ entry ∈ found.1, entry.2.isWritable = true := by
  obtain ⟨file, -, h⟩ := bind_eq_ok_iff.mp h
  cases file with
  | none =>
    cases h
    nofun
  | some l =>
    obtain ⟨entries, hentries, hdone⟩ := bind_eq_ok_iff.mp h
    cases hdone
    exact isWritable_of_readMap hentries

/-! ### The layers of a place -/

/-- The layer of the project, with the path of its file. -/
def projectLayer (p : Place) (given : Given) (start : Text) :
    Except Failure (Entries Value × Option Text) :=
  if given.file = [] then p.readProject start
  else (p.readMap given.file).map fun entries => (entries, some (Path.normal given.file))

/-- The layer of the command line. -/
def commandLine (given : Given) : Entries Value :=
  if given.noColor then [("color", .bool false)] else []

theorem layers_eq : layers p given start = projectLayer p given start >>= fun found =>
    p.readUser.map fun user =>
      (([("cli", commandLine given), ("project", found.1), ("global", user)], found.2) :
        List Layer × Option Text) := by
  rw [layers, projectLayer]
  split
  · refine congrArg _ (funext fun _ => ?_)
    cases p.readUser <;> rfl
  · cases p.readMap given.file with
    | error e => rfl
    | ok entries =>
      show Except.bind p.readUser _ = _
      cases p.readUser <;> rfl

theorem isWritable_of_projectLayer {found : Entries Value × Option Text}
    (h : projectLayer p given start = .ok found) :
    ∀ entry ∈ found.1, entry.2.isWritable = true := by
  rw [projectLayer] at h
  split at h
  · exact isWritable_of_readProject h
  · cases hmap : p.readMap given.file with
    | error e =>
      rw [hmap] at h
      cases h
    | ok entries =>
      rw [hmap] at h
      cases h
      exact isWritable_of_readMap hmap

theorem isWritable_commandLine (given : Given) :
    ∀ entry ∈ commandLine given, entry.2.isWritable = true := by
  rw [commandLine]
  split
  · exact List.forall_mem_singleton.mpr rfl
  · nofun

/-- **All values in layers have texts.** -/
theorem isWritable_of_layers {found : List Layer × Option Text}
    (h : layers p given start = .ok found) :
    ∀ layer ∈ found.1, ∀ entry ∈ layer.2, entry.2.isWritable = true := by
  rw [layers_eq] at h
  obtain ⟨project, hproject, h⟩ := bind_eq_ok_iff.mp h
  cases huser : p.readUser with
  | error e =>
    rw [huser] at h
    cases h
  | ok user =>
    rw [huser] at h
    cases h
    exact List.forall_mem_cons.mpr ⟨isWritable_commandLine given, List.forall_mem_cons.mpr
      ⟨isWritable_of_projectLayer hproject,
        List.forall_mem_singleton.mpr (isWritable_of_readMap huser)⟩⟩

section

variable {layers : List Layer}
  (writable : ∀ layer ∈ layers, ∀ entry ∈ layer.2, entry.2.isWritable = true)
include writable

/-- What a layer with a value for a setting gives has a text. -/
theorem isWritable_of_firstValue? {name source : Text} {v : Value}
    (h : firstValue? name layers = some (source, v)) : v.isWritable = true := by
  induction layers with
  | nil => cases h
  | cons layer layers ih =>
    obtain ⟨source', layer⟩ := layer
    obtain ⟨hlayer, hlayers⟩ := List.forall_mem_cons.mp writable
    have hown : (inLayer name layer).isWritable = true := by
      rw [inLayer]
      split
      · next v hv => exact hlayer _ (Entries.mem_of_get?_eq_some hv)
      · cases hv : layer.get? (dashed name) with
        | some v => exact hlayer _ (Entries.mem_of_get?_eq_some hv)
        | none => rfl
    rw [firstValue?] at h
    split at h
    · exact ih hlayers h
    · cases h
      exact hown

/-- The value of a setting has a text if its default has one. -/
theorem isWritable_valueOf {setting : Text × Value} (h : setting.2.isWritable = true) :
    (valueOf layers setting).isWritable = true := by
  rw [valueOf]
  split
  · next source v hv => exact isWritable_of_firstValue? writable hv
  · exact h

end

/-! ### The settings that layers make -/

/-- The values of all settings. -/
def values (layers : List Layer) : Entries Value :=
  defaults.map fun setting => (setting.1, valueOf layers setting)

/-- The settings that layers of values make. -/
def ofLayers (layers : List Layer) : Settings := ofEntries (values layers)

/-- The name of the program in settings that were read has a text. -/
theorem isWritable_programName_ofLayers {found : List Layer × Option Text}
    (h : layers p given start = .ok found) : (ofLayers found.1).programName.isWritable = true := by
  have hdefault : (("program_name", .null) : Text × Value).2.isWritable = true := rfl
  exact isWritable_valueOf (isWritable_of_layers h) hdefault

/-! ### Remarks on settings -/

theorem exists_remarks_tellSources {layers : List Layer}
    (writable : ∀ layer ∈ layers, ∀ entry ∈ layer.2, entry.2.isWritable = true)
    (settings : Entries Value) :
    ∃ texts, (tellSources layers settings).Remarks (.ok ()) 2 "config" texts := by
  induction settings with
  | nil => exact ⟨[], Run.remarks_done _ _ _⟩
  | cons setting settings ih =>
    obtain ⟨more, hrest⟩ := ih
    rw [tellSources]
    cases h : firstValue? setting.1 layers with
    | none => exact ⟨more, hrest⟩
    | some found =>
      obtain ⟨source, v⟩ := found
      have hv := isWritable_of_firstValue? writable h
      have hbare : Template.HasBareFields ["key", "value", "source"] valueTemplate := by
        rw [valueTemplate]
        repeat rw [Text.ofString_ofList]
        decide
      have hwritable : ∀ entry ∈ ([("key", .text setting.1), ("value", v),
          ("source", .text source)] : Entries Value), entry.2.isWritable = true := by
        simp [Value.isWritable, hv]
      obtain ⟨text, htext⟩ := Log.exists_textOf hbare rfl hwritable
      exact ⟨_, (Run.remarks_emit 2 "config" htext).bind hrest⟩

theorem exists_remarks_tellFile (path : Option Text) :
    ∃ texts, (tellFile path).Remarks (.ok ()) 2 "config" texts := by
  cases path with
  | none => exact ⟨[], Run.remarks_done _ _ _⟩
  | some path =>
    have hbare : Template.HasBareFields ["path"] fileTemplate := by
      rw [fileTemplate]
      repeat rw [Text.ofString_ofList]
      decide
    have hwritable : ∀ entry ∈ ([("path", .text path)] : Entries Value),
        entry.2.isWritable = true := List.forall_mem_singleton.mpr rfl
    obtain ⟨text, htext⟩ := Log.exists_textOf hbare rfl hwritable
    exact ⟨_, Run.remarks_emit 2 "config" htext⟩

/-- **Settings are found if their layers are read**, and all that is told of them are remarks. -/
theorem exists_remarks_resolve (p : Place) (given : Given) (start : Text) :
    ∃ texts, (resolve p given start).Remarks
      ((layers p given start).map fun found => values found.1) 2 "config" texts := by
  rw [resolve]
  cases h : layers p given start with
  | error e => exact ⟨[], Run.remarks_done _ _ _⟩
  | ok found =>
    obtain ⟨texts, hsources⟩ := exists_remarks_tellSources (isWritable_of_layers h) defaults
    obtain ⟨more, hfile⟩ := exists_remarks_tellFile found.2
    exact ⟨_, hsources.bind (hfile.bind (Run.remarks_done _ _ _))⟩

theorem outcome_resolve (p : Place) (given : Given) (start : Text) :
    (resolve p given start).outcome =
      (layers p given start).map fun found => values found.1 := by
  obtain ⟨texts, h⟩ := exists_remarks_resolve p given start
  exact h.outcome_eq

theorem output_resolve (p : Place) (given : Given) (start : Text) :
    (resolve p given start).output = [] := by
  obtain ⟨texts, h⟩ := exists_remarks_resolve p given start
  exact h.output_eq

theorem isInert_resolve (p : Place) (given : Given) (start : Text) (hints : Hints) :
    (resolve p given start).IsInert hints := by
  obtain ⟨texts, h⟩ := exists_remarks_resolve p given start
  exact h.isInert hints

end Settings
end HelpPages
