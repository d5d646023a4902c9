import HelpPages.Proofs.Settings.Files
import HelpPages.Proofs.Text.Encodable

/-! # Precedence of layers

Settings come in three layers, and each layer says something about a name or is silent
(`Gives`).  The first layer that is not silent decides, and the default where all are
(`IsDecided`), for each name by itself: what other names and lower layers hold has no part in it
(`AgreeTo`, `resolve_decided`).
-/
namespace HelpPages
namespace Settings

/-! ### What a layer says -/

/-- What a layer says about a setting: the value under its name, else the one under its name with
dashes; it is silent if it has neither or a null. -/
inductive Gives (layer : Entries Value) (name : Text) : Value → Prop
  | spelled {v : Value} (found : layer.get? name = some v) : Gives layer name v
  | dashed {v : Value} (absent : layer.get? name = none)
      (found : layer.get? (HelpPages.dashed name) = some v) : Gives layer name v
  | silent (absent : layer.get? name = none)
      (undashed : layer.get? (HelpPages.dashed name) = none) : Gives layer name .null

/-- The value of a setting as layers decide it, highest first: the first layer that is not silent
decides, and the default decides if there is none. -/
inductive IsDecided (setting : Text × Value) : List (Entries Value) → Value → Prop
  | default : IsDecided setting [] setting.2
  | here {layer : Entries Value} {layers : List (Entries Value)} {v : Value}
      (gives : Gives layer setting.1 v) (given : v ≠ .null) : IsDecided setting (layer :: layers) v
  | deferred {layer : Entries Value} {layers : List (Entries Value)} {v : Value}
      (silent : Gives layer setting.1 .null) (rest : IsDecided setting layers v) :
      IsDecided setting (layer :: layers) v

/-- Two stacks of layers say the same about a name down to the layer that decides. -/
inductive AgreeTo (name : Text) : List (Entries Value) → List (Entries Value) → Prop
  | none : AgreeTo name [] []
  | decided {layer other : Entries Value} {layers others : List (Entries Value)} {v : Value}
      (gives : Gives layer name v) (same : Gives other name v) (given : v ≠ .null) :
      AgreeTo name (layer :: layers) (other :: others)
  | silent {layer other : Entries Value} {layers others : List (Entries Value)}
      (gives : Gives layer name .null) (same : Gives other name .null)
      (rest : AgreeTo name layers others) : AgreeTo name (layer :: layers) (other :: others)

variable {layer : Entries Value} {name : Text} {setting : Text × Value} {v w : Value}

theorem gives_iff : Gives layer name v ↔ inLayer name layer = v := by
  constructor
  · intro h
    cases h with
    | spelled found => simp only [inLayer, found]
    | dashed absent found => simp only [inLayer, absent, found, Option.getD_some]
    | silent absent undashed => simp only [inLayer, absent, undashed, Option.getD_none]
  · rintro rfl
    rw [inLayer]
    split
    · next found => exact .spelled found
    · next absent =>
      cases h : layer.get? (HelpPages.dashed name) with
      | none => exact .silent absent h
      | some v => exact .dashed absent h

/-- A layer gives one value for a name. -/
theorem Gives.eq (hv : Gives layer name v) (hw : Gives layer name w) : v = w :=
  (gives_iff.mp hv).symm.trans (gives_iff.mp hw)

namespace IsDecided

variable {layers : List (Entries Value)}

/-- A layer that is not silent decides. -/
theorem eq_of_gives (h : IsDecided setting (layer :: layers) w) (gives : Gives layer setting.1 v)
    (given : v ≠ .null) : w = v := by
  cases h with
  | here other _ => exact other.eq gives
  | deferred silent _ => exact absurd (gives.eq silent) given

/-- A silent layer leaves the decision to those below it. -/
theorem of_silent (h : IsDecided setting (layer :: layers) v)
    (silent : Gives layer setting.1 .null) : IsDecided setting layers v := by
  cases h with
  | here gives given => exact absurd (gives.eq silent) given
  | deferred _ rest => exact rest

end IsDecided

/-- Layers decide on the value of each setting. -/
theorem isDecided_valueOf (layers : List Layer) (setting : Text × Value) :
    IsDecided setting (layers.map Prod.snd) (valueOf layers setting) := by
  induction layers with
  | nil => exact .default
  | cons layer layers ih =>
    obtain ⟨source, layer⟩ := layer
    rw [List.map_cons]
    by_cases h : inLayer setting.1 layer = .null
    · have hvalue : valueOf ((source, layer) :: layers) setting = valueOf layers setting := by
        rw [valueOf, firstValue?, h]
        rfl
      rw [hvalue]
      exact .deferred (gives_iff.mpr h) ih
    · have hvalue : valueOf ((source, layer) :: layers) setting = inLayer setting.1 layer := by
        rw [valueOf, firstValue?]
        cases hv : inLayer setting.1 layer with
        | null => exact absurd hv h
        | _ => rfl
      rw [hvalue]
      exact .here (gives_iff.mpr rfl) h

/-- Layers that agree down to the one that decides decide alike. -/
theorem AgreeTo.eq {layers others : List (Entries Value)} (h : AgreeTo setting.1 layers others)
    (hv : IsDecided setting layers v) (hw : IsDecided setting others w) : v = w := by
  induction h with
  | none =>
    cases hv
    cases hw
    rfl
  | decided gives same given =>
    rw [hv.eq_of_gives gives given, hw.eq_of_gives same given]
  | silent gives same rest ih => exact ih (hv.of_silent gives) (hw.of_silent same)

/-! ### The layers of a place -/

/-- The layers that are read in a place, highest first: the command line, which has no colours if
it says so, the settings of the project and those of the user. -/
inductive Reads (p : Place) (given : Given) (start : Text) : List (Entries Value) → Prop
  | layers {project user : Entries Value} (nearest : ProjectHolds p given start project)
      (own : p.FileHolds p.userFile.text user) :
      Reads p given start [commandLine given, project, user]

variable {p : Place} {given : Given} {start : Text} {layers : List (Entries Value)}
  {values : Entries Value}

/-- What is read in a place becomes the values of all settings. -/
theorem Reads.outcome_resolve (h : Reads p given start layers) :
    ∃ named : List Layer, named.map Prod.snd = layers ∧ (resolve p given start).outcome =
      .ok (defaults.map fun setting => (setting.1, valueOf named setting)) := by
  obtain ⟨hproject, huser⟩ := h
  obtain ⟨path, hpath⟩ := exists_projectLayer_iff.mpr hproject
  have hlayers := layers_eq_ok_iff.mpr ⟨_, path, _, hpath, huser, rfl⟩
  exact ⟨_, rfl, by rw [Settings.outcome_resolve, hlayers]; rfl⟩

/-- The value that is found for a setting is the one that the layers decide on. -/
theorem Reads.isDecided (h : Reads p given start layers)
    (hvalues : (resolve p given start).outcome = .ok values) {setting : Text × Value}
    (hsetting : setting ∈ defaults) :
    ∃ v, values.get? setting.1 = some v ∧ IsDecided setting layers v := by
  obtain ⟨named, rfl, hresolve⟩ := h.outcome_resolve
  cases hresolve.symm.trans hvalues
  refine ⟨valueOf named setting, ?_, isDecided_valueOf named setting⟩
  have hnames : (Entries.names (defaults.map fun s => (s.1, valueOf named s))).Nodup :=
    show (Entries.names defaults).Nodup by decide
  exact (Entries.get?_eq_some_iff hnames).mpr (List.mem_map.mpr ⟨setting, hsetting, rfl⟩)

/-- **Each setting has the value of the first layer that is not silent about it, and its default
if all of them are.**  Two places whose layers agree on a setting down to the one that decides
have the same value for it, whatever the layers below and other settings are. -/
theorem resolve_decided (h : Reads p given start layers) :
    ∃ values, (resolve p given start).outcome = .ok values ∧ values.names = defaults.names ∧
      (∀ setting ∈ defaults, ∃ v, values.get? setting.1 = some v ∧ IsDecided setting layers v) ∧
      ∀ (p' : Place) (given' : Given) (start' : Text) (values' : Entries Value)
        (layers' : List (Entries Value)), Reads p' given' start' layers' →
        (resolve p' given' start').outcome = .ok values' →
        ∀ setting ∈ defaults, AgreeTo setting.1 layers layers' →
          values.get? setting.1 = values'.get? setting.1 := by
  obtain ⟨named, -, hvalues⟩ := h.outcome_resolve
  refine ⟨_, hvalues, rfl, fun setting hsetting => h.isDecided hvalues hsetting, ?_⟩
  intro p' given' start' values' layers' h' hvalues' setting hsetting hagree
  obtain ⟨v, hv, hdecided⟩ := h.isDecided hvalues hsetting
  obtain ⟨w, hw, hother⟩ := h'.isDecided hvalues' hsetting
  rw [hv, hw, hagree.eq hdecided hother]

/-- Settings with a null under the name of the program and with a zero. -/
def projectDocument : Text :=
  "\x7b\"program_name\": null, \"program-name\": \"p\", \"indent\": 0\x7d"

/-- Settings of a user with a name that is written with a dash. -/
def userDocument : Text := "\x7b\"program-name\": \"u\", \"indent\": 8, \"color\": true\x7d"

/-- Settings with the same zero and another setting. -/
def givenDocument : Text := "\x7b\"indent\": 0, \"color\": false\x7d"

/-- A project with settings in a directory above, and settings of its user. -/
def nestedPlace : Place where
  files.nodes :=
    [(["work", "sub"], .directory),
      (["work", ".dochelp.json"], .file (Text.toUtf8 projectDocument)),
      (["home", ".dochelp", "config.json"], .file (Text.toUtf8 userDocument))]
  here := ["work", "sub"]
  home := ["home"]

/-- A place whose user has no settings. -/
def givenPlace : Place where
  files.nodes := [(["alt.json"], .file (Text.toUtf8 givenDocument))]

/-- The layers of the project, without colours on the command line. -/
def nestedLayers : List (Entries Value) :=
  [[("color", .bool false)],
    [("program_name", .null), ("program-name", .text "p"), ("indent", .int 0)],
    [("program-name", .text "u"), ("indent", .int 8), ("color", .bool true)]]

/-- The layers of a file that is given. -/
def givenLayers : List (Entries Value) := [[], [("indent", .int 0), ("color", .bool false)], []]

/-- A file with the bytes of a document holds the map of the document. -/
theorem Place.fileHolds_of_document {path : Text} (document : Text) {entries : Entries Value}
    (read : p.files.read p.here path = .ok (Text.toUtf8 document))
    (encodable : document.isEncodable = true)
    (h : Json.read p.depth document = .ok (.map entries)) : p.FileHolds path entries :=
  .map ⟨encodable, read⟩ h

theorem reads_nestedPlace : Reads nestedPlace { noColor := true } [] nestedLayers := by
  have hsplit : nestedPlace.projectFiles [] =
      ([["work", "sub", ".dochelp.json"]] : List Location) ++
        (["work", ".dochelp.json"] : Location) :: ([[".dochelp.json"]] : List Location) := rfl
  have hnearest : nestedPlace.IsNearest [] (some ["work", ".dochelp.json"]) :=
    .found nofun hsplit (by decide +kernel) (by decide +kernel)
  refine .layers (.nearest rfl hnearest ?_) ?_
  · refine Place.fileHolds_of_document projectDocument rfl (Text.isEncodable_ofString _) ?_
    rw [projectDocument]
    repeat rw [Text.ofString_ofList]
    with_unfolding_all rfl
  · refine Place.fileHolds_of_document userDocument rfl (Text.isEncodable_ofString _) ?_
    rw [userDocument]
    repeat rw [Text.ofString_ofList]
    with_unfolding_all rfl

theorem reads_givenPlace : Reads givenPlace { file := "alt.json" } [] givenLayers := by
  have hmissing : givenPlace.files.read givenPlace.here givenPlace.userFile.text =
      .error (.missing "/.dochelp/config.json") := rfl
  refine .layers (.named nofun ?_) (.missing hmissing)
  refine Place.fileHolds_of_document givenDocument rfl (Text.isEncodable_ofString _) ?_
  rw [givenDocument]
  repeat rw [Text.ofString_ofList]
  with_unfolding_all rfl

theorem resolve_decided_nested :
    Reads nestedPlace { noColor := true } [] nestedLayers ∧
      Reads givenPlace { file := "alt.json" } [] givenLayers ∧
      (("indent", .int 2) : Text × Value) ∈ defaults ∧ AgreeTo "indent" nestedLayers givenLayers ∧
      ∃ values values', (resolve nestedPlace { noColor := true } []).outcome = .ok values ∧
        (resolve givenPlace { file := "alt.json" } []).outcome = .ok values' ∧
        values.get? "program_name" = some (.text "u") ∧
        values.get? "indent" = values'.get? "indent" := by
  have hindent : (("indent", .int 2) : Text × Value) ∈ defaults := by simp [defaults]
  have hname : (("program_name", .null) : Text × Value) ∈ defaults := by simp [defaults]
  have hagree : AgreeTo "indent" nestedLayers givenLayers :=
    .silent (gives_iff.mpr rfl) (gives_iff.mpr rfl)
      (.decided (v := .int 0) (gives_iff.mpr rfl) (gives_iff.mpr rfl) nofun)
  obtain ⟨values, hvalues, -, hdecided, htwo⟩ := resolve_decided reads_nestedPlace
  obtain ⟨values', hvalues', -⟩ := resolve_decided reads_givenPlace
  obtain ⟨v, hv, hprogram⟩ := hdecided _ hname
  have hu : v = .text "u" := ((hprogram.of_silent (gives_iff.mpr rfl)).of_silent
    (gives_iff.mpr rfl)).eq_of_gives (gives_iff.mpr rfl) nofun
  rw [hu] at hv
  exact ⟨reads_nestedPlace, reads_givenPlace, hindent, hagree, values, values', hvalues, hvalues',
    hv, htwo _ _ _ _ _ reads_givenPlace hvalues' _ hindent hagree⟩

end Settings
end HelpPages
