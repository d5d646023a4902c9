import HelpPages.Catalog.Basic
import HelpPages.Proofs.Value.Entries

/-! # Listed sub-commands and sub-commands that are found

The sub-commands of a command are listed by a scan of the names of its members along
the line of its class, and one of them is looked up by the name of its member.  Both
reach a member in the same way, so the scan lists a sub-command exactly when looking
it up reaches a member that can be called, and with the same text (`IsListing`).  A look-up
goes on where the scan ends: a name that no member has is left to the target itself, which
may answer with something that can be called or with an error of its own.  The listing
decides a look-up exactly if it does neither (`resolve_eq_listed`).
-/
namespace HelpPages

/-! ### Names of sub-commands -/

theorem dashed_underscored (name : Text) : dashed (underscored name) = dashed name := by
  simp only [dashed, underscored, List.map_map]
  refine List.map_congr_left fun c _ => ?_
  by_cases hc : c = '-'
  · simp [hc]
  · simp [hc]

theorem underscored_dashed (name : Text) : underscored (dashed name) = underscored name := by
  simp only [dashed, underscored, List.map_map]
  refine List.map_congr_left fun c _ => ?_
  by_cases hc : c = '_'
  · simp [hc]
  · simp [hc]

theorem underscored_of_notMem {name : Text} (h : CodePoint.char '-' ∉ name) :
    underscored name = name := by
  refine (List.map_congr_left fun c hc => ?_).trans (List.map_id' name)
  exact if_neg fun he : c = .char '-' => h (he ▸ hc)

/-- The name of the member that is looked up for a sub-command. -/
def memberName (sub : Text) : Text := subCommandStart ++ underscored sub

theorem memberName_dashed (sub : Text) : memberName (dashed sub) = memberName sub := by
  rw [memberName, underscored_dashed, memberName]

/-- The names of members that are sub-commands. -/
theorem subCommandName?_eq_some_iff {member sub : Text} :
    subCommandName? member = some sub ↔
      ∃ rest, member = subCommandStart ++ rest ∧ rest ≠ [] ∧ sub = dashed rest := by
  rw [subCommandName?, Option.ite_none_right_eq_some, List.isPrefixOf_iff_prefix]
  constructor
  · rintro ⟨⟨⟨rest, rfl⟩, hlength⟩, hsub⟩
    rw [List.drop_left] at hsub
    refine ⟨rest, rfl, fun hnil => ?_, (Option.some.inj hsub).symm⟩
    rw [hnil, List.append_nil] at hlength
    exact Nat.lt_irrefl _ hlength
  · rintro ⟨rest, rfl, hne, rfl⟩
    refine ⟨⟨List.prefix_append .., ?_⟩, by rw [List.drop_left]⟩
    rw [List.length_append]
    exact Nat.lt_add_of_pos_right (List.length_pos_iff.mpr hne)

theorem subCommandName?_memberName {sub : Text} (h : sub ≠ []) :
    subCommandName? (memberName sub) = some (dashed sub) := by
  refine subCommandName?_eq_some_iff.mpr ⟨underscored sub, rfl, ?_, (dashed_underscored sub).symm⟩
  rwa [underscored, ne_eq, List.map_eq_nil_iff]

/-- The name of a sub-command is never empty. -/
theorem ne_nil_of_subCommandName? {member sub : Text} (h : subCommandName? member = some sub) :
    sub ≠ [] := by
  obtain ⟨rest, -, hne, rfl⟩ := subCommandName?_eq_some_iff.mp h
  rwa [dashed, ne_eq, List.map_eq_nil_iff]

/-- A member without dashes in its name is looked up under its name. -/
theorem memberName_dashed_of_plain {rest : Text}
    (h : CodePoint.char '-' ∉ subCommandStart ++ rest) :
    memberName (dashed rest) = subCommandStart ++ rest := by
  have hrest : CodePoint.char '-' ∉ rest := fun hmem => h (List.mem_append_right _ hmem)
  rw [memberName_dashed, memberName, underscored_of_notMem hrest]

/-- A member without dashes in its name is the one that is looked up for its
sub-command. -/
theorem eq_memberName_of_subCommandName? {member sub : Text}
    (plain : CodePoint.char '-' ∉ member) (h : subCommandName? member = some sub) :
    member = memberName sub := by
  obtain ⟨rest, rfl, -, rfl⟩ := subCommandName?_eq_some_iff.mp h
  exact (memberName_dashed_of_plain plain).symm

/-! ### Members -/

namespace Target

/-- The targets that carry sub-commands: modules and classes. -/
def CarriesSubCommands : Target → Prop
  | module .. | type .. => True
  | text _ | function .. => False

/-- Along a line of classes a member is found only under a name that one of them
defines. -/
theorem mem_memberNames_of_find? {c definer : Class} {name : Text} {m : Member}
    (beyond : Text → Answer) (h : c.find? name = some (definer, m)) :
    name ∈ (type c beyond).memberNames := by
  obtain ⟨k, hk, hfound⟩ := List.exists_of_findSome?_eq_some h
  obtain ⟨m', hm', -⟩ := Option.map_eq_some_iff.mp hfound
  exact List.mem_flatMap.mpr ⟨k, hk, Entries.mem_names_of_get?_eq_some hm'⟩

/-- What is reached in a target that carries sub-commands is among its members. -/
theorem mem_memberNames_of_reach? {target : Target} (carries : target.CarriesSubCommands)
    {known : Entries Class} {name : Text} {reached : Reached}
    (h : target.reach? known name = some reached) : name ∈ target.memberNames := by
  cases target with
  | text doc => cases h
  | function doc members => exact carries.elim
  | module doc members beyond =>
    obtain ⟨m, hm, -⟩ := Option.map_eq_some_iff.mp h
    exact Entries.mem_names_of_get?_eq_some hm
  | type c beyond =>
    obtain ⟨⟨definer, m⟩, hfind, -⟩ := Option.map_eq_some_iff.mp h
    exact mem_memberNames_of_find? beyond hfind

/-- A name that no member has reaches nothing. -/
theorem reach?_eq_none_iff {target : Target} (carries : target.CarriesSubCommands)
    {known : Entries Class} {name : Text} :
    target.reach? known name = none ↔ name ∉ target.memberNames := by
  refine ⟨fun hnone hmem => ?_, fun hmem => ?_⟩
  · cases target with
    | text doc => exact carries.elim
    | function doc members => exact carries.elim
    | module doc members beyond =>
      exact absurd hmem (Entries.get?_eq_none_iff.mp (Option.map_eq_none_iff.mp hnone))
    | type c beyond =>
      obtain ⟨k, hk, hname⟩ := List.mem_flatMap.mp hmem
      have hfind : (k.members.get? name).map _ = none :=
        List.findSome?_eq_none_iff.mp (Option.map_eq_none_iff.mp hnone) k hk
      exact absurd hname (Entries.get?_eq_none_iff.mp (Option.map_eq_none_iff.mp hfind))
  · cases hreach : target.reach? known name with
    | none => rfl
    | some reached => exact absurd (mem_memberNames_of_reach? carries hreach) hmem

end Target

/-- The answer says that there is nothing to be called: it has nothing of the kind, and no error
of its own. -/
def Target.Answer.IsSilent (answer : Target.Answer) : Prop :=
  (∀ doc, answer ≠ .found ⟨true, doc⟩) ∧ ∀ kind message, answer ≠ .raises kind message

/-! ### The scan -/

namespace Catalog

variable {c : Catalog} {target : Target}

/-- What the scan has listed after the members in `seen`: each sub-command of one of
them whose look-up reaches something that can be called, once and with its text. -/
structure IsListing (c : Catalog) (target : Target) (seen : List Text) (sources : Entries Text) :
    Prop where
  nodup : sources.names.Nodup
  mem_iff : ∀ sub doc, (sub, doc) ∈ sources ↔
    (∃ member ∈ seen, subCommandName? member = some sub) ∧
      target.reach? c.classes (memberName sub) = some ⟨true, doc⟩

theorem isListing_nil (c : Catalog) (target : Target) : IsListing c target [] [] where
  nodup := List.nodup_nil
  mem_iff := fun sub doc => ⟨nofun, fun ⟨⟨_, hmember, _⟩, _⟩ => by cases hmember⟩

/-- A member that adds nothing leaves the listing as it is: it is no sub-command, cannot
be called, or stands for a sub-command that is listed already. -/
theorem IsListing.skip {seen : List Text} {sources : Entries Text} {member : Text}
    (h : IsListing c target seen sources)
    (nothing : ∀ sub doc, subCommandName? member = some sub →
      target.reach? c.classes (memberName sub) = some ⟨true, doc⟩ → sub ∈ sources.names) :
    IsListing c target (seen ++ [member]) sources where
  nodup := h.nodup
  mem_iff := by
    intro sub doc
    rw [h.mem_iff]
    constructor
    · rintro ⟨⟨m, hm, hsub⟩, hreach⟩
      exact ⟨⟨m, List.mem_append_left _ hm, hsub⟩, hreach⟩
    · rintro ⟨⟨m, hm, hsub⟩, hreach⟩
      refine ⟨?_, hreach⟩
      rcases List.mem_append.mp hm with hm | hm
      · exact ⟨m, hm, hsub⟩
      · rw [List.mem_singleton.mp hm] at hsub
        obtain ⟨⟨sub', doc'⟩, hmem, rfl⟩ := List.mem_map.mp (nothing sub doc hsub hreach)
        exact ((h.mem_iff _ _).mp hmem).1

/-- One member extends the listing by its sub-command. -/
theorem IsListing.addSource {seen : List Text} {sources : Entries Text} {member : Text}
    (h : IsListing c target seen sources) (plain : CodePoint.char '-' ∉ member) :
    IsListing c target (seen ++ [member]) (c.addSource target sources member) := by
  unfold Catalog.addSource
  split
  · next sub doc hsub hreach =>
    have hmember := eq_memberName_of_subCommandName? plain hsub
    -- a sub-command that is listed already was listed under the same member name
    split
    · next hlisted =>
      refine h.skip fun sub' doc' hsub' _ => ?_
      rw [hsub] at hsub'
      cases hsub'
      exact hlisted
    · next hnew =>
      refine ⟨?_, fun sub' doc' => ?_⟩
      · rw [Entries.names, List.map_append]
        refine List.nodup_append.mpr ⟨h.nodup, List.pairwise_singleton _ _, ?_⟩
        rintro a ha b hb rfl
        have he : a = sub := by rwa [List.map_singleton, List.mem_singleton] at hb
        exact hnew (he ▸ ha)
      · rw [List.mem_append, h.mem_iff, List.mem_singleton]
        constructor
        · rintro (⟨⟨m, hm, hsub'⟩, hreach'⟩ | he)
          · exact ⟨⟨m, List.mem_append_left _ hm, hsub'⟩, hreach'⟩
          · cases he
            exact ⟨⟨member, List.mem_append_right _ (List.mem_singleton.mpr rfl), hsub⟩,
              hmember ▸ hreach⟩
        · rintro ⟨⟨m, hm, hsub'⟩, hreach'⟩
          rcases List.mem_append.mp hm with hm | hm
          · exact Or.inl ⟨⟨m, hm, hsub'⟩, hreach'⟩
          · rw [List.mem_singleton.mp hm, hsub] at hsub'
            cases hsub'
            rw [← hmember, hreach] at hreach'
            cases hreach'
            exact Or.inr rfl
  · next hnone =>
    refine h.skip fun sub doc hsub hreach => ?_
    exact (hnone sub doc hsub (eq_memberName_of_subCommandName? plain hsub ▸ hreach)).elim

/-- The whole scan lists the sub-commands of all members. -/
theorem isListing_sourcesOf (plain : ∀ member ∈ target.memberNames, CodePoint.char '-' ∉ member) :
    IsListing c target target.memberNames (c.sourcesOf target) := by
  have hscan : ∀ (members seen : List Text) (sources : Entries Text),
      (∀ member ∈ members, CodePoint.char '-' ∉ member) → IsListing c target seen sources →
      IsListing c target (seen ++ members) (members.foldl (c.addSource target) sources) := by
    intro members
    induction members with
    | nil => intro seen sources _ h; rw [List.append_nil]; exact h
    | cons member members ih =>
      intro seen sources hplain h
      have hstep := h.addSource (hplain member (List.mem_cons_self ..))
      have hrest := ih _ _ (fun m hm => hplain m (List.mem_cons_of_mem _ hm)) hstep
      rwa [List.append_assoc] at hrest
  -- the induction is on the members that are left; those in front of them are listed
  exact hscan _ [] [] plain (isListing_nil c target)

/-- A sub-command is listed with what its look-up reaches. -/
theorem get?_sourcesOf (carries : target.CarriesSubCommands)
    (plain : ∀ member ∈ target.memberNames, CodePoint.char '-' ∉ member) {sub : Text}
    (hsub : sub ≠ []) (doc : Text) :
    (c.sourcesOf target).get? (dashed sub) = some doc ↔
      target.reach? c.classes (memberName sub) = some ⟨true, doc⟩ := by
  have hlisting := isListing_sourcesOf (c := c) plain
  rw [Entries.get?_eq_some_iff hlisting.nodup, hlisting.mem_iff, memberName_dashed]
  refine ⟨fun h => h.2, fun h => ⟨?_, h⟩⟩
  exact ⟨memberName sub, Target.mem_memberNames_of_reach? carries h,
    subCommandName?_memberName hsub⟩

theorem sources_of_get {name : Text} (registered : c.get name = .ok target) :
    c.sources name = .ok (c.sourcesOf target) := by
  rw [sources, registered]
  rfl

/-- What is said about a command itself. -/
theorem resolve_nil {name : Text} (registered : c.get name = .ok target) :
    c.resolve name [] = .ok target.doc := by
  simp only [resolve, registered, bind, Except.bind]
  rfl

/-- What a look-up makes of the answer to it. -/
def ofAnswer (name sub : Text) : Target.Answer → Except Error Text
  | .found ⟨true, doc⟩ => .ok doc
  | .raises kind message => .error (.raised kind message)
  | _ => .error (.unknownSubCommand sub name)

theorem resolve_of_get {name sub : Text} (registered : c.get name = .ok target) (hsub : sub ≠ []) :
    c.resolve name sub = ofAnswer name sub (target.access c.classes (memberName sub)) := by
  simp only [resolve, registered, bind, Except.bind, if_neg hsub, ofAnswer]
  rfl

theorem ofAnswer_eq_ok_iff {name sub doc : Text} {answer : Target.Answer} :
    ofAnswer name sub answer = .ok doc ↔ answer = .found ⟨true, doc⟩ := by
  cases answer with
  | nothing => exact ⟨nofun, nofun⟩
  | raises kind message => exact ⟨nofun, nofun⟩
  | found reached =>
    obtain ⟨callable, said⟩ := reached
    cases callable with
    | true => exact ⟨fun h => by cases h; rfl, fun h => by cases h; rfl⟩
    | false => exact ⟨nofun, nofun⟩

theorem ofAnswer_eq_unknown_iff {name sub : Text} {answer : Target.Answer} :
    ofAnswer name sub answer = .error (.unknownSubCommand sub name) ↔ answer.IsSilent := by
  cases answer with
  | nothing => exact ⟨fun _ => ⟨nofun, nofun⟩, fun _ => rfl⟩
  | found reached =>
    obtain ⟨callable, doc⟩ := reached
    cases callable with
    | true => exact ⟨nofun, fun h => absurd rfl (h.1 doc)⟩
    | false => exact ⟨fun _ => ⟨nofun, nofun⟩, fun _ => rfl⟩
  | raises kind message => exact ⟨nofun, fun h => absurd rfl (h.2 kind message)⟩

/-- A sub-command that is listed is found with what the listing says, and one that is not listed
is left to the target unless a member has its name. -/
theorem resolve_eq_of_get {name sub : Text} (registered : c.get name = .ok target)
    (carries : target.CarriesSubCommands)
    (plain : ∀ member ∈ target.memberNames, CodePoint.char '-' ∉ member) (hsub : sub ≠ []) :
    c.resolve name sub =
      match (c.sourcesOf target).get? (dashed sub) with
      | some doc => .ok doc
      | none =>
        if memberName sub ∈ target.memberNames then .error (.unknownSubCommand sub name)
        else ofAnswer name sub (target.beyond (memberName sub)) := by
  have hlisted := get?_sourcesOf (c := c) carries plain hsub
  rw [resolve_of_get registered hsub, Target.access]
  cases hget : (c.sourcesOf target).get? (dashed sub) with
  | some doc => rw [(hlisted doc).mp hget, ofAnswer]
  | none =>
    cases hreach : target.reach? c.classes (memberName sub) with
    | none => exact (if_neg ((Target.reach?_eq_none_iff carries).mp hreach)).symm
    | some reached =>
      obtain ⟨callable, doc⟩ := reached
      dsimp only
      rw [if_pos (Target.mem_memberNames_of_reach? carries hreach)]
      cases callable with
      | false => rfl
      | true =>
        rw [(hlisted doc).mpr hreach] at hget
        cases hget

/-- **The listing decides the look-ups that it can see.**  For a command whose target carries
sub-commands under names without dashes, a sub-command that is listed, spelled with dashes, is
found with what the listing says, and one that is not listed does not exist if a member has its
name.  Any other name is left to the target itself.  So the listing decides a look-up exactly if
a member has the name that is looked up, or the target answers to it with nothing that can be
called and no error of its own. -/
theorem resolve_eq_listed {name sub : Text} (registered : c.get name = .ok target)
    (carries : target.CarriesSubCommands)
    (plain : ∀ member ∈ target.memberNames, CodePoint.char '-' ∉ member) (hsub : sub ≠ []) :
    ∃ sources, c.sources name = .ok sources ∧ sources.names.Nodup ∧
      (c.resolve name sub =
        match sources.get? (dashed sub) with
        | some doc => .ok doc
        | none =>
          if memberName sub ∈ target.memberNames then .error (.unknownSubCommand sub name)
          else ofAnswer name sub (target.beyond (memberName sub))) ∧
      ((((∃ doc, c.resolve name sub = .ok doc) ↔ dashed sub ∈ sources.names) ∧
          (dashed sub ∉ sources.names →
            c.resolve name sub = .error (.unknownSubCommand sub name))) ↔
        memberName sub ∈ target.memberNames ∨ (target.beyond (memberName sub)).IsSilent) := by
  have hresolve := resolve_eq_of_get registered carries plain hsub
  refine ⟨_, sources_of_get registered, (isListing_sourcesOf plain).nodup, hresolve, ?_⟩
  cases hget : (c.sourcesOf target).get? (dashed sub) with
  | some doc =>
    rw [hget] at hresolve
    have hlisted := Entries.mem_names_of_get?_eq_some hget
    have hreach := ((get?_sourcesOf carries plain hsub) doc).mp hget
    exact ⟨fun _ => .inl (Target.mem_memberNames_of_reach? carries hreach),
      fun _ => ⟨⟨fun _ => hlisted, fun _ => ⟨doc, hresolve⟩⟩, fun h => absurd hlisted h⟩⟩
  | none =>
    rw [hget] at hresolve
    have hunlisted := Entries.get?_eq_none_iff.mp hget
    have hunknown : c.resolve name sub = .error (.unknownSubCommand sub name) ↔
        memberName sub ∈ target.memberNames ∨ (target.beyond (memberName sub)).IsSilent := by
      rw [hresolve]
      by_cases hmem : memberName sub ∈ target.memberNames
      · simp [hmem]
      · simp only [hmem, if_false, ofAnswer_eq_unknown_iff, false_or]
    rw [← hunknown]
    refine ⟨fun h => h.2 hunlisted, fun h => ⟨⟨fun ⟨doc, hdoc⟩ => ?_, fun hmem =>
      absurd hmem hunlisted⟩, fun _ => h⟩⟩
    rw [h] at hdoc
    cases hdoc

/-- A class with a sub-command of its own, one it overrides and one it hides. -/
def releaseCatalog : Catalog :=
  let function (doc : Text) : Member := { kind := .function, doc }
  let pipeline := Class.mk 0 "Pipeline" (some "Pipelines.") [
    ("execute_start", function "Starts the pipeline."),
    ("execute_list_all", function "Lists the pipelines."),
    ("execute_stop", function "Stops the pipeline.")] []
  let release := Class.mk 1 "Release" none [
    ("execute_list_all", function "Lists the releases."),
    ("execute_stop", { kind := .value, doc := none }),
    ("helper", function "Helps.")] [pipeline]
  { commands := [("release", .type release)]
    classes := [("Pipeline", pipeline), ("Release", release)] }

/-- A module without members that answers to every name with an error. -/
def strictCatalog : Catalog :=
  { commands := [("m", .module (some "M.") [] fun _ => .raises "TypeError" "not callable")] }

theorem resolve_eq_listed_release :
    (∃ target, releaseCatalog.get "release" = .ok target ∧ target.CarriesSubCommands ∧
      (∀ member ∈ target.memberNames, CodePoint.char '-' ∉ member) ∧
      memberName "list_all" ∈ target.memberNames ∧
      ∃ sources, releaseCatalog.sources "release" = .ok sources ∧ sources.names.Nodup ∧
        ((∃ doc, releaseCatalog.resolve "release" "list_all" = .ok doc) ↔
          dashed "list_all" ∈ sources.names)) ∧
      ∃ target, strictCatalog.get "m" = .ok target ∧ target.CarriesSubCommands ∧
        (∀ member ∈ target.memberNames, CodePoint.char '-' ∉ member) ∧
        strictCatalog.resolve "m" "x" = .error (.raised "TypeError" "not callable") ∧
        ∃ sources, strictCatalog.sources "m" = .ok sources ∧
          ¬ (((∃ doc, strictCatalog.resolve "m" "x" = .ok doc) ↔ dashed "x" ∈ sources.names) ∧
            (dashed "x" ∉ sources.names →
              strictCatalog.resolve "m" "x" = .error (.unknownSubCommand "x" "m"))) := by
  constructor
  · have hget : releaseCatalog.get "release" = .ok _ := rfl
    have hsub : ("list_all" : Text) ≠ [] := by decide
    obtain ⟨sources, hsources, hnodup, -, hagree⟩ :=
      resolve_eq_listed hget trivial (by decide) hsub
    exact ⟨_, rfl, trivial, by decide, by decide, sources, hsources, hnodup,
      (hagree.mpr (.inl (by decide))).1⟩
  · have hget : strictCatalog.get "m" = .ok _ := rfl
    have hsub : ("x" : Text) ≠ [] := by decide
    obtain ⟨sources, hsources, -, -, hagree⟩ :=
      resolve_eq_listed hget trivial (by decide) hsub
    refine ⟨_, rfl, trivial, by decide, rfl, sources, hsources, fun h => ?_⟩
    rcases hagree.mp h with hmem | hsilent
    · exact absurd hmem (by decide)
    · exact hsilent.2 _ _ rfl

end Catalog
end HelpPages
