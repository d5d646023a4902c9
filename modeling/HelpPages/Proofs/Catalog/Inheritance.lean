import HelpPages.Proofs.Catalog.SubCommands
import Mathlib.Data.List.Basic

/-! # Inherited sub-commands

The scan for sub-commands goes through the names of the members of a class and of its
ancestors, but it looks every name up on the class itself.  So the place of a sub-command is
that of the first class that defines its member (`Class.place`), and whether it is listed and
what is said about it hang on the definition there alone (`Class.IsNearest`): definitions
further behind show neither in the order nor in the texts (`sources_type`).
-/
namespace HelpPages

namespace Class

variable {k definer : Class} {member : Text} {m : Member}

/-- The first member of a name along the line of a class, with the class that defines it. -/
def IsNearest (k : Class) (member : Text) (definer : Class) (m : Member) : Prop :=
  ∃ before behind, k.line = before ++ definer :: behind ∧
    (∀ j ∈ before, member ∉ j.members.names) ∧ definer.members.get? member = some m

/-- The nearest definition is what looking the name up finds. -/
theorem isNearest_iff : k.IsNearest member definer m ↔ k.find? member = some (definer, m) := by
  have hnone : ∀ j : Class, (j.members.get? member).map (fun m => (j, m)) = none ↔
      member ∉ j.members.names := fun j => by
    rw [Option.map_eq_none_iff, Entries.get?_eq_none_iff]
  rw [find?, List.findSome?_eq_some_iff]
  constructor
  · rintro ⟨before, behind, hline, hbefore, hget⟩
    exact ⟨before, definer, behind, hline, by rw [hget]; rfl,
      fun j hj => (hnone j).mpr (hbefore j hj)⟩
  · rintro ⟨before, j, behind, hline, hget, hbefore⟩
    obtain ⟨m', hm', he⟩ := Option.map_eq_some_iff.mp hget
    cases he
    exact ⟨before, behind, hline, fun i hi => (hnone i).mp (hbefore i hi), hm'⟩

/-- Where a member is first defined along some classes: how many classes stand in front of
the one that defines it, and how many members stand in front of it there. -/
def placeIn (member : Text) : List Class → Nat × Nat
  | [] => (0, 0)
  | k :: ks =>
    if member ∈ k.members.names then (0, k.members.names.idxOf member)
    else ((placeIn member ks).1 + 1, (placeIn member ks).2)

/-- Where a member is first defined along the line of a class. -/
def place (k : Class) (member : Text) : Nat × Nat := placeIn member k.line

/-- In front in an earlier class, or earlier in the same class. -/
def IsInFront (p q : Nat × Nat) : Prop := p.1 < q.1 ∨ p.1 = q.1 ∧ p.2 < q.2

instance (p q : Nat × Nat) : Decidable (IsInFront p q) :=
  inferInstanceAs (Decidable (p.1 < q.1 ∨ p.1 = q.1 ∧ p.2 < q.2))

/-- What is scanned first is in front. -/
theorem isInFront_of_idxOf_lt {classes : List Class} {a b : Text}
    (h : (classes.flatMap fun k => k.members.names).idxOf a <
      (classes.flatMap fun k => k.members.names).idxOf b) :
    IsInFront (placeIn a classes) (placeIn b classes) := by
  induction classes with
  | nil => exact absurd h (Nat.lt_irrefl _)
  | cons k ks ih =>
    rw [List.flatMap_cons] at h
    by_cases ha : a ∈ k.members.names
    · rw [placeIn, if_pos ha, placeIn]
      by_cases hb : b ∈ k.members.names
      · rw [List.idxOf_append_of_mem ha, List.idxOf_append_of_mem hb] at h
        rw [if_pos hb]
        exact Or.inr ⟨rfl, h⟩
      · rw [if_neg hb]
        exact Or.inl (Nat.succ_pos _)
    · by_cases hb : b ∈ k.members.names
      · -- a name that this class defines stands in front of all that it does not define
        rw [List.idxOf_append_of_notMem ha, List.idxOf_append_of_mem hb] at h
        have hlt := List.idxOf_lt_length_of_mem hb
        omega
      · rw [List.idxOf_append_of_notMem ha, List.idxOf_append_of_notMem hb] at h
        rw [placeIn, if_neg ha, placeIn, if_neg hb]
        exact (ih (Nat.lt_of_add_lt_add_left h)).imp Nat.succ_lt_succ
          fun ⟨hi, hj⟩ => ⟨congrArg (· + 1) hi, hj⟩

end Class

namespace Target

/-- A member about which something is said keeps it. -/
theorem doc_reachIn_of_some {known : Entries Class} {k definer : Class} {member : Text}
    {m : Member} {own : Text} (h : m.doc = some own) :
    (reachIn known k definer member m).doc = Docstring.clean own := by
  obtain ⟨kind, doc⟩ := m
  cases h
  cases kind <;> rfl

end Target

namespace Catalog

variable {c : Catalog} {target : Target}

/-- The listing is in the order of the scan. -/
def IsInOrder (seen : List Text) (sources : Entries Text) : Prop :=
  sources.names.Pairwise fun a b => seen.idxOf (memberName a) < seen.idxOf (memberName b)

/-- One member keeps the listing in order: what is new comes from the last member. -/
theorem IsListing.isInOrder_addSource {seen : List Text} {sources : Entries Text} {member : Text}
    (h : IsListing c target seen sources) (horder : IsInOrder seen sources)
    (plainSeen : ∀ m ∈ seen, CodePoint.char '-' ∉ m) (plain : CodePoint.char '-' ∉ member) :
    IsInOrder (seen ++ [member]) (c.addSource target sources member) := by
  have hseen : ∀ a ∈ sources.names, memberName a ∈ seen := by
    rintro a ha
    obtain ⟨⟨sub, doc⟩, hmem, rfl⟩ := List.mem_map.mp ha
    obtain ⟨⟨m, hm, hsub⟩, -⟩ := (h.mem_iff _ _).mp hmem
    exact eq_memberName_of_subCommandName? (plainSeen m hm) hsub ▸ hm
  have hkept : IsInOrder (seen ++ [member]) sources := by
    refine horder.imp_of_mem fun ha hb hab => ?_
    rwa [List.idxOf_append_of_mem (hseen _ ha), List.idxOf_append_of_mem (hseen _ hb)]
  unfold Catalog.addSource
  split
  · next sub doc hsub hreach =>
    split
    · exact hkept
    · next hnew =>
      have hmember := eq_memberName_of_subCommandName? plain hsub
      -- a member that was scanned before would be listed
      have hfresh : member ∉ seen := fun hm =>
        hnew (List.mem_map_of_mem ((h.mem_iff sub doc).mpr ⟨⟨member, hm, hsub⟩, hmember ▸ hreach⟩))
      rw [IsInOrder, Entries.names, List.map_append]
      refine List.pairwise_append.mpr ⟨hkept, List.pairwise_singleton _ _, fun a ha b hb => ?_⟩
      rw [List.mem_singleton.mp hb, ← hmember, List.idxOf_append_of_mem (hseen a ha),
        List.idxOf_append_of_notMem hfresh]
      exact Nat.lt_of_lt_of_le (List.idxOf_lt_length_of_mem (hseen a ha)) (Nat.le_add_right _ _)
  · exact hkept

/-- The whole scan lists the sub-commands in the order of their members. -/
theorem isInOrder_sourcesOf (plain : ∀ member ∈ target.memberNames, CodePoint.char '-' ∉ member) :
    IsInOrder target.memberNames (c.sourcesOf target) := by
  have hscan : ∀ (members seen : List Text) (sources : Entries Text),
      (∀ member ∈ seen ++ members, CodePoint.char '-' ∉ member) →
      IsListing c target seen sources → IsInOrder seen sources →
      IsInOrder (seen ++ members) (members.foldl (c.addSource target) sources) := by
    intro members
    induction members with
    | nil => intro seen sources _ _ horder; rwa [List.append_nil]
    | cons member members ih =>
      intro seen sources hplain h horder
      have hmember : CodePoint.char '-' ∉ member :=
        hplain member (List.mem_append_right _ (List.mem_cons_self ..))
      have hseen : ∀ m ∈ seen, CodePoint.char '-' ∉ m := fun m hm =>
        hplain m (List.mem_append_left _ hm)
      have hrest := ih (seen ++ [member]) _ (by rwa [List.append_assoc]) (h.addSource hmember)
        (h.isInOrder_addSource horder hseen hmember)
      rwa [List.append_assoc] at hrest
  exact hscan _ [] [] plain (isListing_nil c target) List.Pairwise.nil

/-- What the scan lists for a class are the members whose nearest definition can be called. -/
theorem mem_sourcesOf_type {k : Class} {beyond : Text → Target.Answer}
    (plain : ∀ member ∈ (Target.type k beyond).memberNames, CodePoint.char '-' ∉ member)
    {sub doc : Text} :
    (sub, doc) ∈ c.sourcesOf (.type k beyond) ↔
      ∃ rest definer m, rest ≠ [] ∧ sub = dashed rest ∧
        k.IsNearest (subCommandStart ++ rest) definer m ∧ m.kind ≠ .value ∧
        doc = (Target.reachIn c.classes k definer (subCommandStart ++ rest) m).doc := by
  rw [(isListing_sourcesOf plain).mem_iff]
  constructor
  · rintro ⟨⟨member, hmember, hsub⟩, hreach⟩
    obtain ⟨rest, rfl, hne, rfl⟩ := subCommandName?_eq_some_iff.mp hsub
    rw [memberName_dashed_of_plain (plain _ hmember)] at hreach
    obtain ⟨⟨definer, m⟩, hfind, he⟩ := Option.map_eq_some_iff.mp hreach
    have hcallable : decide (m.kind ≠ .value) = true := congrArg Target.Reached.callable he
    exact ⟨rest, definer, m, hne, rfl, Class.isNearest_iff.mpr hfind, of_decide_eq_true hcallable,
      (congrArg Target.Reached.doc he).symm⟩
  · rintro ⟨rest, definer, m, hne, rfl, hnearest, hkind, rfl⟩
    have hfind := Class.isNearest_iff.mp hnearest
    have hmember := Target.mem_memberNames_of_find? beyond hfind
    have hsub := subCommandName?_eq_some_iff.mpr ⟨rest, rfl, hne, rfl⟩
    refine ⟨⟨_, hmember, hsub⟩, ?_⟩
    rw [memberName_dashed_of_plain (plain _ hmember), Target.reach?, hfind]
    have hcallable : decide (m.kind ≠ .value) = true := decide_eq_true hkind
    rw [Option.map_some, ← hcallable]
    rfl

/-- **Sub-commands are inherited along the line of a class.**  Each member whose nearest
definition can be called is listed once, with what is said about that definition.  The listing
is in the order of the first classes that define the members, and of the members there. -/
theorem sources_type {name : Text} {k : Class} {beyond : Text → Target.Answer}
    (registered : c.get name = .ok (.type k beyond))
    (plain : ∀ member ∈ (Target.type k beyond).memberNames, CodePoint.char '-' ∉ member) :
    ∃ sources, c.sources name = .ok sources ∧ sources.names.Nodup ∧
      (∀ sub doc, (sub, doc) ∈ sources ↔
        ∃ rest definer m, rest ≠ [] ∧ sub = dashed rest ∧
          k.IsNearest (subCommandStart ++ rest) definer m ∧ m.kind ≠ .value ∧
          doc = (Target.reachIn c.classes k definer (subCommandStart ++ rest) m).doc) ∧
      (sources.names.Pairwise fun a b =>
        Class.IsInFront (k.place (memberName a)) (k.place (memberName b))) ∧
      -- a definition with a text of its own replaces the texts behind it
      (∀ rest definer m own, rest ≠ [] → k.IsNearest (subCommandStart ++ rest) definer m →
        m.kind ≠ .value → m.doc = some own →
        sources.get? (dashed rest) = some (Docstring.clean own)) ∧
      -- and one that cannot be called hides what stands behind it
      ∀ rest definer m, k.IsNearest (subCommandStart ++ rest) definer m → m.kind = .value →
        dashed rest ∉ sources.names := by
  have hnodup := (isListing_sourcesOf (c := c) plain).nodup
  refine ⟨_, sources_of_get registered, hnodup, fun sub doc => mem_sourcesOf_type plain,
    (isInOrder_sourcesOf plain).imp Class.isInFront_of_idxOf_lt, ?_, ?_⟩
  · intro rest definer m own hne hnearest hkind hown
    rw [Entries.get?_eq_some_iff hnodup, mem_sourcesOf_type plain]
    exact ⟨rest, definer, m, hne, rfl, hnearest, hkind, (Target.doc_reachIn_of_some hown).symm⟩
  · intro rest definer m hnearest hkind hlisted
    obtain ⟨⟨sub, doc⟩, hmem, hsub⟩ := List.mem_map.mp hlisted
    obtain ⟨rest', definer', m', -, rfl, hnearest', hkind', -⟩ := (mem_sourcesOf_type plain).mp hmem
    have hfind := Class.isNearest_iff.mp hnearest
    have hfind' := Class.isNearest_iff.mp hnearest'
    -- members without dashes in their names are told apart by their sub-commands
    have hrest : subCommandStart ++ rest' = subCommandStart ++ rest := by
      rw [← memberName_dashed_of_plain (plain _ (Target.mem_memberNames_of_find? beyond hfind)),
        ← memberName_dashed_of_plain (plain _ (Target.mem_memberNames_of_find? beyond hfind'))]
      exact congrArg memberName hsub
    rw [hrest, hfind] at hfind'
    cases hfind'
    exact hkind' hkind

theorem sources_type_release :
    ∃ k, releaseCatalog.get "release" = .ok (.type k) ∧
      (∀ member ∈ (Target.type k).memberNames, CodePoint.char '-' ∉ member) ∧
      ∃ sources, releaseCatalog.sources "release" = .ok sources ∧ sources.names.Nodup ∧
        (∀ sub doc, (sub, doc) ∈ sources ↔
          ∃ rest definer m, rest ≠ [] ∧ sub = dashed rest ∧
            k.IsNearest (subCommandStart ++ rest) definer m ∧ m.kind ≠ .value ∧
            doc = (Target.reachIn releaseCatalog.classes k definer
              (subCommandStart ++ rest) m).doc) ∧
        (sources.names.Pairwise fun a b =>
          Class.IsInFront (k.place (memberName a)) (k.place (memberName b))) ∧
        (∀ rest definer m own, rest ≠ [] → k.IsNearest (subCommandStart ++ rest) definer m →
          m.kind ≠ .value → m.doc = some own →
          sources.get? (dashed rest) = some (Docstring.clean own)) ∧
        ∀ rest definer m, k.IsNearest (subCommandStart ++ rest) definer m → m.kind = .value →
          dashed rest ∉ sources.names :=
  ⟨_, rfl, by decide, sources_type rfl (by decide)⟩

-- the class overrides a sub-command that its ancestor has, and hides another one
example : releaseCatalog.sources "release" =
    .ok [("list-all", "Lists the releases."), ("start", "Starts the pipeline.")] := by rfl

end Catalog
end HelpPages
