import HelpPages.Proofs.Text.Trim

/-! # Patterns

A pattern says how a text may start, with runs that are as long as possible, parts that may
be left out and parts that are looked at without being taken.  A search tries the ways in
which a pattern matches one after the other and goes back to the last choice when it cannot
go on, so what it comes to is the first item in the list of all ways in the order of trying
(`Pattern.finds`).  What a part does decides how far a search has to go back behind it:
not at all if every other way through the part leaves a text at which the rest of the
pattern fails (`groups?_seq_of_forced`), and not on success (`groups?_seq_of_first`).
-/
namespace HelpPages

/-- A pattern whose groups have names of a type. -/
inductive Pattern (κ : Type) where
  /-- The text itself. -/
  | literal (t : Text)
  /-- One code point of a kind. -/
  | one (kind : CodePoint → Bool)
  /-- One or more code points of a kind, as many as possible. -/
  | run (kind : CodePoint → Bool)
  | seq (a b : Pattern κ)
  /-- The pattern or nothing, and rather the pattern. -/
  | optional (a : Pattern κ)
  /-- One of two patterns, and rather the first one. -/
  | either (a b : Pattern κ)
  /-- The pattern, where the text that it takes is kept under a name. -/
  | group (name : κ) (a : Pattern κ)
  /-- Nothing, where the pattern follows. -/
  | ahead (a : Pattern κ)
  /-- Nothing, where the pattern does not follow. -/
  | notAhead (a : Pattern κ)
  /-- Nothing, at the end of the text or before the line feed that ends it. -/
  | ending

namespace Pattern

variable {κ : Type}

/-- A way in which a pattern matches: what it takes from the start of a text, the groups
within it, and the text behind it. -/
structure Match (κ : Type) where
  taken : Text
  groups : List (κ × Text)
  rest : Text

/-- A match and another one behind it. -/
def Match.append (m n : Match κ) : Match κ := ⟨m.taken ++ n.taken, m.groups ++ n.groups, n.rest⟩

/-- The runs of a kind at the start of a text, the longest one first. -/
def runs (kind : CodePoint → Bool) : Text → List (Match κ)
  | [] => []
  | c :: rest =>
    if kind c then
      (runs kind rest).map (fun m => { m with taken := c :: m.taken }) ++ [⟨[c], [], rest⟩]
    else []

/-- All ways in which a pattern matches at the start of a text, in the order in which they
are tried. -/
@[simp] def finds : Pattern κ → Text → List (Match κ)
  | literal t, s => if t.isPrefixOf s then [⟨t, [], s.drop t.length⟩] else []
  | one kind, s =>
    match s with
    | [] => []
    | c :: rest => if kind c then [⟨[c], [], rest⟩] else []
  | run kind, s => runs kind s
  | seq a b, s => (a.finds s).flatMap fun m => (b.finds m.rest).map m.append
  | optional a, s => a.finds s ++ [⟨[], [], s⟩]
  | either a b, s => a.finds s ++ b.finds s
  | group name a, s => (a.finds s).map fun m => { m with groups := m.groups ++ [(name, m.taken)] }
  | ahead a, s => ((a.finds s).take 1).map fun m => ⟨[], m.groups, s⟩
  | notAhead a, s => if (a.finds s).isEmpty then [⟨[], [], s⟩] else []
  | ending, s => if s = [] ∨ s = [.char '\n'] then [⟨[], [], s⟩] else []

/-- The groups of the first way in which a pattern matches. -/
def groups? (a : Pattern κ) (s : Text) : Option (List (κ × Text)) :=
  (a.finds s).head?.map Match.groups

/-- Patterns one behind the other. -/
def inOrder : List (Pattern κ) → Pattern κ
  | [] => literal []
  | [a] => a
  | a :: b :: rest => seq a (inOrder (b :: rest))

variable {a b q : Pattern κ} {s : Text} {m : Match κ} {others : List (Match κ)}
  {found : List (κ × Text)}

theorem groups?_eq_none_iff : a.groups? s = none ↔ a.finds s = [] := by
  rw [groups?, Option.map_eq_none_iff, List.head?_eq_none_iff]

/-! ### Parts and what stands behind them -/

theorem finds_seq_assoc (a b q : Pattern κ) (s : Text) :
    ((a.seq b).seq q).finds s = (a.seq (b.seq q)).finds s := by
  have happend : ∀ m n : Match κ, Match.append (m.append n) = m.append ∘ n.append :=
    fun m n => funext fun o => by simp [Match.append, List.append_assoc]
  simp only [finds, List.flatMap_assoc, List.flatMap_map, List.map_flatMap, List.map_map, happend]
  rfl

theorem groups?_seq_assoc (a b q : Pattern κ) (s : Text) :
    ((a.seq b).seq q).groups? s = (a.seq (b.seq q)).groups? s := by
  rw [groups?, groups?, finds_seq_assoc]

theorem groups?_seq_of_nil (h : a.finds s = []) : (a.seq q).groups? s = none := by
  rw [groups?_eq_none_iff, finds, h, List.flatMap_nil]

/-- The first way through a part is taken if the rest of the pattern matches behind it. -/
theorem groups?_seq_of_first (h : a.finds s = m :: others) (hq : q.groups? m.rest = some found) :
    (a.seq q).groups? s = some (m.groups ++ found) := by
  obtain ⟨n, hn, rfl⟩ := Option.map_eq_some_iff.mp hq
  obtain ⟨ns, hns⟩ := List.head?_eq_some_iff.mp hn
  rw [groups?, finds, h, List.flatMap_cons, hns]
  rfl

/-- There is no going back into a part if the rest of the pattern matches behind no other way
through it. -/
theorem groups?_seq_of_forced (h : a.finds s = m :: others)
    (fails : ∀ o ∈ others, q.groups? o.rest = none) :
    (a.seq q).groups? s = (q.groups? m.rest).map (m.groups ++ ·) := by
  have hothers : (others.flatMap fun o => (q.finds o.rest).map o.append) = [] := by
    refine List.flatMap_eq_nil_iff.mpr fun o ho => ?_
    rw [groups?_eq_none_iff.mp (fails o ho), List.map_nil]
  rw [groups?, finds, h, List.flatMap_cons, hothers, List.append_nil, List.head?_map, groups?,
    Option.map_map, Option.map_map]
  rfl

/-- There is no going back into a part that can be taken in one way only. -/
theorem groups?_seq_of_only (h : a.finds s = [m]) :
    (a.seq q).groups? s = (q.groups? m.rest).map (m.groups ++ ·) :=
  groups?_seq_of_forced h fun _ ho => absurd ho List.not_mem_nil

/-- A part that may be left out is left out where the pattern does not match with it. -/
theorem groups?_optional_seq (a q : Pattern κ) (s : Text) :
    (a.optional.seq q).groups? s = ((a.seq q).groups? s).or (q.groups? s) := by
  have hnothing : (q.finds s).map (Match.append ⟨[], [], s⟩) = q.finds s :=
    List.map_id'' (fun n => rfl) _
  rw [groups?, finds, finds, List.flatMap_append, List.head?_append, Option.map_or,
    List.flatMap_singleton, hnothing]
  rfl

/-! ### Literals and single code points -/

theorem finds_literal_append (t rest : Text) :
    (literal t : Pattern κ).finds (t ++ rest) = [⟨t, [], rest⟩] := by
  have hprefix : t.isPrefixOf (t ++ rest) = true :=
    List.isPrefixOf_iff_prefix.mpr (List.prefix_append ..)
  rw [finds, if_pos hprefix, List.drop_left]

theorem finds_literal_of_not_isPrefix {t : Text} (h : ¬ t <+: s) :
    (literal t : Pattern κ).finds s = [] := by
  rw [finds, if_neg (mt List.isPrefixOf_iff_prefix.mp h)]

/-- A literal is taken, and the search goes on behind it. -/
theorem groups?_literal_append (t rest : Text) (q : Pattern κ) :
    ((literal t).seq q).groups? (t ++ rest) = q.groups? rest := by
  rw [groups?_seq_of_only (finds_literal_append t rest)]
  exact Option.map_id'

theorem groups?_literal_cons_self (c : CodePoint) (rest : Text) (q : Pattern κ) :
    ((literal [c]).seq q).groups? (c :: rest) = q.groups? rest :=
  groups?_literal_append [c] rest q

theorem groups?_literal_of_not_prefix {t : Text} (h : ¬ t <+: s) (q : Pattern κ) :
    ((literal t).seq q).groups? s = none :=
  groups?_seq_of_nil (finds_literal_of_not_isPrefix h)

variable {kind : CodePoint → Bool} {name : κ}

/-- A group of one code point. -/
theorem groups?_group_one_cons (c : CodePoint) (rest : Text) (q : Pattern κ) :
    ((group name (one kind)).seq q).groups? (c :: rest) =
      if kind c then (q.groups? rest).map ((name, [c]) :: ·) else none := by
  by_cases hc : kind c = true
  · have hone : (group name (one kind) : Pattern κ).finds (c :: rest) =
        [⟨[c], [(name, [c])], rest⟩] := by simp [finds, hc]
    rw [if_pos hc, groups?_seq_of_only hone]
    rfl
  · rw [if_neg hc]
    exact groups?_seq_of_nil (by simp [finds, hc])

/-! ### Runs -/

/-- The pattern fails at texts that start with a code point of a kind. -/
def FailsAt (q : Pattern κ) (kind : CodePoint → Bool) : Prop :=
  ∀ c rest, kind c = true → q.groups? (c :: rest) = none

/-- A part comes to a match first, and leaves a code point of a kind in every other way. -/
def IsGreedy (a : Pattern κ) (kind : CodePoint → Bool) (s : Text) (m : Match κ) : Prop :=
  ∃ shorter, a.finds s = m :: shorter ∧ ∀ o ∈ shorter, ∃ c ∈ o.rest.head?, kind c = true

theorem isGreedy_run {c : CodePoint} (hc : kind c = true) (rest : Text) :
    (run kind : Pattern κ).IsGreedy kind (c :: rest)
      ⟨(c :: rest).takeWhile kind, [], (c :: rest).dropWhile kind⟩ := by
  induction rest generalizing c with
  | nil => exact ⟨[], by simp [finds, runs, hc], nofun⟩
  | cons d rest ih =>
    by_cases hd : kind d = true
    · obtain ⟨shorter, hruns, hshorter⟩ := ih hd
      refine ⟨shorter.map (fun m => { m with taken := c :: m.taken }) ++ [⟨[c], [], d :: rest⟩],
        ?_, fun o ho => ?_⟩
      · rw [finds] at hruns ⊢
        rw [runs, if_pos hc, hruns, List.takeWhile_cons_of_pos hc, List.dropWhile_cons_of_pos hc]
        rfl
      · rcases List.mem_append.mp ho with ho | ho
        · obtain ⟨o', ho', rfl⟩ := List.mem_map.mp ho
          exact hshorter o' ho'
        · rw [List.mem_singleton.mp ho]
          exact ⟨d, rfl, hd⟩
    · exact ⟨[], by simp [finds, runs, hc, hd], nofun⟩

theorem IsGreedy.group (name : κ) (h : a.IsGreedy kind s m) :
    (group name a).IsGreedy kind s { m with groups := m.groups ++ [(name, m.taken)] } := by
  obtain ⟨shorter, hfinds, hshorter⟩ := h
  refine ⟨_, by rw [finds, hfinds]; rfl, fun o ho => ?_⟩
  obtain ⟨o', ho', rfl⟩ := List.mem_map.mp ho
  exact hshorter o' ho'

/-- A part that could be left out still takes what it can first. -/
theorem IsGreedy.optional {c : CodePoint} (hc : kind c = true) {rest : Text}
    (h : a.IsGreedy kind (c :: rest) m) : a.optional.IsGreedy kind (c :: rest) m := by
  obtain ⟨shorter, hfinds, hshorter⟩ := h
  refine ⟨shorter ++ [⟨[], [], c :: rest⟩], by rw [finds, hfinds]; rfl, fun o ho => ?_⟩
  rcases List.mem_append.mp ho with ho | ho
  · exact hshorter o ho
  · rw [List.mem_singleton.mp ho]
    exact ⟨c, rfl, hc⟩

/-- What a greedy part takes first is final if the rest of the pattern fails at what any other
way leaves. -/
theorem IsGreedy.groups?_seq (h : a.IsGreedy kind s m) (fails : q.FailsAt kind) :
    (a.seq q).groups? s = (q.groups? m.rest).map (m.groups ++ ·) := by
  obtain ⟨shorter, hfinds, hshorter⟩ := h
  refine groups?_seq_of_forced hfinds fun o ho => ?_
  obtain ⟨c, hc, hkind⟩ := hshorter o ho
  obtain ⟨rest, hrest⟩ := List.head?_eq_some_iff.mp hc
  rw [hrest, fails c rest hkind]

/-- What a greedy part takes first is final if the rest of the pattern matches behind it. -/
theorem IsGreedy.groups?_seq_of_some (h : a.IsGreedy kind s m)
    (hq : q.groups? m.rest = some found) : (a.seq q).groups? s = some (m.groups ++ found) := by
  obtain ⟨shorter, hfinds, -⟩ := h
  exact groups?_seq_of_first hfinds hq

theorem finds_run_of_not (h : ∀ c ∈ s.head?, kind c = false) :
    (run kind : Pattern κ).finds s = [] := by
  cases s with
  | nil => rfl
  | cons c rest => rw [finds, runs, if_neg (by simp [h c rfl])]

/-- A run is taken whole if the rest of the pattern fails within it. -/
theorem groups?_run_seq {c : CodePoint} (hc : kind c = true) (fails : q.FailsAt kind)
    (rest : Text) :
    ((run kind).seq q).groups? (c :: rest) = q.groups? ((c :: rest).dropWhile kind) := by
  rw [(isGreedy_run hc rest).groups?_seq fails]
  exact Option.map_id'

/-- A run is kept whole if the rest of the pattern fails within it. -/
theorem groups?_group_run_seq {c : CodePoint} (hc : kind c = true) (fails : q.FailsAt kind)
    (rest : Text) :
    ((group name (run kind)).seq q).groups? (c :: rest) =
      (q.groups? ((c :: rest).dropWhile kind)).map
        ((name, (c :: rest).takeWhile kind) :: ·) := by
  rw [((isGreedy_run hc rest).group name).groups?_seq fails]
  rfl

theorem groups?_group_run_seq_of_not {c : CodePoint} (hc : kind c = false) (rest : Text)
    (q : Pattern κ) : ((group name (run kind)).seq q).groups? (c :: rest) = none := by
  have hrun : (run kind : Pattern κ).finds (c :: rest) = [] :=
    finds_run_of_not fun _ hd => Option.mem_some.mp hd ▸ hc
  exact groups?_seq_of_nil (by rw [finds, hrun, List.map_nil])

/-! ### Where patterns fail -/

theorem failsAt_of_finds (h : ∀ c rest, kind c = true → a.finds (c :: rest) = []) (q : Pattern κ) :
    (a.seq q).FailsAt kind := fun c rest hc => groups?_seq_of_nil (h c rest hc)

theorem FailsAt.of_imp {other : CodePoint → Bool} (h : q.FailsAt kind)
    (himp : ∀ c, other c = true → kind c = true) : q.FailsAt other :=
  fun c rest hc => h c rest (himp c hc)

theorem failsAt_run {other : CodePoint → Bool} (h : ∀ c, other c = true → kind c = false)
    (q : Pattern κ) : ((run kind).seq q).FailsAt other :=
  failsAt_of_finds (fun c _ hc => finds_run_of_not fun _ hd => Option.mem_some.mp hd ▸ h c hc) q

theorem failsAt_group_run {other : CodePoint → Bool} (h : ∀ c, other c = true → kind c = false)
    (q : Pattern κ) : ((group name (run kind)).seq q).FailsAt other :=
  fun c rest hc => groups?_group_run_seq_of_not (h c hc) rest q

theorem failsAt_group_one {other : CodePoint → Bool} (h : ∀ c, other c = true → kind c = false)
    (q : Pattern κ) : ((group name (one kind)).seq q).FailsAt other :=
  failsAt_of_finds (fun c _ hc => by simp [finds, h c hc]) q

theorem failsAt_literal {d : CodePoint} {t : Text} (h : kind d = false) (q : Pattern κ) :
    ((literal (d :: t)).seq q).FailsAt kind := by
  intro c rest hc
  refine groups?_literal_of_not_prefix ?_ q
  rintro ⟨u, hu⟩
  rw [(List.cons.inj hu).1, hc] at h
  cases h

theorem failsAt_notAhead (h : q.FailsAt kind) (a : Pattern κ) :
    ((notAhead a).seq q).FailsAt kind := by
  intro c rest hc
  by_cases ha : (a.finds (c :: rest)).isEmpty = true
  · have hfinds : (notAhead a).finds (c :: rest) = [⟨[], [], c :: rest⟩] := by rw [finds, if_pos ha]
    rw [groups?_seq_of_only hfinds, h c rest hc]
    rfl
  · exact groups?_seq_of_nil (by rw [finds, if_neg ha])

theorem failsAt_optional (ha : (a.seq q).FailsAt kind) (hq : q.FailsAt kind) :
    (a.optional.seq q).FailsAt kind := fun c rest hc => by
  rw [groups?_optional_seq, ha c rest hc, hq c rest hc]
  rfl

theorem failsAt_seq_assoc (h : (a.seq (b.seq q)).FailsAt kind) :
    ((a.seq b).seq q).FailsAt kind := fun c rest hc => by
  rw [groups?_seq_assoc, h c rest hc]

end Pattern
end HelpPages
