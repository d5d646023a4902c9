import HelpPages.Proofs.Files.Locations
import HelpPages.Settings

/-! # The nearest settings file

The settings file of a project is looked for in a directory, in the one above it, and so on: a
climb with three ends (`climb`).  It ends with the first file, at the root, or after twenty
directories, so what is found is the file of the nearest of these directories that has one
(`Place.projectFile?_nearest`).  Paths only get shorter on the way up, and what is on the way to a
directory is on the way to those in it: if the system refuses any of the paths, it refuses the
first one, and the search fails at once.
-/
namespace HelpPages
namespace Settings

open FileTree (IsName)

variable {tree : FileTree} {dir : Location}

/-- The directory some levels above another one.  There is nothing above the root. -/
def ancestor : Location → Nat → Location
  | dir, 0 => dir
  | dir, n + 1 => ancestor dir.dropLast n

/-- Where the settings file is in the directory some levels up. -/
def entry (dir : Location) (n : Nat) : Location := ancestor dir n ++ [fileName]

/-- What is found in a directory and those above it, `n` directories in all: the file of the
nearest one that has a file, or nothing if none of them has one. -/
inductive IsNearestFile (tree : FileTree) (n : Nat) (dir : Location) : Option Location → Prop
  | found {k : Nat} (near : k < n) (inside : k ≤ dir.length) (file : tree.HasFile (entry dir k))
      (nearer : ∀ j < k, ¬ tree.HasFile (entry dir j)) :
      IsNearestFile tree n dir (some (entry dir k))
  | none (nowhere : ∀ k < n, k ≤ dir.length → ¬ tree.HasFile (entry dir k)) :
      IsNearestFile tree n dir none

/-- Only one thing is found. -/
theorem IsNearestFile.eq {n : Nat} {found other : Option Location}
    (h : IsNearestFile tree n dir found) (h' : IsNearestFile tree n dir other) : found = other := by
  cases h with
  | none nowhere =>
    cases h' with
    | none _ => rfl
    | found near inside file nearer => exact absurd file (nowhere _ near inside)
  | @found k near inside file nearer =>
    cases h' with
    | none nowhere => exact absurd file (nowhere k near inside)
    | @found j near' inside' file' nearer' =>
      rcases Nat.lt_trichotomy j k with hlt | rfl | hlt
      · exact absurd file' (nearer j hlt)
      · rfl
      · exact absurd file (nearer' k hlt)

/-! ### The climb -/

/-- The search in at most `n` directories, each time in the one above. -/
def climb (tree : FileTree) : Nat → Location → Except FileTree.Error (Option Location)
  | 0, _ => .ok none
  | n + 1, dir => do
    if ← tree.isFile (dir ++ [fileName]) then return some (dir ++ [fileName])
    else if dir = [] then return none
    else climb tree n dir.dropLast

/-- A directory and all those above it, from the nearest one to the root. -/
def ancestors (dir : Location) : List Location :=
  (List.range (dir.length + 1)).map fun n => dir.take (dir.length - n)

theorem length_dropLast_succ (h : dir ≠ []) : dir.dropLast.length + 1 = dir.length := by
  have hpos := List.length_pos_iff.mpr h
  rw [List.length_dropLast]
  omega

theorem ancestors_eq (dir : Location) :
    ancestors dir = dir :: if dir = [] then [] else ancestors dir.dropLast := by
  have hrest : (List.range dir.length).map (fun n => dir.take (dir.length - (n + 1))) =
      if dir = [] then [] else ancestors dir.dropLast := by
    split
    · next hroot =>
      rw [hroot]
      rfl
    · next hdir =>
      rw [ancestors, length_dropLast_succ hdir]
      refine List.map_congr_left fun n _ => ?_
      have hlevel : min (dir.length - 1 - n) (dir.length - 1) = dir.length - (n + 1) := by omega
      rw [List.length_dropLast, List.dropLast_eq_take, List.take_take, hlevel]
  rw [← hrest, ancestors, List.range_succ_eq_map, List.map_cons, List.map_map, Nat.sub_zero,
    List.take_length]
  rfl

/-- The search in a directory and those above it is the climb. -/
theorem firstFile?_ancestors (tree : FileTree) (n : Nat) (dir : Location) :
    tree.firstFile? (((ancestors dir).take n).map (· ++ [fileName])) = climb tree n dir := by
  induction n generalizing dir with
  | zero => rfl
  | succ n ih =>
    rw [ancestors_eq, List.take_succ_cons, List.map_cons, FileTree.firstFile?, climb]
    refine congrArg _ (funext fun isFile => ?_)
    cases isFile with
    | true => rfl
    | false =>
      by_cases hroot : dir = []
      · rw [if_pos hroot, if_pos hroot, List.take_nil]
        rfl
      · rw [if_neg hroot, if_neg hroot]
        exact ih dir.dropLast

theorem Place.projectFile?_eq_climb {p : Place} {start : Text}
    (formed : ∀ name ∈ Path.names start, FileTree.checkForm name = .ok ()) :
    p.projectFile? start = (climb p.files 20 (Path.resolve p.here start)).mapError .file := by
  obtain ⟨units, hunits⟩ := exists_mapM fun name hname => ⟨(), formed name hname⟩
  rw [projectFile?, hunits, ← firstFile?_ancestors]
  rfl

/-! ### What the climb finds -/

theorem isName_fileName : IsName fileName where
  nonempty := by decide
  inner := by decide
  notHere := by decide
  notParent := by decide
  formed := by rfl

theorem forall_isName_entry (h : ∀ name ∈ dir, IsName name) :
    ∀ name ∈ dir ++ [fileName], IsName name :=
  List.forall_mem_append.mpr ⟨h, List.forall_mem_singleton.mpr isName_fileName⟩

theorem concat_ne_nil (dir : Location) : dir ++ [fileName] ≠ [] :=
  List.append_ne_nil_of_right_ne_nil _ (List.cons_ne_nil _ _)

theorem climb_of_refuses (n : Nat) (h : ∀ name ∈ dir, IsName name) {e : FileTree.Error}
    (refused : tree.Refuses (dir ++ [fileName]) e) : climb tree (n + 1) dir = .error e := by
  rw [climb, FileTree.isFile_of_refuses (concat_ne_nil dir) (forall_isName_entry h) refused]
  rfl

/-- The climb finds the nearest file, or nothing if there is none, unless the first path is
refused. -/
theorem exists_climb (n : Nat) (h : ∀ name ∈ dir, IsName name)
    (answered : ∀ e, ¬ tree.Refuses (dir ++ [fileName]) e) :
    ∃ found, climb tree n dir = .ok found ∧ IsNearestFile tree n dir found := by
  induction n generalizing dir with
  | zero => exact ⟨none, rfl, .none fun k hk => absurd hk (Nat.not_lt_zero k)⟩
  | succ n ih =>
    have hnames := forall_isName_entry h
    by_cases hfile : tree.HasFile (dir ++ [fileName])
    · refine ⟨some (entry dir 0), ?_, .found (Nat.succ_pos n) (Nat.zero_le _) hfile ?_⟩
      · rw [climb, FileTree.isFile_of_hasFile (concat_ne_nil dir) hnames answered hfile]
        rfl
      · exact fun j hj => absurd hj (Nat.not_lt_zero j)
    · have habsent := FileTree.isFile_of_not_hasFile (concat_ne_nil dir) hnames answered hfile
      by_cases hroot : dir = []
      · refine ⟨none, ?_, .none fun k _ hk => ?_⟩
        · rw [climb, habsent, hroot]
          rfl
        · rw [hroot, List.length_nil, Nat.le_zero] at hk
          rw [hk]
          exact hfile
      · -- what holds of the directory above holds of this one, one level further up
        have hup (e : FileTree.Error) : ¬ tree.Refuses (dir.dropLast ++ [fileName]) e := by
          intro refused
          obtain ⟨e, he⟩ := refused.of_outer (List.dropLast_prefix dir) (by decide)
          exact answered e he
        obtain ⟨found, hclimb, hnearest⟩ := ih (fun name hname =>
          h name ((List.dropLast_prefix dir).subset hname)) hup
        have hlength := length_dropLast_succ hroot
        refine ⟨found, ?_, ?_⟩
        · rw [climb, habsent]
          show (if dir = [] then _ else climb tree n dir.dropLast) = _
          rw [if_neg hroot, hclimb]
        · cases hnearest with
          | @found k near inside file nearer =>
            refine IsNearestFile.found (k := k + 1) (Nat.succ_lt_succ near) (by omega) file ?_
            intro j hj
            cases j with
            | zero => exact hfile
            | succ j => exact nearer j (Nat.lt_of_succ_lt_succ hj)
          | none nowhere =>
            refine .none fun k hk hinside => ?_
            cases k with
            | zero => exact hfile
            | succ k => exact nowhere k (Nat.lt_of_succ_lt_succ hk) (by omega)

/-! ### Where the climb starts -/

/-- The names in a path are proper ones, or lead up. -/
theorem isName_of_mem_names {start name : Text} (h : name ∈ Path.names start)
    (formed : FileTree.checkForm name = .ok ()) : name = ".." ∨ IsName name := by
  obtain ⟨hpiece, hproper⟩ := List.mem_filter.mp h
  obtain ⟨hne, hhere⟩ := of_decide_eq_true hproper
  by_cases hparent : name = ".."
  · exact .inl hparent
  · exact .inr ⟨hne, Text.notMem_of_mem_splitOn hpiece, hhere, hparent, formed⟩

theorem forall_isName_foldl_follow {names : List Text} (hdir : ∀ name ∈ dir, IsName name)
    (h : ∀ name ∈ names, name = ".." ∨ IsName name) :
    ∀ name ∈ names.foldl Path.follow dir, IsName name := by
  induction names generalizing dir with
  | nil => exact hdir
  | cons name names ih =>
    obtain ⟨hname, hnames⟩ := List.forall_mem_cons.mp h
    refine ih ?_ hnames
    rw [Path.follow]
    split
    · exact fun other hother => hdir other ((List.dropLast_prefix dir).subset hother)
    · next hparent =>
      have hproper := hname.resolve_left hparent
      exact List.forall_mem_append.mpr ⟨hdir, List.forall_mem_singleton.mpr hproper⟩

/-- A path leads from a location with proper names to another one. -/
theorem forall_isName_resolve {here : Location} {start : Text} (hhere : ∀ name ∈ here, IsName name)
    (formed : ∀ name ∈ Path.names start, FileTree.checkForm name = .ok ()) :
    ∀ name ∈ Path.resolve here start, IsName name := by
  refine forall_isName_foldl_follow ?_ fun name hname =>
    isName_of_mem_names hname (formed name hname)
  split
  · exact fun name hname => absurd hname List.not_mem_nil
  · exact hhere

/-- **The settings file of a project is that of the nearest directory that has one.**  The search
starts where a path leads.  If the system refuses the path of the settings file there, because it
or a name in it is too long or a directory on its way is closed, the search fails with the error
of the system.  Otherwise it comes to an end: with the settings file of the nearest directory that
has one, among the first one and the nineteen above it as far as the root, or with nothing exactly
if none of them has one. -/
theorem Place.projectFile?_nearest {p : Place} {start : Text} (hhere : ∀ name ∈ p.here, IsName name)
    (formed : ∀ name ∈ Path.names start, FileTree.checkForm name = .ok ()) :
    let dir := Path.resolve p.here start
    (∀ e, p.files.Refuses (entry dir 0) e → p.projectFile? start = .error (.file e)) ∧
    ((∀ e, ¬ p.files.Refuses (entry dir 0) e) →
      (∃ found, p.projectFile? start = .ok found) ∧
        ∀ found, p.projectFile? start = .ok found ↔ IsNearestFile p.files 20 dir found) := by
  intro dir
  have hdir : ∀ name ∈ dir, IsName name := forall_isName_resolve hhere formed
  rw [projectFile?_eq_climb formed]
  constructor
  · intro e refused
    rw [climb_of_refuses 19 hdir refused]
    rfl
  · intro answered
    obtain ⟨found, hclimb, hnearest⟩ := exists_climb 20 hdir answered
    rw [hclimb]
    refine ⟨⟨found, rfl⟩, fun other => ⟨fun h => ?_, fun h => ?_⟩⟩
    · cases h
      exact hnearest
    · rw [hnearest.eq h]
      rfl

/-- A project with a settings file two levels above the start, and a directory of that name
between them. -/
def nestedProject : Place where
  files.nodes := [(["work", fileName], .file []), (["work", "a", fileName], .directory),
    (["work", "a", "b"], .directory)]
  here := ["work"]

theorem Place.projectFile?_nearest_nested :
    (∀ name ∈ nestedProject.here, IsName name) ∧
    (∀ name ∈ Path.names "a/b", FileTree.checkForm name = .ok ()) ∧
    let dir := Path.resolve nestedProject.here "a/b"
    (∀ e, ¬ nestedProject.files.Refuses (entry dir 0) e) ∧
      (∃ found, nestedProject.projectFile? "a/b" = .ok found) ∧
        ∀ found, nestedProject.projectFile? "a/b" = .ok found ↔
          IsNearestFile nestedProject.files 20 dir found := by
  have hhere : ∀ name ∈ nestedProject.here, IsName name := by decide
  have hformed : ∀ name ∈ Path.names "a/b", FileTree.checkForm name = .ok () := by decide
  have hanswered (e : FileTree.Error) :
      ¬ nestedProject.files.Refuses (entry (Path.resolve nestedProject.here "a/b") 0) e :=
    FileTree.not_refuses rfl (by decide) (by decide) e
  exact ⟨hhere, hformed, hanswered, (Place.projectFile?_nearest hhere hformed).2 hanswered⟩

example : nestedProject.projectFile? "a/b" = .ok (some ["work", fileName]) := by rfl

/-- A closed directory on the way ends the search, even if there is a file above it. -/
example : ({ nestedProject with files := { nestedProject.files with closed := [["work", "a"]] } }
    : Place).projectFile? "a/b" = .error (.file (.denied "/work/a/b/.dochelp.json")) := by rfl

end Settings
end HelpPages
