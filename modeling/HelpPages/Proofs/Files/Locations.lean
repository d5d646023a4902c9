import HelpPages.Files
import HelpPages.Proofs.Outcome
import HelpPages.Proofs.Text.Pieces
import Mathlib.Algebra.Ring.Nat
import Mathlib.Data.List.Induction

/-! # Files at locations

The file system is asked by path.  The path of a location whose names are proper ones leads back
to it, name by name (`walk_eq_ok_iff`), so there is a file at a location exactly if there is a
directory everywhere on the way and a file at its end.  The system refuses to say so for a path
that is too long, and at a directory on the way that is closed or does not take a name for its
length (`isFile_of_refuses`).
-/
namespace HelpPages
namespace FileTree

variable {tree : FileTree} {l dir : Location} {name path s t : Text}

/-- A name that something in a directory may have. -/
structure IsName (name : Text) : Prop where
  nonempty : name ≠ []
  inner : CodePoint.char '/' ∉ name
  notHere : name ≠ "."
  notParent : name ≠ ".."
  formed : checkForm name = .ok ()

instance (name : Text) : Decidable (IsName name) :=
  decidable_of_iff (name ≠ [] ∧ CodePoint.char '/' ∉ name ∧ name ≠ "." ∧ name ≠ ".." ∧
      checkForm name = .ok ())
    ⟨fun h => ⟨h.1, h.2.1, h.2.2.1, h.2.2.2.1, h.2.2.2.2⟩, fun h => ⟨h.1, h.2, h.3, h.4, h.5⟩⟩

/-- How many bytes a name takes. -/
def nameSize (name : Text) : Nat := (size? name).getD 0

/-- How many bytes the names on the way to a location take, each with the slash before it. -/
def pathSize (l : Location) : Nat := (l.map fun name => nameSize name + 1).sum

/-- There is a file at the location, and a directory everywhere on the way to it. -/
structure HasFile (tree : FileTree) (l : Location) : Prop where
  way : ∀ dir name, dir ++ [name] <+: l → tree.node? dir = some .directory
  file : ∃ bytes, tree.node? l = some (.file bytes)

/-- The program goes on with a name from a location. -/
structure Passes (tree : FileTree) (dir : Location) (name : Text) : Prop where
  directory : tree.node? dir = some .directory
  opened : tree.isClosed dir = false
  short : nameSize name ≤ maxNameSize

/-- Why a directory on the way of a path does not let the program go on with a name. -/
inductive Stops (tree : FileTree) (path : Text) (dir : Location) (name : Text) : Error → Prop
  | closed (closed : tree.isClosed dir = true) : Stops tree path dir name (.denied path)
  | long (opened : tree.isClosed dir = false) (long : maxNameSize < nameSize name) :
      Stops tree path dir name (.tooLong path)

/-- The system refuses to say whether there is a file at a location: the path is too long, or the
first directory on the way that does not let the program go on is closed or finds the name too
long. -/
inductive Refuses (tree : FileTree) (l : Location) : Error → Prop
  | path (long : maxPathSize < pathSize l) : Refuses tree l (.tooLong l.text)
  | way {dir : Location} {name : Text} {e : Error} (short : pathSize l ≤ maxPathSize)
      (way : dir ++ [name] <+: l)
      (passed : ∀ outer other, outer ++ [other] <+: dir → tree.Passes outer other)
      (directory : tree.node? dir = some .directory) (stops : tree.Stops l.text dir name e) :
      Refuses tree l e

theorem pathSize_cons (name : Text) (l : Location) :
    pathSize (name :: l) = nameSize name + 1 + pathSize l := rfl

/-! ### Paths of locations -/

theorem size?_append {m n : Nat} (hs : size? s = some m) (ht : size? t = some n) :
    size? (s ++ t) = some (m + n) := by
  simp only [size?, bytes?, Option.map_eq_some_iff, Option.bind_eq_bind, Option.pure_def,
    Option.bind_eq_some_iff, Option.some.injEq] at hs ht ⊢
  obtain ⟨_, ⟨as, has, rfl⟩, rfl⟩ := hs
  obtain ⟨_, ⟨bs, hbs, rfl⟩, rfl⟩ := ht
  refine ⟨_, ⟨as ++ bs, ?_, rfl⟩, ?_⟩
  · rw [List.mapM_append, has, hbs]
    rfl
  · rw [List.flatten_append, List.length_append]

theorem checkForm_eq_ok_iff :
    checkForm t = .ok () ↔ (∃ n, size? t = some n) ∧ CodePoint.char '\x00' ∉ t := by
  rw [checkForm]
  cases size? t with
  | none => simp
  | some n => simp

theorem IsName.size?_eq (h : IsName name) : size? name = some (nameSize name) := by
  obtain ⟨⟨n, hn⟩, -⟩ := checkForm_eq_ok_iff.mp h.formed
  rw [nameSize, hn]
  rfl

theorem text_eq (hne : l ≠ []) : l.text = l.flatMap ([.char '/'] ++ ·) :=
  (Text.flatMap_sep [.char '/'] hne).symm

/-- The path of a location can be asked for, and takes as many bytes as its names. -/
theorem size?_text (hne : l ≠ []) (h : ∀ name ∈ l, IsName name) :
    size? l.text = some (pathSize l) := by
  rw [text_eq hne]
  clear hne
  induction l with
  | nil => rfl
  | cons name l ih =>
    obtain ⟨hname, hl⟩ := List.forall_mem_cons.mp h
    have hslash : size? [.char '/'] = some 1 := rfl
    have hfirst := size?_append hslash hname.size?_eq
    rw [List.flatMap_cons, size?_append hfirst (ih hl), pathSize_cons, Nat.add_comm 1]

theorem checkForm_text (hne : l ≠ []) (h : ∀ name ∈ l, IsName name) :
    checkForm l.text = .ok () := by
  refine checkForm_eq_ok_iff.mpr ⟨⟨_, size?_text hne h⟩, ?_⟩
  rw [text_eq hne]
  intro hmem
  obtain ⟨name, hname, hmem⟩ := List.mem_flatMap.mp hmem
  rcases List.mem_append.mp hmem with hmem | hmem
  · exact absurd hmem (by decide)
  · exact (checkForm_eq_ok_iff.mp (h name hname).formed).2 hmem

theorem splitOn_text (hne : l ≠ []) (h : ∀ name ∈ l, IsName name) :
    Text.splitOn '/' l.text = [] :: l := by
  have hjoin := Text.splitOn_joinWith hne fun name hname => (h name hname).inner
  rw [Location.text, Text.splitOn_cons_self]
  exact congrArg _ hjoin

/-! ### The way to a location -/

theorem walk_append (tree : FileTree) (path : Text) (here : Location) (ms ns : List Text) :
    tree.walk path here (ms ++ ns) = tree.walk path here ms >>= fun l => tree.walk path l ns := by
  induction ms generalizing here with
  | nil => rfl
  | cons m ms ih =>
    rw [List.cons_append, walk, walk]
    cases tree.node? here with
    | none => rfl
    | some node =>
      cases node with
      | file bytes => rfl
      | directory =>
        dsimp only
        split
        · exact ih _
        · split
          · rfl
          · split
            · rfl
            · exact ih _

/-- One proper name leads from a directory to what has the name there. -/
theorem walk_name (tree : FileTree) (path : Text) (dir : Location) (h : IsName name) :
    tree.walk path dir [name] =
      match tree.node? dir with
      | none => .error (.missing path)
      | some (.file _) => .error (.notDirectory path)
      | some .directory =>
        if tree.isClosed dir then .error (.denied path)
        else if maxNameSize < nameSize name then .error (.tooLong path)
        else .ok (dir ++ [name]) := by
  have hstep : (if name = "." then dir else Path.follow dir name) = dir ++ [name] := by
    rw [if_neg h.notHere, Path.follow, if_neg h.notParent]
  rw [walk, hstep, if_neg h.nonempty]
  rfl

theorem walk_name_eq_ok_iff (h : IsName name) {found : Location} :
    tree.walk path dir [name] = .ok found ↔ found = dir ++ [name] ∧ tree.Passes dir name := by
  rw [walk_name tree path dir h]
  constructor
  · intro hwalk
    split at hwalk
    · cases hwalk
    · cases hwalk
    · next hdirectory =>
      split at hwalk
      · cases hwalk
      · next hopened =>
        split at hwalk
        · cases hwalk
        · next hshort =>
          cases hwalk
          exact ⟨rfl, hdirectory, Bool.eq_false_iff.mpr hopened, Nat.le_of_not_lt hshort⟩
  · rintro ⟨rfl, hdirectory, hopened, hshort⟩
    simp only [hdirectory, hopened, Bool.false_eq_true, if_false, if_neg (Nat.not_lt.mpr hshort)]

/-- One proper name is refused exactly in a directory that does not let the program go on. -/
theorem walk_name_eq_error_iff (h : IsName name) {e : Error} (refused : e.saysNo = false) :
    tree.walk path dir [name] = .error e ↔
      tree.node? dir = some .directory ∧ tree.Stops path dir name e := by
  rw [walk_name tree path dir h]
  constructor
  · intro hwalk
    split at hwalk
    · cases hwalk
      cases refused
    · cases hwalk
      cases refused
    · next hdirectory =>
      refine ⟨hdirectory, ?_⟩
      split at hwalk
      · next hclosed =>
        cases hwalk
        exact .closed hclosed
      · next hopened =>
        split at hwalk
        · next hlong =>
          cases hwalk
          exact .long (Bool.eq_false_iff.mpr hopened) hlong
        · cases hwalk
  · rintro ⟨hdirectory, hstops⟩
    cases hstops with
    | closed hclosed => simp only [hdirectory, hclosed, if_true]
    | long hopened hlong =>
      simp only [hdirectory, hopened, Bool.false_eq_true, if_false, if_pos hlong]

/-- A way starts at the root, with or without the empty name before its first slash. -/
theorem walk_root (tree : FileTree) (path : Text) (hne : l ≠ []) :
    tree.walk path [] ([] :: l) = tree.walk path [] l := by
  obtain ⟨name, l, rfl⟩ := List.exists_cons_of_ne_nil hne
  cases hroot : tree.node? [] with
  | none => simp only [walk, hroot]
  | some node =>
    cases node with
    | file bytes => simp only [walk, hroot]
    | directory =>
      rw [walk, hroot]
      rfl

/-- A name on the way to what has a name in a directory is that name, or is on the way to the
directory. -/
theorem way_concat_iff {outer : Location} {other : Text} :
    outer ++ [other] <+: dir ++ [name] ↔
      (outer = dir ∧ other = name) ∨ outer ++ [other] <+: dir := by
  rw [List.prefix_concat_iff, List.append_singleton_inj]

/-- Names lead to their location exactly if the program goes on with each of them. -/
theorem walk_eq_ok_iff (h : ∀ name ∈ l, IsName name) {found : Location} :
    tree.walk path [] l = .ok found ↔
      found = l ∧ ∀ dir name, dir ++ [name] <+: l → tree.Passes dir name := by
  induction l using List.reverseRecOn generalizing found with
  | nil =>
    rw [walk, Except.ok.injEq]
    constructor
    · rintro rfl
      exact ⟨rfl, fun dir name hstart => by simp at hstart⟩
    · rintro ⟨rfl, -⟩
      rfl
  | append_singleton dir name ih =>
    obtain ⟨hdir, hname⟩ := List.forall_mem_append.mp h
    rw [walk_append, bind_eq_ok_iff]
    simp only [ih hdir, walk_name_eq_ok_iff (List.forall_mem_singleton.mp hname)]
    constructor
    · rintro ⟨_, ⟨rfl, hway⟩, hfound, hlast⟩
      refine ⟨hfound, fun outer other hstart => ?_⟩
      rcases way_concat_iff.mp hstart with ⟨rfl, rfl⟩ | hstart
      · exact hlast
      · exact hway outer other hstart
    · rintro ⟨hfound, hway⟩
      refine ⟨dir, ⟨rfl, fun outer other hstart => ?_⟩, hfound, hway dir name List.prefix_rfl⟩
      exact hway outer other (hstart.trans (List.prefix_append _ _))

/-- Names are refused exactly if one of them is, in a directory that those before it lead to. -/
theorem walk_eq_error_iff (h : ∀ name ∈ l, IsName name) {e : Error} (refused : e.saysNo = false) :
    tree.walk path [] l = .error e ↔ ∃ dir name, dir ++ [name] <+: l ∧
      (∀ outer other, outer ++ [other] <+: dir → tree.Passes outer other) ∧
        tree.node? dir = some .directory ∧ tree.Stops path dir name e := by
  induction l using List.reverseRecOn with
  | nil =>
    constructor
    · nofun
    · rintro ⟨dir, name, hstart, -⟩
      simp at hstart
  | append_singleton dir name ih =>
    obtain ⟨hdir, hname⟩ := List.forall_mem_append.mp h
    rw [walk_append, bind_eq_error_iff, ih hdir]
    simp only [walk_eq_ok_iff hdir,
      walk_name_eq_error_iff (List.forall_mem_singleton.mp hname) refused]
    constructor
    · rintro (⟨outer, other, hstart, hway, hstop⟩ | ⟨_, ⟨rfl, hway⟩, hstop⟩)
      · exact ⟨outer, other, hstart.trans (List.prefix_append _ _), hway, hstop⟩
      · exact ⟨_, name, List.prefix_rfl, hway, hstop⟩
    · rintro ⟨outer, other, hstart, hway, hstop⟩
      rcases way_concat_iff.mp hstart with ⟨rfl, rfl⟩ | hstart
      · exact .inr ⟨_, ⟨rfl, hway⟩, hstop⟩
      · exact .inl ⟨outer, other, hstart, hway, hstop⟩

/-! ### Files -/

/-- What there is at the end of a way. -/
def nodeAt (tree : FileTree) (path : Text) (l : Location) : Except Error (Location × Node) :=
  match tree.node? l with
  | none => .error (.missing path)
  | some node => .ok (l, node)

/-- What there is at the path of a location, if the path is not too long. -/
theorem find_text (hne : l ≠ []) (h : ∀ name ∈ l, IsName name)
    (short : pathSize l ≤ maxPathSize) :
    tree.find [] l.text = tree.walk l.text [] l >>= tree.nodeAt l.text := by
  have hsize : checkSize l.text = .ok () := by
    rw [checkSize, size?_text hne h]
    exact if_neg (Nat.not_lt.mpr short)
  have hsome : l.text ≠ [] := List.cons_ne_nil _ _
  rw [find, checkForm_text hne h, if_neg hsome, hsize, splitOn_text hne h]
  show (tree.walk l.text [] ([] :: l) >>= _) = _
  rw [walk_root tree _ hne]
  refine congrArg _ (funext fun found => ?_)
  rw [nodeAt]
  cases tree.node? found <;> rfl

theorem find_text_of_long (hne : l ≠ []) (h : ∀ name ∈ l, IsName name)
    (long : maxPathSize < pathSize l) : tree.find [] l.text = .error (.tooLong l.text) := by
  have hsize : checkSize l.text = .error (.tooLong l.text) := by
    rw [checkSize, size?_text hne h]
    exact if_pos long
  have hsome : l.text ≠ [] := List.cons_ne_nil _ _
  rw [find, checkForm_text hne h, if_neg hsome, hsize]
  rfl

theorem Stops.saysNo_eq {e : Error} (h : tree.Stops path dir name e) : e.saysNo = false := by
  cases h <;> rfl

theorem Refuses.saysNo_eq {e : Error} (h : tree.Refuses l e) : e.saysNo = false := by
  cases h with
  | path long => rfl
  | way short way passed directory stops => exact stops.saysNo_eq

theorem find_text_of_refuses (hne : l ≠ []) (h : ∀ name ∈ l, IsName name) {e : Error}
    (refused : tree.Refuses l e) : tree.find [] l.text = .error e := by
  cases refused with
  | path long => exact find_text_of_long hne h long
  | @way dir name e short way passed directory stops =>
    have hwalk : tree.walk l.text [] l = .error e :=
      (walk_eq_error_iff h stops.saysNo_eq).mpr ⟨dir, name, way, passed, directory, stops⟩
    rw [find_text hne h short, hwalk]
    rfl

theorem isFile_of_refuses (hne : l ≠ []) (h : ∀ name ∈ l, IsName name) {e : Error}
    (refused : tree.Refuses l e) : tree.isFile l = .error e := by
  have hfind := find_text_of_refuses hne h refused
  rw [isFile, hfind]
  exact if_neg (Bool.eq_false_iff.mp refused.saysNo_eq)

/-- On the way of a path that is not refused a directory lets the program go on, if everything
before it does. -/
theorem passes_of_not_refuses (short : pathSize l ≤ maxPathSize)
    (answered : ∀ e, ¬ tree.Refuses l e)
    (hway : dir ++ [name] <+: l)
    (passed : ∀ outer other, outer ++ [other] <+: dir → tree.Passes outer other)
    (directory : tree.node? dir = some .directory) : tree.Passes dir name := by
  have hnot (e : Error) (stops : tree.Stops l.text dir name e) : False :=
    answered e (.way short hway passed directory stops)
  have hopened : tree.isClosed dir = false :=
    Bool.eq_false_iff.mpr fun hclosed => hnot _ (.closed hclosed)
  exact ⟨directory, hopened, Nat.le_of_not_lt fun hlong => hnot _ (.long hopened hlong)⟩

/-- A path that is not refused is not too long. -/
theorem pathSize_le_of_not_refuses (answered : ∀ e, ¬ tree.Refuses l e) :
    pathSize l ≤ maxPathSize :=
  Nat.le_of_not_lt fun hlong => answered _ (.path hlong)

/-- The names of a location lead to it if there are directories on the way and nothing is
refused. -/
theorem walk_of_directories (h : ∀ name ∈ l, IsName name) (answered : ∀ e, ¬ tree.Refuses l e)
    (directories : ∀ dir name, dir ++ [name] <+: l → tree.node? dir = some .directory) :
    tree.walk l.text [] l = .ok l := by
  have hpassed (n : Nat) : ∀ dir name, dir.length = n → dir ++ [name] <+: l →
      tree.Passes dir name := by
    induction n using Nat.strong_induction_on with
    | _ n ih =>
      intro dir name hlength hway
      refine passes_of_not_refuses (pathSize_le_of_not_refuses answered) answered hway
        (fun outer other hstart => ?_) (directories dir name hway)
      have hshorter := hstart.length_le
      rw [List.length_append, List.length_singleton, hlength] at hshorter
      exact ih outer.length hshorter outer other rfl
        (hstart.trans ((List.prefix_append _ _).trans hway))
  exact (walk_eq_ok_iff h).mpr ⟨rfl, fun dir name hway => hpassed _ dir name rfl hway⟩

theorem isFile_of_hasFile (hne : l ≠ []) (h : ∀ name ∈ l, IsName name)
    (answered : ∀ e, ¬ tree.Refuses l e) (file : tree.HasFile l) : tree.isFile l = .ok true := by
  obtain ⟨bytes, hnode⟩ := file.file
  have hfind : tree.find [] l.text = .ok (l, .file bytes) := by
    rw [find_text hne h (pathSize_le_of_not_refuses answered),
      walk_of_directories h answered file.way]
    show tree.nodeAt l.text l = _
    rw [nodeAt, hnode]
  rw [isFile, hfind]

theorem isFile_of_not_hasFile (hne : l ≠ []) (h : ∀ name ∈ l, IsName name)
    (answered : ∀ e, ¬ tree.Refuses l e) (none : ¬ tree.HasFile l) :
    tree.isFile l = .ok false := by
  have hshort := pathSize_le_of_not_refuses answered
  rw [isFile, find_text hne h hshort]
  cases hwalk : tree.walk l.text [] l with
  | error e =>
    cases hsays : e.saysNo with
    | true => exact if_pos hsays
    | false =>
      obtain ⟨dir, name, hway, hpassed, hdirectory, hstops⟩ := (walk_eq_error_iff h hsays).mp hwalk
      exact absurd (.way hshort hway hpassed hdirectory hstops) (answered e)
  | ok found =>
    obtain ⟨rfl, hway⟩ := (walk_eq_ok_iff h).mp hwalk
    have hlast : (Except.ok found >>= tree.nodeAt found.text) = tree.nodeAt found.text found := rfl
    rw [hlast, nodeAt]
    cases hnode : tree.node? found with
    | none => rfl
    | some node =>
      cases node with
      | directory => rfl
      | file bytes =>
        exact absurd ⟨fun dir name hdir => (hway dir name hdir).directory, bytes, hnode⟩ none

/-- What is on the way to a location is the location, or there is a name behind it. -/
theorem eq_or_exists_name {outer : Location} (h : outer <+: dir) :
    outer = dir ∨ ∃ name, outer ++ [name] <+: dir := by
  obtain ⟨rest, rfl⟩ := h
  cases rest with
  | nil => exact .inl (List.append_nil _).symm
  | cons name rest => exact .inr ⟨name, rest, by simp⟩

/-- A location in one of the directories on the way to another one is refused only if that one
is, as long as its name is not too long. -/
theorem Refuses.of_outer {outer : Location} {e : Error} (houter : outer <+: dir)
    (hname : nameSize name ≤ maxNameSize) (refused : tree.Refuses (outer ++ [name]) e) :
    ∃ e, tree.Refuses (dir ++ [name]) e := by
  have hlonger : pathSize (outer ++ [name]) ≤ pathSize (dir ++ [name]) := by
    obtain ⟨rest, rfl⟩ := houter
    simp only [pathSize, List.map_append, List.sum_append]
    omega
  rcases Nat.lt_or_ge maxPathSize (pathSize (dir ++ [name])) with hpath | hpath
  · exact ⟨_, .path hpath⟩
  · cases refused with
    | path hlong => exact absurd (Nat.lt_of_lt_of_le hlong hlonger) (Nat.not_lt.mpr hpath)
    | @way inner other e short hway hpassed hdirectory hstops =>
      -- the directory that stops the program is on the way to both of them
      obtain ⟨next, hnext, hlong⟩ : ∃ next, inner ++ [next] <+: dir ++ [name] ∧
          (maxNameSize < nameSize other → maxNameSize < nameSize next) := by
        rcases way_concat_iff.mp hway with ⟨rfl, rfl⟩ | hway
        · rcases eq_or_exists_name houter with rfl | ⟨next, hnext⟩
          · exact ⟨_, List.prefix_rfl, id⟩
          · exact ⟨next, hnext.trans (List.prefix_append _ _),
              fun hlong => absurd hlong (Nat.not_lt.mpr hname)⟩
        · exact ⟨other, (hway.trans houter).trans (List.prefix_append _ _), id⟩
      cases hstops with
      | closed hclosed => exact ⟨_, .way hpath hnext hpassed hdirectory (.closed hclosed)⟩
      | long hopened hother =>
        exact ⟨_, .way hpath hnext hpassed hdirectory (.long hopened (hlong hother))⟩

/-- In a tree without closed directories only lengths are refused. -/
theorem not_refuses (opened : tree.closed = []) (hpath : pathSize l ≤ maxPathSize)
    (hnames : ∀ name ∈ l, nameSize name ≤ maxNameSize) (e : Error) : ¬ tree.Refuses l e := by
  intro refused
  cases refused with
  | path hlong => exact Nat.not_lt.mpr hpath hlong
  | @way dir name e short hway hpassed hdirectory hstops =>
    cases hstops with
    | closed hclosed =>
      rw [isClosed, opened] at hclosed
      cases hclosed
    | long hopened hlong =>
      have hname : name ∈ l := hway.subset (List.mem_append_right _ (List.mem_cons_self ..))
      exact Nat.not_lt.mpr (hnames name hname) hlong

end FileTree
end HelpPages
