import HelpPages.Text.Basic

/-! # Pieces of a text

`splitOn` and `joinWith` undo each other on pieces without the separator.  Cutting
is a homomorphism: a separator anywhere in a text cuts it into what is on its left
and what is on its right, each cut on its own (`splitOn_append`), so facts on the
pieces of a text follow from facts on shorter texts.
-/
namespace HelpPages
namespace Text

variable {sep : CodePoint}

@[simp] theorem splitOn_nil (sep : CodePoint) : splitOn sep [] = [[]] := rfl

theorem splitOn_ne_nil (sep : CodePoint) (t : Text) : splitOn sep t ≠ [] :=
  List.cons_ne_nil _ _

theorem splitOn_cons_self (sep : CodePoint) (t : Text) :
    splitOn sep (sep :: t) = [] :: splitOn sep t := by
  simp [splitOn, splitFirst]

theorem splitOn_cons_ne {c : CodePoint} (h : c ≠ sep) (t : Text) :
    splitOn sep (c :: t) = (c :: (splitFirst sep t).1) :: (splitFirst sep t).2 := by
  simp [splitOn, splitFirst, h]

/-- A separator cuts a text into the pieces on its left and those on its right. -/
theorem splitOn_append (sep : CodePoint) (s t : Text) :
    splitOn sep (s ++ sep :: t) = splitOn sep s ++ splitOn sep t := by
  induction s with
  | nil => rw [List.nil_append, splitOn_cons_self]; rfl
  | cons c s ih =>
    by_cases hc : c = sep
    · subst hc
      rw [List.cons_append, splitOn_cons_self, splitOn_cons_self, ih]
      rfl
    · rw [List.cons_append, splitOn_cons_ne hc, splitOn_cons_ne hc]
      injection ih with piece pieces
      rw [piece, pieces]
      rfl

theorem splitOn_of_notMem {t : Text} (h : sep ∉ t) : splitOn sep t = [t] := by
  induction t with
  | nil => rfl
  | cons c t ih =>
    obtain ⟨hc, ht⟩ := not_or.mp (mt List.mem_cons.mpr h)
    obtain ⟨piece, pieces⟩ := List.cons.inj (ih ht)
    rw [splitOn_cons_ne (Ne.symm hc), piece, pieces]

/-- What stands before the first separator belongs to the first piece. -/
theorem splitOn_append_of_notMem {s : Text} (t : Text) (h : sep ∉ s) :
    splitOn sep (s ++ t) = (s ++ (splitFirst sep t).1) :: (splitFirst sep t).2 := by
  induction s with
  | nil => rfl
  | cons c s ih =>
    obtain ⟨hc, hs⟩ := not_or.mp (mt List.mem_cons.mpr h)
    obtain ⟨piece, pieces⟩ := List.cons.inj (ih hs)
    rw [List.cons_append, splitOn_cons_ne (Ne.symm hc), piece, pieces]
    rfl

/-- A piece takes all its code points from the text. -/
theorem subset_of_mem_splitOn {piece t : Text} (h : piece ∈ splitOn sep t) : piece ⊆ t := by
  induction t generalizing piece with
  | nil => rw [List.mem_singleton.mp h]; exact List.Subset.refl _
  | cons c t ih =>
    by_cases hc : c = sep
    · subst hc
      rw [splitOn_cons_self] at h
      rcases List.mem_cons.mp h with rfl | h
      · exact List.nil_subset _
      · exact List.subset_cons_of_subset _ (ih h)
    · rw [splitOn_cons_ne hc] at h
      rcases List.mem_cons.mp h with rfl | h
      · exact List.cons_subset_cons _ (ih (List.mem_cons_self ..))
      · exact List.subset_cons_of_subset _ (ih (List.mem_cons_of_mem _ h))

/-- No piece has a separator in it. -/
theorem notMem_of_mem_splitOn {piece t : Text} (h : piece ∈ splitOn sep t) : sep ∉ piece := by
  induction t generalizing piece with
  | nil => rw [List.mem_singleton.mp h]; exact List.not_mem_nil
  | cons c t ih =>
    by_cases hc : c = sep
    · subst hc
      rw [splitOn_cons_self] at h
      rcases List.mem_cons.mp h with rfl | h
      · exact List.not_mem_nil
      · exact ih h
    · rw [splitOn_cons_ne hc] at h
      rcases List.mem_cons.mp h with rfl | h
      · exact List.not_mem_cons_of_ne_of_not_mem (Ne.symm hc) (ih (List.mem_cons_self ..))
      · exact ih (List.mem_cons_of_mem _ h)

/-- The pieces of a text go on in the pieces of a longer text. -/
theorem splitFirst_append (sep : CodePoint) (s t : Text) :
    (splitFirst sep s).1 <+: (splitFirst sep (s ++ t)).1 ∧
      ∀ piece ∈ (splitFirst sep s).2, ∃ longer ∈ (splitFirst sep (s ++ t)).2, piece <+: longer := by
  induction s with
  | nil => exact ⟨List.nil_prefix, nofun⟩
  | cons c s ih =>
    obtain ⟨hfirst, hrest⟩ := ih
    by_cases hc : c = sep
    · simp only [List.cons_append, splitFirst, if_pos hc, List.forall_mem_cons]
      refine ⟨List.nil_prefix, ⟨_, List.mem_cons_self .., hfirst⟩, fun piece hpiece => ?_⟩
      obtain ⟨longer, hlonger, hprefix⟩ := hrest piece hpiece
      exact ⟨longer, List.mem_cons_of_mem _ hlonger, hprefix⟩
    · simp only [List.cons_append, splitFirst, if_neg hc]
      exact ⟨List.cons_prefix_cons.mpr ⟨rfl, hfirst⟩, hrest⟩

theorem exists_of_mem_splitOn_append {piece s : Text} (t : Text) (h : piece ∈ splitOn sep s) :
    ∃ longer ∈ splitOn sep (s ++ t), piece <+: longer := by
  obtain ⟨hfirst, hrest⟩ := splitFirst_append sep s t
  rcases List.mem_cons.mp h with rfl | h
  · exact ⟨_, List.mem_cons_self .., hfirst⟩
  · obtain ⟨longer, hlonger, hprefix⟩ := hrest piece h
    exact ⟨longer, List.mem_cons_of_mem _ hlonger, hprefix⟩

@[simp] theorem joinWith_nil (sep : Text) : joinWith sep [] = [] := rfl

@[simp] theorem joinWith_singleton (sep t : Text) : joinWith sep [t] = t := by
  simp [joinWith]

theorem joinWith_cons (sep t : Text) {ts : List Text} (h : ts ≠ []) :
    joinWith sep (t :: ts) = t ++ sep ++ joinWith sep ts := by
  cases ts with
  | nil => exact absurd rfl h
  | cons u us => simp [joinWith]

/-- What stands behind the first text. -/
theorem joinWith_cons_eq (sep t : Text) (ts : List Text) :
    joinWith sep (t :: ts) = t ++ ts.flatMap (sep ++ ·) := rfl

theorem joinWith_append (sep : Text) {ts us : List Text} (ht : ts ≠ []) :
    joinWith sep (ts ++ us) = joinWith sep ts ++ us.flatMap (sep ++ ·) := by
  cases ts with
  | nil => exact absurd rfl ht
  | cons t ts => simp [joinWith]

/-- Texts that each stand behind a separator are their join behind one. -/
theorem flatMap_sep (sep : Text) {ts : List Text} (h : ts ≠ []) :
    ts.flatMap (sep ++ ·) = sep ++ joinWith sep ts :=
  joinWith_cons sep [] h

/-- A text in a join, with what stands before and behind it. -/
theorem joinWith_append_cons (sep t : Text) (ts us : List Text) :
    joinWith sep (ts ++ t :: us) = ts.flatMap (· ++ sep) ++ t ++ us.flatMap (sep ++ ·) := by
  induction ts with
  | nil => rfl
  | cons u ts ih =>
    rw [List.cons_append, joinWith_cons _ _ (by simp), ih, List.flatMap_cons]
    simp only [List.append_assoc]

theorem width_flatMap {α : Type} (f : α → Text) (items : List α) :
    width (items.flatMap f) = items.foldr (fun item n => width (f item) + n) 0 := by
  induction items with
  | nil => rfl
  | cons item items ih => rw [List.flatMap_cons, width_append, ih, List.foldr_cons]

/-- The width of a join hangs on the widths of the texts only. -/
theorem width_joinWith_congr (sep : Text) {ts us : List Text} (h : ts.map width = us.map width) :
    width (joinWith sep ts) = width (joinWith sep us) := by
  cases ts with
  | nil => rw [List.map_nil, eq_comm, List.map_eq_nil_iff] at h; rw [h]
  | cons t ts =>
    cases us with
    | nil => cases h
    | cons u us =>
      obtain ⟨hhead, htail⟩ := List.cons.inj h
      have hbehind : ∀ vs : List Text, vs.foldr (fun v n => width (sep ++ v) + n) 0 =
          (vs.map width).foldr (fun w n => width sep + w + n) 0 := fun vs => by
        simp only [List.foldr_map, width_append]
      rw [joinWith_cons_eq, joinWith_cons_eq, width_append, width_append, hhead, width_flatMap,
        width_flatMap, hbehind, hbehind, htail]

/-- Pieces without the separator come back from their join. -/
theorem splitOn_joinWith {ts : List Text} (hne : ts ≠ []) (free : ∀ t ∈ ts, sep ∉ t) :
    splitOn sep (joinWith [sep] ts) = ts := by
  induction ts with
  | nil => exact absurd rfl hne
  | cons t ts ih =>
    have ht : sep ∉ t := free t (List.mem_cons_self ..)
    by_cases hts : ts = []
    · rw [hts, joinWith_singleton, splitOn_of_notMem ht]
    · rw [joinWith_cons _ _ hts, List.append_assoc, List.singleton_append, splitOn_append,
        splitOn_of_notMem ht, ih hts fun u hu => free u (List.mem_cons_of_mem _ hu)]
      rfl

/-- Lines that are ended one by one are cut each on its own. -/
theorem splitOn_flatMap_torn (sep : CodePoint) (lines : List Text) (t : Text) :
    splitOn sep (lines.flatMap (· ++ [sep]) ++ t) =
      lines.flatMap (splitOn sep) ++ splitOn sep t := by
  induction lines with
  | nil => rfl
  | cons line lines ih =>
    rw [List.flatMap_cons, List.append_assoc, List.append_assoc, List.singleton_append,
      splitOn_append, ih, List.flatMap_cons, List.append_assoc]

/-- Lines that are ended one by one are cut into themselves and an empty rest. -/
theorem splitOn_flatMap_ended {lines : List Text} (free : ∀ line ∈ lines, sep ∉ line) (t : Text) :
    splitOn sep (lines.flatMap (· ++ [sep]) ++ t) = lines ++ splitOn sep t := by
  have hwhole : lines.map (splitOn sep) = lines.map ([·]) :=
    List.map_congr_left fun line hline => splitOn_of_notMem (free line hline)
  rw [splitOn_flatMap_torn, List.flatMap_def, hwhole, ← List.flatMap_def, List.flatMap_singleton']

/-- A heading above some lines and an empty one. -/
theorem splitOn_section {title : Text} {lines : List Text} (htitle : sep ∉ title)
    (hne : lines ≠ []) (free : ∀ line ∈ lines, sep ∉ line) :
    splitOn sep (title ++ sep :: (joinWith [sep] lines ++ sep :: [sep])) =
      title :: lines ++ [[], []] := by
  rw [splitOn_append, splitOn_append, splitOn_of_notMem htitle, splitOn_joinWith hne free,
    splitOn_cons_self]
  rfl

/-- A text has a piece more than separators. -/
theorem length_splitOn (sep : CodePoint) (t : Text) :
    (splitOn sep t).length = t.count sep + 1 := by
  induction t with
  | nil => rfl
  | cons c t ih =>
    by_cases hc : c = sep
    · rw [hc, splitOn_cons_self, List.length_cons, ih, List.count_cons_self]
    · rw [splitOn_cons_ne hc, List.count_cons_of_ne hc, ← ih]
      rfl

/-- Joined texts have a code point as often as the texts, if the separator does not have it. -/
theorem count_joinWith {c : CodePoint} {sep : Text} (free : c ∉ sep) (ts : List Text) :
    (joinWith sep ts).count c = ts.flatten.count c := by
  have hbehind : ∀ us : List Text, (us.flatMap (sep ++ ·)).count c = us.flatten.count c := by
    intro us
    induction us with
    | nil => rfl
    | cons u us ih =>
      rw [List.flatMap_cons, List.count_append, List.count_append, ih,
        List.count_eq_zero_of_not_mem free, Nat.zero_add, List.flatten_cons, List.count_append]
  cases ts with
  | nil => rfl
  | cons t ts =>
    rw [joinWith_cons_eq, List.count_append, hbehind, List.flatten_cons, List.count_append]

/-- A code point of a join is one of the separator or of a piece. -/
theorem mem_joinWith {sep : Text} {ts : List Text} {c : CodePoint} (h : c ∈ joinWith sep ts) :
    c ∈ sep ∨ ∃ t ∈ ts, c ∈ t := by
  cases ts with
  | nil => exact absurd h List.not_mem_nil
  | cons u us =>
    rcases List.mem_append.mp h with h | h
    · exact Or.inr ⟨u, List.mem_cons_self .., h⟩
    · obtain ⟨t, ht, h⟩ := List.mem_flatMap.mp h
      rcases List.mem_append.mp h with h | h
      · exact Or.inl h
      · exact Or.inr ⟨t, List.mem_cons_of_mem _ ht, h⟩

end Text
end HelpPages
