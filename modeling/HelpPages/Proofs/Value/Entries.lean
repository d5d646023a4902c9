import HelpPages.Value
import Mathlib.Data.List.Nodup

/-! # Entries with distinct names

Entries whose names are distinct are what arises by putting them in one after the
other (`ofList_of_nodup`), and each of them is found under its name
(`get?_eq_some_iff`).
-/
namespace HelpPages
namespace Entries

variable {α : Type} {name : Text} {value : α} {entries : Entries α}

theorem put_of_notMem (h : name ∉ names entries) :
    put name value entries = entries ++ [(name, value)] := by
  induction entries with
  | nil => rfl
  | cons entry rest ih =>
    obtain ⟨hne, hrest⟩ := not_or.mp (mt List.mem_cons.mpr h)
    rw [put, if_neg (Ne.symm hne), ih hrest]
    rfl

theorem foldl_put (pairs : Entries α) (h : (names (entries ++ pairs)).Nodup) :
    pairs.foldl (fun entries (name, value) => put name value entries) entries
      = entries ++ pairs := by
  induction pairs generalizing entries with
  | nil => exact (List.append_nil _).symm
  | cons pair pairs ih =>
    have hsplit : names (entries ++ pair :: pairs) = names (entries ++ [pair]) ++ names pairs := by
      simp [names]
    have hnew : pair.1 ∉ names entries := by
      intro hmem
      rw [hsplit] at h
      have hnodup := (List.nodup_append.mp h).1
      rw [names, List.map_append] at hnodup
      exact (List.nodup_append.mp hnodup).2.2 _ hmem _ (List.mem_singleton.mpr rfl) rfl
    show pairs.foldl _ (put pair.1 pair.2 entries) = _
    rw [put_of_notMem hnew, ih (by simpa using h), List.append_assoc]
    rfl

/-- Pairs with distinct names are the entries that arise from them. -/
theorem ofList_of_nodup (h : (names entries).Nodup) : ofList entries = entries :=
  foldl_put entries h

/-- Putting in an entry keeps the names distinct. -/
theorem nodup_names_put (h : (names entries).Nodup) (name : Text) (value : α) :
    (names (put name value entries)).Nodup := by
  rw [names_put]
  split
  · exact h
  · next hnew => exact List.concat_eq_append ▸ h.concat hnew

theorem mem_names_put {key : Text} :
    key ∈ names (put name value entries) ↔ key ∈ names entries ∨ key = name := by
  rw [names_put]
  split
  · next hold => exact (or_iff_left_of_imp fun he => he ▸ hold).symm
  · rw [List.mem_append, List.mem_singleton]

theorem mem_of_get?_eq_some (h : get? name entries = some value) : (name, value) ∈ entries := by
  induction entries with
  | nil => cases h
  | cons entry rest ih =>
    obtain ⟨key, v⟩ := entry
    rw [get?] at h
    split at h
    · next he => cases h; rw [he]; exact List.mem_cons_self ..
    · exact List.mem_cons_of_mem _ (ih h)

theorem mem_names_of_get?_eq_some (h : get? name entries = some value) : name ∈ names entries :=
  List.mem_map.mpr ⟨_, mem_of_get?_eq_some h, rfl⟩

/-- What is found under a name is the entry with that name. -/
theorem get?_eq_some_iff (h : (names entries).Nodup) :
    get? name entries = some value ↔ (name, value) ∈ entries := by
  refine ⟨mem_of_get?_eq_some, fun hmem => ?_⟩
  induction entries with
  | nil => cases hmem
  | cons entry rest ih =>
    obtain ⟨key, v⟩ := entry
    obtain ⟨hkey, hrest⟩ := List.nodup_cons.mp h
    rcases List.mem_cons.mp hmem with he | hmem
    · cases he
      rw [get?, if_pos rfl]
    · have hne : key ≠ name := fun he => hkey (List.mem_map.mpr ⟨_, hmem, he.symm⟩)
      rw [get?, if_neg hne, ih hrest hmem]

theorem get?_eq_none_iff : get? name entries = none ↔ name ∉ names entries := by
  induction entries with
  | nil => exact ⟨fun _ => List.not_mem_nil, fun _ => rfl⟩
  | cons entry rest ih =>
    obtain ⟨key, v⟩ := entry
    by_cases hkey : key = name
    · simp [get?, names, hkey]
    · rw [get?, if_neg hkey, ih]
      simp [names, Ne.symm hkey]

end Entries
end HelpPages
