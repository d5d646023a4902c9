import HelpPages.Text.Blank
import Mathlib.Data.List.DropRight

/-! # Trimmed texts

Trimming takes code points of one kind from both ends of a text.  A text is trimmed
exactly when neither end is of that kind (`trim_eq_self_iff`), and code points of the
kind that are added to either end do not show after trimming (`trim_surrounded`).
-/
namespace HelpPages
namespace Text

variable {p : CodePoint → Bool} {s t u : Text}

theorem dropEndWhile_eq_nil_iff : dropEndWhile p t = [] ↔ ∀ c ∈ t, p c = true :=
  List.rdropWhile_eq_nil_iff

theorem dropEndWhile_isPrefix (p : CodePoint → Bool) (t : Text) : dropEndWhile p t <+: t :=
  List.rdropWhile_prefix p t

/-- What is dropped at the end is of the kind. -/
theorem dropEndWhile_append_dropped (p : CodePoint → Bool) (t : Text) :
    ∃ u, t = dropEndWhile p t ++ u ∧ ∀ c ∈ u, p c = true := by
  refine ⟨(t.reverse.takeWhile p).reverse, ?_, fun c hc => ?_⟩
  · rw [dropEndWhile, ← List.reverse_append, List.takeWhile_append_dropWhile, List.reverse_reverse]
  · exact List.mem_takeWhile_imp (List.mem_reverse.mp hc)

theorem not_of_getLast?_dropEndWhile {c : CodePoint}
    (h : (dropEndWhile p t).getLast? = some c) : p c = false := by
  obtain ⟨hne, rfl⟩ := List.mem_getLast?_eq_getLast h
  exact Bool.eq_false_iff.mpr (List.rdropWhile_last_not p t hne)

theorem dropEndWhile_append_of_all (hu : ∀ c ∈ u, p c = true) :
    dropEndWhile p (t ++ u) = dropEndWhile p t := by
  rw [dropEndWhile, List.reverse_append,
    List.dropWhile_append_of_pos fun c hc => hu c (List.mem_reverse.mp hc)]
  rfl

theorem dropEndWhile_eq_self_iff :
    dropEndWhile p t = t ↔ ∀ c ∈ t.getLast?, p c = false := by
  refine List.rdropWhile_eq_self_iff.trans ⟨fun h c hc => ?_, fun h hne => ?_⟩
  · obtain ⟨hne, rfl⟩ := List.mem_getLast?_eq_getLast hc
    exact Bool.eq_false_iff.mpr (h hne)
  · exact Bool.eq_false_iff.mp (h _ (List.getLast?_eq_some_getLast hne))

theorem dropWhile_eq_self_iff : t.dropWhile p = t ↔ ∀ c ∈ t.head?, p c = false := by
  cases t with
  | nil => simp
  | cons c t =>
    constructor
    · intro h d hd
      cases hd
      by_contra hc
      rw [List.dropWhile_cons_of_pos (by simpa using hc)] at h
      have hlen := (List.dropWhile_suffix (l := t) p).length_le
      rw [h, List.length_cons] at hlen
      exact absurd hlen (Nat.not_succ_le_self _)
    · intro h
      exact List.dropWhile_cons_of_neg (by simp [h c rfl])

theorem trim_subset (p : CodePoint → Bool) (t : Text) : trim p t ⊆ t :=
  List.Subset.trans (dropEndWhile_isPrefix p _).subset (List.dropWhile_suffix p).subset

theorem not_of_head?_dropWhile {c : CodePoint} (h : c ∈ (t.dropWhile p).head?) : p c = false := by
  have hdrop := List.head?_dropWhile_not p t
  rw [Option.mem_def.mp h] at hdrop
  exact hdrop

theorem not_of_head?_trim {c : CodePoint} (h : (trim p t).head? = some c) : p c = false := by
  obtain ⟨u, hu⟩ := dropEndWhile_isPrefix p (t.dropWhile p)
  have hhead : (t.dropWhile p).head? = some c := by
    rw [← hu, List.head?_append, ← trim, h]
    rfl
  exact not_of_head?_dropWhile hhead

/-- A text is trimmed exactly when neither end is of the kind. -/
theorem trim_eq_self_iff :
    trim p t = t ↔ (∀ c ∈ t.head?, p c = false) ∧ ∀ c ∈ t.getLast?, p c = false := by
  rw [← dropWhile_eq_self_iff, ← dropEndWhile_eq_self_iff]
  constructor
  · intro h
    have hlen : t.length ≤ (t.dropWhile p).length := by
      rw [← h]
      exact le_trans (dropEndWhile_isPrefix p _).length_le (by rw [h])
    have hdrop := (List.dropWhile_suffix (l := t) p).eq_of_length_le hlen
    exact ⟨hdrop, by rw [trim, hdrop] at h; exact h⟩
  · rintro ⟨hdrop, hend⟩
    rw [trim, hdrop, hend]

theorem trim_append_left (hs : ∀ c ∈ s, p c = true) : trim p (s ++ t) = trim p t := by
  rw [trim, List.dropWhile_append_of_pos hs]
  rfl

theorem trim_append_right (hu : ∀ c ∈ u, p c = true) : trim p (t ++ u) = trim p t := by
  rw [trim, List.dropWhile_append]
  split
  · next he =>
    have hnil : u.dropWhile p = [] := List.dropWhile_eq_nil_iff.mpr hu
    rw [hnil, trim, List.isEmpty_iff.mp he]
  · exact dropEndWhile_append_of_all hu

/-- What is added to the ends of a trimmed text does not show after trimming. -/
theorem trim_surrounded (hs : ∀ c ∈ s, p c = true) (ht : trim p t = t)
    (hu : ∀ c ∈ u, p c = true) : trim p (s ++ t ++ u) = t := by
  rw [trim_append_right hu, trim_append_left hs, ht]

theorem dropWhile_append_of_exists (h : ∃ c ∈ t, p c = false) :
    (t ++ u).dropWhile p = t.dropWhile p ++ u := by
  have hne : (t.dropWhile p).isEmpty = false := by
    rw [Bool.eq_false_iff, ne_eq, List.isEmpty_iff, List.dropWhile_eq_nil_iff]
    obtain ⟨c, hc, hp⟩ := h
    intro hall
    rw [hall c hc] at hp
    cases hp
  rw [List.dropWhile_append, hne]
  rfl

theorem dropEndWhile_append_of_exists (h : ∃ c ∈ u, p c = false) :
    dropEndWhile p (t ++ u) = t ++ dropEndWhile p u := by
  have hrev : ∃ c ∈ u.reverse, p c = false := by
    obtain ⟨c, hc, hp⟩ := h
    exact ⟨c, List.mem_reverse.mpr hc, hp⟩
  rw [dropEndWhile, List.reverse_append, dropWhile_append_of_exists hrev, List.reverse_append,
    List.reverse_reverse]
  rfl

/-- Between two texts that are not all of the kind nothing is trimmed. -/
theorem trim_append_of_exists (hs : ∃ c ∈ s, p c = false) (hu : ∃ c ∈ u, p c = false) :
    trim p (s ++ t ++ u) = s.dropWhile p ++ t ++ dropEndWhile p u := by
  rw [trim, List.append_assoc, dropWhile_append_of_exists hs, ← List.append_assoc,
    dropEndWhile_append_of_exists hu]

/-- In front of a trimmed text only the start is trimmed. -/
theorem trim_append_of_trimmed (ht : trim p t = t) (hne : t ≠ []) :
    trim p (s ++ t) = s.dropWhile p ++ t := by
  obtain ⟨hhead, hlast⟩ := trim_eq_self_iff.mp ht
  have hink : ∃ c ∈ t, p c = false :=
    ⟨t.getLast hne, List.getLast_mem hne, hlast _ (List.getLast?_eq_some_getLast hne)⟩
  have hstart : (s ++ t).dropWhile p = s.dropWhile p ++ t := by
    by_cases hs : ∃ c ∈ s, p c = false
    · exact dropWhile_append_of_exists hs
    · have hall : ∀ c ∈ s, p c = true := by simpa using hs
      rw [List.dropWhile_append_of_pos hall, List.dropWhile_eq_nil_iff.mpr hall,
        dropWhile_eq_self_iff.mpr hhead, List.nil_append]
  rw [trim, hstart, dropEndWhile_append_of_exists hink, dropEndWhile_eq_self_iff.mpr hlast]

/-- A line feed or a space: what may stand around the text of a page. -/
def isFiller (c : CodePoint) : Bool := c = '\n' || c = ' '

theorem isFiller_iff {c : CodePoint} : isFiller c = true ↔ c = .char '\n' ∨ c = .char ' ' := by
  simp only [isFiller, Bool.or_eq_true, decide_eq_true_eq]

theorem isBlank_of_isFiller {c : CodePoint} (h : isFiller c = true) : isBlank c = true := by
  rcases isFiller_iff.mp h with rfl | rfl <;> decide

end Text
end HelpPages
