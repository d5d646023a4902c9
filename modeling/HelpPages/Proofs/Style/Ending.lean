import HelpPages.Proofs.Style.Codes
import HelpPages.Proofs.Text.Trim

/-! # What shows last

The text of a page loses the filler at its end, and filler inside a style does not count
as such: an escape sequence stands behind it.  So what is left of a coloured text may
show more than what is left of the plain one.  `Tints` follows the code point that shows
last of all before the filler at the end of a coloured text, and composes along
concatenation; the ends agree exactly if that code point is no filler itself
(`Tints.dropEndWhile`).
-/
namespace HelpPages
namespace Style

open Text (isFiller)

/-- A coloured text shows a plain one; both end in the same filler, and `last` is the
code point that shows last before it. -/
inductive Tints : Text → Text → Option CodePoint → Prop
  | intro {s t u : Text} (shows : Shows s t) (ends : ∀ c ∈ s.getLast?, isFiller c = false)
      (complete : t = [] → s = []) (filler : ∀ c ∈ u, isFiller c = true) :
      Tints (s ++ u) (t ++ u) t.getLast?

variable {s t u v : Text} {first second : Option CodePoint}

theorem escape_notMem_of_filler (h : ∀ c ∈ u, isFiller c = true) : CodePoint.char '\x1b' ∉ u :=
  fun hmem => absurd (h _ hmem) (by decide)

/-- A text without an escape character ends as it stands. -/
theorem tints_self (h : CodePoint.char '\x1b' ∉ t) :
    Tints t t (Text.dropEndWhile isFiller t).getLast? := by
  obtain ⟨u, hu, hfiller⟩ := Text.dropEndWhile_append_dropped isFiller t
  have hshows : Shows (Text.dropEndWhile isFiller t) (Text.dropEndWhile isFiller t) :=
    shows_self fun hmem => h ((Text.dropEndWhile_isPrefix isFiller t).subset hmem)
  have htints := Tints.intro hshows (fun c => Text.not_of_getLast?_dropEndWhile) id hfiller
  rwa [← hu] at htints

/-- A text in a style ends in its own last code point, be it filler or not. -/
theorem tints_apply {style : Style} (hcodes : style.codes ≠ [])
    (h : CodePoint.char '\x1b' ∉ t) : Tints (style.apply t) t t.getLast? := by
  have hends : ∀ c ∈ (style.apply t).getLast?, t ≠ [] → isFiller c = false := by
    intro c hc hne
    have hlast : style.apply t = sequence style.codes ++ t ++ [.char '\x1b', .char '[', .char '0']
        ++ [.char 'm'] := by
      rw [apply, if_neg (not_or.mpr ⟨hne, hcodes⟩)]
      simp only [List.append_assoc]
      rfl
    rw [hlast, List.getLast?_concat] at hc
    cases hc
    rfl
  by_cases hne : t = []
  · rw [hne, apply, if_pos (Or.inl rfl)]
    exact tints_self List.not_mem_nil
  · have htints := Tints.intro (u := []) (shows_apply style h) (fun c hc => hends c hc hne)
      (fun he => absurd he hne) (fun c hc => absurd hc List.not_mem_nil)
    rwa [List.append_nil, List.append_nil] at htints

/-- What shows last of two texts is what shows last of the second one, if that shows
anything but filler. -/
theorem Tints.append (h : Tints s t first) (h' : Tints u v second) :
    Tints (s ++ u) (t ++ v) (second.or first) := by
  obtain @⟨s, t, w, hshows, hends, hcomplete, hfiller⟩ := h
  obtain @⟨u, v, w', hshows', hends', hcomplete', hfiller'⟩ := h'
  -- if the second text is all filler, it lengthens the filler behind the first one
  by_cases hv : v = []
  · have hboth : ∀ c ∈ w ++ w', isFiller c = true := fun c hc =>
      (List.mem_append.mp hc).elim (hfiller c) (hfiller' c)
    have htints := Tints.intro hshows hends hcomplete hboth
    rw [hcomplete' hv, hv]
    simpa only [List.nil_append, List.append_assoc, List.getLast?_nil, Option.none_or] using htints
  · have hu : u ≠ [] := fun he => hv (by rw [← hshows'.withoutCodes_eq, he, withoutCodes_nil])
    have hw : Shows w w := shows_self (escape_notMem_of_filler hfiller)
    have hlast : ∀ c ∈ (s ++ w ++ u).getLast?, isFiller c = false := by
      rw [List.getLast?_append_of_ne_nil _ hu]
      exact hends'
    have htints := Tints.intro ((hshows.append hw).append hshows') hlast
      (fun he => absurd (List.append_eq_nil_iff.mp he).2 hv) hfiller'
    rw [List.getLast?_append_of_ne_nil _ hv] at htints
    rw [List.getLast?_eq_some_getLast hv, Option.some_or]
    rw [List.getLast?_eq_some_getLast hv] at htints
    simpa only [List.append_assoc] using htints

/-- Without the filler at their ends a coloured text shows the plain one, and behind it
filler exactly if filler shows last. -/
theorem Tints.dropEndWhile (h : Tints s t first) :
    ∃ u, (∀ c ∈ u, isFiller c = true) ∧
      withoutCodes (Text.dropEndWhile isFiller s) = Text.dropEndWhile isFiller t ++ u ∧
      (u = [] ↔ ∀ c ∈ first, isFiller c = false) := by
  obtain @⟨s, t, w, hshows, hends, -, hfiller⟩ := h
  obtain ⟨u, hu, hdropped⟩ := Text.dropEndWhile_append_dropped isFiller t
  refine ⟨u, hdropped, ?_, ?_⟩
  · rw [Text.dropEndWhile_append_of_all hfiller, Text.dropEndWhile_append_of_all hfiller,
      Text.dropEndWhile_eq_self_iff.mpr hends, hshows.withoutCodes_eq, ← hu]
  · rw [← Text.dropEndWhile_eq_self_iff]
    constructor
    · rintro rfl
      rw [List.append_nil] at hu
      exact hu.symm
    · intro hself
      rw [hself] at hu
      exact List.self_eq_append_right.mp hu

/-- A coloured text shows a plain one, and no filler shows last. -/
def EndsInInk (colored plain : Text) : Prop :=
  ∃ last, Tints colored plain last ∧ ∀ c ∈ last, isFiller c = false

theorem endsInInk_self (h : CodePoint.char '\x1b' ∉ t) : EndsInInk t t :=
  ⟨_, tints_self h, fun _ => Text.not_of_getLast?_dropEndWhile⟩

theorem endsInInk_apply {style : Style} (hcodes : style.codes ≠ [])
    (h : CodePoint.char '\x1b' ∉ t) (ink : ∀ c ∈ t.getLast?, isFiller c = false) :
    EndsInInk (style.apply t) t :=
  ⟨_, tints_apply hcodes h, ink⟩

/-- In front of other text it does not matter what shows last, unless it is filler. -/
theorem EndsInInk.append_tints (h : EndsInInk s t) (h' : Tints u v second) :
    ∃ last, Tints (s ++ u) (t ++ v) last ∧
      ((∀ c ∈ last, isFiller c = false) ↔ ∀ c ∈ second, isFiller c = false) := by
  obtain ⟨first, hfirst, hink⟩ := h
  refine ⟨_, hfirst.append h', ?_⟩
  cases second with
  | none => exact ⟨fun _ c hc => absurd hc (Option.not_mem_none c), fun _ => hink⟩
  | some c => exact Iff.rfl

theorem EndsInInk.append (h : EndsInInk s t) (h' : EndsInInk u v) :
    EndsInInk (s ++ u) (t ++ v) := by
  obtain ⟨second, hsecond, hink⟩ := h'
  obtain ⟨last, hlast, hiff⟩ := h.append_tints hsecond
  exact ⟨last, hlast, hiff.mpr hink⟩

theorem endsInInk_joinWith {sep : Text} {ss ts : List Text} (hsep : CodePoint.char '\x1b' ∉ sep)
    (h : List.Forall₂ EndsInInk ss ts) :
    EndsInInk (Text.joinWith sep ss) (Text.joinWith sep ts) := by
  cases h with
  | nil => exact endsInInk_self List.not_mem_nil
  | cons hfirst hrest =>
    rw [Text.joinWith_cons_eq, Text.joinWith_cons_eq]
    refine hfirst.append ?_
    induction hrest with
    | nil => exact endsInInk_self List.not_mem_nil
    | cons hhead _ ih => exact ((endsInInk_self hsep).append hhead).append ih

end Style
end HelpPages
