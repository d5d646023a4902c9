import HelpPages.Proofs.Text.Pieces

/-! # Replacing a text

Occurrences of a text may overlap, and a text can be cut at some of them in more than one way.
`replace` goes from the left: it cuts at the first occurrence, and goes on behind it.  The
pieces of this cut are the only ones with that property (`IsCut.eq`), every text has them
(`exists_isCut`), and replacing joins them anew (`IsCut.replace_eq`).  What is put between the
pieces cannot take part in a new occurrence if it has no code point in common with the old text
(`not_infix_replace`).
-/
namespace HelpPages
namespace Text

variable {old new piece s t : Text} {pieces others : List Text}

/-! ### The first occurrence -/

/-- A piece ends where `old` comes for the first time: with `old` behind it, `old` stands
nowhere but there. -/
def EndsFirst (old piece : Text) : Prop :=
  ∀ before behind, piece ++ old = before ++ old ++ behind → before = piece

theorem endsFirst_nil (old : Text) : EndsFirst old [] := by
  intro before behind h
  have hlength := congrArg List.length h
  simp only [List.length_append, List.length_nil] at hlength
  exact List.length_eq_zero_iff.mp (by omega)

theorem EndsFirst.tail {c : CodePoint} (h : EndsFirst old (c :: piece)) : EndsFirst old piece := by
  intro before behind hsplit
  exact (List.cons.inj (h (c :: before) behind (congrArg (c :: ·) hsplit))).2

/-- A longer piece ends at the first occurrence too if `old` does not stand at its start. -/
theorem EndsFirst.cons {c : CodePoint} (h : EndsFirst old piece)
    (hstart : ¬ old <+: c :: piece ++ old) : EndsFirst old (c :: piece) := by
  intro before behind hsplit
  cases before with
  | nil => exact absurd ⟨behind, hsplit.symm⟩ hstart
  | cons d before =>
    obtain ⟨rfl, hrest⟩ := List.cons.inj hsplit
    rw [h before behind hrest]

theorem EndsFirst.not_prefix {c : CodePoint} (h : EndsFirst old (c :: piece)) :
    ¬ old <+: c :: piece ++ old := by
  intro ⟨behind, hsplit⟩
  exact List.cons_ne_nil c piece (h [] behind hsplit.symm).symm

/-- A piece that ends at the first occurrence has none in it. -/
theorem EndsFirst.not_infix (hold : old ≠ []) (h : EndsFirst old piece) : ¬ old <:+: piece := by
  intro ⟨before, behind, hsplit⟩
  have hbefore := h before (behind ++ old) (by rw [← hsplit]; simp only [List.append_assoc])
  have hlength := congrArg List.length hsplit
  rw [← hbefore] at hlength
  simp only [List.length_append] at hlength
  exact hold (List.length_eq_zero_iff.mp (by omega))

/-- Where there is an occurrence there is a first one. -/
theorem exists_endsFirst (hold : old ≠ []) (h : old <:+: t) :
    ∃ piece rest, t = piece ++ old ++ rest ∧ EndsFirst old piece := by
  induction t with
  | nil => exact absurd (List.eq_nil_of_infix_nil h) hold
  | cons c t ih =>
    by_cases hstart : old <+: c :: t
    · obtain ⟨rest, hrest⟩ := hstart
      exact ⟨[], rest, hrest.symm, endsFirst_nil old⟩
    · obtain ⟨piece, rest, rfl, hpiece⟩ := ih ((List.infix_cons_iff.mp h).resolve_left hstart)
      refine ⟨c :: piece, rest, rfl, hpiece.cons fun hprefix => hstart ?_⟩
      exact hprefix.trans (List.prefix_append (c :: piece ++ old) rest)

/-- There is only one first occurrence in a text. -/
theorem EndsFirst.eq {rest rest' piece' : Text} (h : EndsFirst old piece)
    (h' : EndsFirst old piece') (hsplit : piece ++ old ++ rest = piece' ++ old ++ rest') :
    piece = piece' ∧ rest = rest' := by
  -- the occurrence that ends earlier stands within the text up to the other one
  have hshort : ∀ {p q r r' : Text}, EndsFirst old q → p ++ old ++ r = q ++ old ++ r' →
      p.length ≤ q.length → p = q := by
    intro p q r r' hq hpq hle
    obtain ⟨behind, hbehind⟩ : p ++ old <+: q ++ old :=
      List.prefix_of_prefix_length_le ⟨r, hpq⟩ (List.prefix_append _ r')
        (by simp only [List.length_append]; omega)
    exact hq p behind hbehind.symm
  have hpiece : piece = piece' := by
    rcases Nat.le_total piece.length piece'.length with hle | hle
    · exact hshort h' hsplit hle
    · exact (hshort h hsplit.symm hle).symm
  subst hpiece
  exact ⟨rfl, List.append_cancel_left hsplit⟩

/-! ### The cut at all occurrences -/

/-- A text is cut at `old`, from the left and without overlap. -/
structure IsCut (old t : Text) (pieces : List Text) : Prop where
  ne_nil : pieces ≠ []
  /-- The text is the pieces with `old` between neighbours. -/
  join : joinWith old pieces = t
  /-- No piece has `old` in it. -/
  free : ∀ piece ∈ pieces, ¬ old <:+: piece
  /-- Every cut is made at the first occurrence that is left. -/
  leftmost : ∀ piece ∈ pieces.dropLast, EndsFirst old piece

theorem isCut_singleton : IsCut old t [piece] ↔ piece = t ∧ ¬ old <:+: t := by
  constructor
  · intro h
    have hjoin := h.join
    rw [joinWith_singleton] at hjoin
    exact ⟨hjoin, hjoin ▸ h.free piece (List.mem_cons_self ..)⟩
  · rintro ⟨rfl, hfree⟩
    exact ⟨List.cons_ne_nil _ _, joinWith_singleton old piece, List.forall_mem_singleton.mpr hfree,
      nofun⟩

/-- The first piece ends at the first occurrence, and the others are cut from what is behind. -/
theorem isCut_cons (hold : old ≠ []) (hne : pieces ≠ []) :
    IsCut old t (piece :: pieces) ↔
      ∃ rest, t = piece ++ old ++ rest ∧ EndsFirst old piece ∧ IsCut old rest pieces := by
  constructor
  · intro h
    have hjoin := h.join
    have hleftmost := h.leftmost
    rw [joinWith_cons old piece hne] at hjoin
    rw [List.dropLast_cons_of_ne_nil hne] at hleftmost
    exact ⟨_, hjoin.symm, hleftmost piece (List.mem_cons_self ..), hne, rfl,
      fun p hp => h.free p (List.mem_cons_of_mem _ hp),
      fun p hp => hleftmost p (List.mem_cons_of_mem _ hp)⟩
  · rintro ⟨rest, rfl, hpiece, h⟩
    refine ⟨List.cons_ne_nil _ _, ?_, ?_, ?_⟩
    · rw [joinWith_cons old piece hne, h.join]
    · exact List.forall_mem_cons.mpr ⟨hpiece.not_infix hold, h.free⟩
    · rw [List.dropLast_cons_of_ne_nil hne]
      exact List.forall_mem_cons.mpr ⟨hpiece, h.leftmost⟩

theorem exists_isCut (hold : old ≠ []) (t : Text) : ∃ pieces, IsCut old t pieces := by
  by_cases h : old <:+: t
  · obtain ⟨piece, rest, hsplit, hpiece⟩ := exists_endsFirst hold h
    have hshort : rest.length < t.length := by
      have hpos := List.length_pos_iff.mpr hold
      rw [hsplit]
      simp only [List.length_append]
      omega
    obtain ⟨pieces, hrest⟩ := exists_isCut hold rest
    exact ⟨piece :: pieces, (isCut_cons hold hrest.ne_nil).mpr ⟨rest, hsplit, hpiece, hrest⟩⟩
  · exact ⟨[t], isCut_singleton.mpr ⟨rfl, h⟩⟩
termination_by t.length

/-- A text that is cut is no single piece. -/
theorem IsCut.not_isCut_singleton {other : Text} (hold : old ≠ []) (hne : pieces ≠ [])
    (h : IsCut old t (piece :: pieces)) : ¬ IsCut old t [other] := by
  obtain ⟨rest, rfl, -⟩ := (isCut_cons hold hne).mp h
  exact fun hone => (isCut_singleton.mp hone).2 (List.infix_append piece old rest)

/-- There is only one such cut. -/
theorem IsCut.eq (hold : old ≠ []) (h : IsCut old t pieces) (h' : IsCut old t others) :
    pieces = others := by
  induction pieces generalizing t others with
  | nil => exact absurd rfl h.ne_nil
  | cons piece pieces ih =>
    obtain ⟨other, others, rfl⟩ := List.exists_cons_of_ne_nil h'.ne_nil
    by_cases hpieces : pieces = [] <;> by_cases hothers : others = []
    · subst hpieces hothers
      rw [(isCut_singleton.mp h).1, (isCut_singleton.mp h').1]
    · subst hpieces
      exact absurd h (h'.not_isCut_singleton hold hothers)
    · subst hothers
      exact absurd h' (h.not_isCut_singleton hold hpieces)
    · obtain ⟨rest, hsplit, hpiece, hrest⟩ := (isCut_cons hold hpieces).mp h
      obtain ⟨rest', hsplit', hother, hrest'⟩ := (isCut_cons hold hothers).mp h'
      obtain ⟨rfl, rfl⟩ := hpiece.eq hother (hsplit.symm.trans hsplit')
      rw [ih hrest hrest']

/-! ### Replacing -/

/-- Where `old` does not stand nothing is replaced. -/
theorem replace_eq_self (new : Text) (h : ¬ old <:+: t) : replace old new t = t := by
  induction t with
  | nil => rw [replace]
  | cons c t ih =>
    have hstart : ¬ (old ≠ [] ∧ old.isPrefixOf (c :: t) = true) := fun hprefix =>
      h (List.isPrefixOf_iff_prefix.mp hprefix.2).isInfix
    rw [replace, if_neg hstart, ih (mt List.infix_cons h)]

/-- The first occurrence is replaced, and what is behind it on its own. -/
theorem replace_of_endsFirst (hold : old ≠ []) (new : Text) (h : EndsFirst old piece) (t : Text) :
    replace old new (piece ++ old ++ t) = piece ++ new ++ replace old new t := by
  induction piece with
  | nil =>
    obtain ⟨c, cs, rfl⟩ := List.exists_cons_of_ne_nil hold
    have hstart : c :: cs ≠ [] ∧ (c :: cs).isPrefixOf (c :: (cs ++ t)) = true :=
      ⟨hold, List.isPrefixOf_iff_prefix.mpr (List.prefix_append (c :: cs) t)⟩
    show replace (c :: cs) new (c :: (cs ++ t)) = new ++ replace (c :: cs) new t
    rw [replace, if_pos hstart, List.length_cons, Nat.add_sub_cancel, List.drop_left]
  | cons c piece ih =>
    have hstart : ¬ (old ≠ [] ∧ old.isPrefixOf (c :: (piece ++ old ++ t)) = true) := by
      rintro ⟨-, hprefix⟩
      refine h.not_prefix (List.prefix_of_prefix_length_le (List.isPrefixOf_iff_prefix.mp hprefix)
        (List.prefix_append (c :: piece ++ old) t) ?_)
      simp only [List.length_append]
      omega
    show replace old new (c :: (piece ++ old ++ t)) = c :: (piece ++ new ++ replace old new t)
    rw [replace, if_neg hstart, ih h.tail]

/-- **Replacing joins the pieces anew.** -/
theorem IsCut.replace_eq (hold : old ≠ []) (h : IsCut old t pieces) (new : Text) :
    replace old new t = joinWith new pieces := by
  induction pieces generalizing t with
  | nil => exact absurd rfl h.ne_nil
  | cons piece pieces ih =>
    by_cases hpieces : pieces = []
    · subst hpieces
      obtain ⟨rfl, hfree⟩ := isCut_singleton.mp h
      rw [replace_eq_self new hfree, joinWith_singleton]
    · obtain ⟨rest, rfl, hpiece, hrest⟩ := (isCut_cons hold hpieces).mp h
      rw [replace_of_endsFirst hold new hpiece, ih hrest, joinWith_cons new piece hpieces]

/-! ### Occurrences across a seam -/

/-- A part of two texts without a common code point is empty. -/
theorem eq_nil_of_apart {part : Text} (apart : ∀ c ∈ new, c ∉ old) (hnew : part ⊆ new)
    (hold : part ⊆ old) : part = [] :=
  List.eq_nil_iff_forall_not_mem.mpr fun c hc => apart c (hnew hc) (hold hc)

/-- An occurrence does not reach over a text with which it has no code point in common. -/
theorem infix_of_infix_around (hnew : new ≠ []) (apart : ∀ c ∈ new, c ∉ old)
    (h : old <:+: s ++ new ++ t) : old <:+: s ∨ old <:+: t := by
  rw [List.append_assoc] at h
  rcases List.infix_append_iff.mp h with h | h | ⟨front, back, rfl, hfront, hback⟩
  · exact .inl h
  · rcases List.infix_append_iff.mp h with h | h | ⟨front, back, rfl, hfront, hback⟩
    · rw [eq_nil_of_apart apart h.subset (List.Subset.refl old)]
      exact .inr List.nil_infix
    · exact .inr h
    · rw [eq_nil_of_apart apart hfront.subset (List.subset_append_left front back)]
      exact .inr hback.isInfix
  · obtain ⟨c, cs, rfl⟩ := List.exists_cons_of_ne_nil hnew
    rcases List.prefix_cons_iff.mp hback with rfl | ⟨rest, rfl, -⟩
    · rw [List.append_nil]
      exact .inl hfront.isInfix
    · exact absurd (List.mem_append_right front (List.mem_cons_self ..))
        (apart c (List.mem_cons_self ..))

theorem not_infix_joinWith (hold : old ≠ []) (hnew : new ≠ []) (apart : ∀ c ∈ new, c ∉ old)
    (free : ∀ piece ∈ pieces, ¬ old <:+: piece) : ¬ old <:+: joinWith new pieces := by
  induction pieces with
  | nil => exact fun h => hold (List.eq_nil_of_infix_nil h)
  | cons piece pieces ih =>
    obtain ⟨hpiece, hpieces⟩ := List.forall_mem_cons.mp free
    by_cases hne : pieces = []
    · rw [hne, joinWith_singleton]
      exact hpiece
    · rw [joinWith_cons new piece hne]
      exact fun h => (infix_of_infix_around hnew apart h).elim hpiece (ih hpieces)

/-- **Nothing is left to replace**, and nothing new arises. -/
theorem not_infix_replace (hold : old ≠ []) (hnew : new ≠ []) (apart : ∀ c ∈ new, c ∉ old)
    (t : Text) : ¬ old <:+: replace old new t := by
  obtain ⟨pieces, h⟩ := exists_isCut hold t
  rw [h.replace_eq hold]
  exact not_infix_joinWith hold hnew apart h.free

end Text
end HelpPages
