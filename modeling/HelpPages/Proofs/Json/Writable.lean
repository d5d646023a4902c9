import HelpPages.Json
import HelpPages.Proofs.Outcome
import Mathlib.Algebra.Ring.Nat
import Mathlib.Data.List.TakeWhile

/-! # Documents hold values with texts

A numeral with too many digits is a fault of a document, so every integer that is read from one
can be written again.  Tokens that are no faults hold values with texts (`mem_tokens`), the
automaton keeps to such values from one token to the next (`State.IsWritable.step`), and so the
value of a whole document has a text (`isWritable_read`).
-/
namespace HelpPages

namespace Value

theorem areWritable_iff {items : List Value} :
    areWritable items = true ↔ ∀ v ∈ items, v.isWritable = true := by
  induction items with
  | nil => exact ⟨fun _ => nofun, fun _ => by rw [areWritable]⟩
  | cons v items ih => rw [areWritable, Bool.and_eq_true, ih, List.forall_mem_cons]

theorem haveWritable_iff {entries : Entries Value} :
    haveWritable entries = true ↔ ∀ entry ∈ entries, entry.2.isWritable = true := by
  induction entries with
  | nil => exact ⟨fun _ => nofun, fun _ => by rw [haveWritable]⟩
  | cons entry entries ih =>
    obtain ⟨key, v⟩ := entry
    rw [haveWritable, Bool.and_eq_true, ih, List.forall_mem_cons]

end Value

namespace Entries

variable {α : Type}

/-- What is put into entries is one of them, and nothing else is new. -/
theorem eq_or_mem_of_mem_put {name : Text} {value : α} {entries : Entries α} {entry : Text × α}
    (h : entry ∈ entries.put name value) : entry.2 = value ∨ entry ∈ entries := by
  induction entries with
  | nil => exact .inl (congrArg Prod.snd (List.mem_singleton.mp h))
  | cons old rest ih =>
    obtain ⟨key, v⟩ := old
    rw [put] at h
    split at h
    · rcases List.mem_cons.mp h with h | h
      · exact .inl (congrArg Prod.snd h)
      · exact .inr (List.mem_cons_of_mem _ h)
    · rcases List.mem_cons.mp h with h | h
      · exact .inr (List.mem_cons.mpr (.inl h))
      · exact (ih h).imp_right (List.mem_cons_of_mem _)

end Entries

namespace Integer

/-- Digits make up less than a one with a zero for each of them. -/
theorem ofDigits_lt {digits : List Nat} (h : ∀ d ∈ digits, d < 10) :
    ofDigits digits < 10 ^ digits.length := by
  -- with a number in front of the digits, since the digits are read from the front
  have bound (n : Nat) :
      digits.foldl (fun n d => n * 10 + d) n + 1 ≤ (n + 1) * 10 ^ digits.length := by
    induction digits generalizing n with
    | nil => exact Nat.le_of_eq (Nat.mul_one _).symm
    | cons d digits ih =>
      obtain ⟨hd, hdigits⟩ := List.forall_mem_cons.mp h
      calc digits.foldl (fun n d => n * 10 + d) (n * 10 + d) + 1
          ≤ (n * 10 + d + 1) * 10 ^ digits.length := ih hdigits _
        _ ≤ (n + 1) * 10 * 10 ^ digits.length := Nat.mul_le_mul_right _ (by omega)
        _ = (n + 1) * 10 ^ (digits.length + 1) := by rw [Nat.mul_assoc, ← Nat.pow_succ']
  have hzero := bound 0
  rwa [Nat.zero_add, Nat.one_mul] at hzero

/-- A number of no more digits than a numeral may have can be written. -/
theorem isWritable_of_digits {digits : List Nat} (h : ∀ d ∈ digits, d < 10) (ne : digits ≠ [])
    (length : digits.length ≤ maxDigits) {i : Int} (hi : i.natAbs = ofDigits digits) :
    isWritable i = true := by
  have hwidth : (Nat.toDigits 10 (ofDigits digits)).length ≤ digits.length :=
    (Nat.length_toDigits_le_iff (by decide) (List.length_pos_iff.mpr ne)).mpr (ofDigits_lt h)
  rw [isWritable, hi, ofNat, Text.ofChars, List.length_map]
  exact decide_eq_true (Nat.le_trans hwidth length)

end Integer

namespace Json

/-! ### Tokens -/

/-- The token holds no value, or one that has a text. -/
def Token.IsWritable : Token → Prop
  | .value v => v.isWritable = true
  | _ => True

/-- The digits at the start of a text are digits. -/
theorem lt_ten_of_mem_spanDigits {t : Text} {d : Nat} (h : d ∈ (spanDigits t).1) : d < 10 := by
  obtain ⟨c, hc, rfl⟩ := List.mem_map.mp h
  have hdigit : c.isDigit = true := List.mem_takeWhile_imp hc
  cases c with
  | half distance => cases hdigit
  | char c =>
    obtain ⟨hlow, hhigh⟩ := Char.isDigit_iff_toNat.mp hdigit
    exact Nat.sub_lt_left_of_lt_add hlow (Nat.lt_succ_of_le hhigh)

/-- A number is no integer, or its numeral is not too long. -/
theorem isWritable_of_number? {t rest : Text} {token : Token}
    (h : number? t = some (token, rest)) : token.IsWritable := by
  unfold number? at h
  split at h
  next negative numeral hsign =>
  split at h
  next digits more hdigits =>
  -- the digits before the point, be they a lone zero or a row of digits
  have hten : ∀ d ∈ digits, d < 10 := by
    split at hdigits
    · cases hdigits
      exact List.forall_mem_singleton.mpr (by decide)
    · intro d hd
      exact lt_ten_of_mem_spanDigits (t := numeral) (by rwa [hdigits])
  split at h
  · cases h
  next ne =>
    dsimp only at h
    split at h
    · split at h
      · cases h
        trivial
      next length =>
        cases h
        refine Integer.isWritable_of_digits hten ne (Nat.le_of_not_lt length) ?_
        split
        · exact (Int.natAbs_neg _).trans (Int.natAbs_natCast _)
        · exact Int.natAbs_natCast _
    · cases h
      rfl

/-- The values that are words are no integers. -/
theorem isWritable_of_mem_wordValues :
    ∀ entry ∈ wordValues, entry.2.isWritable = true := by
  decide

theorem isWritable_nextToken (t : Text) : (nextToken t).1.IsWritable := by
  unfold nextToken
  split
  any_goals trivial
  · split <;> trivial
  · split
    next hword => exact isWritable_of_mem_wordValues _ (List.mem_of_find?_eq_some hword)
    · cases hnumber : number? t with
      | none => trivial
      | some found => exact isWritable_of_number? hnumber

/-- The values among the tokens of a text have texts. -/
theorem isWritable_of_mem_tokens (t : Text) : ∀ token ∈ tokens t, token.IsWritable := by
  fun_induction tokens t with
  | case1 => nofun
  | case2 c rest blank ih => exact ih
  | case3 c rest blank token after htoken ih =>
    refine List.forall_mem_cons.mpr ⟨?_, ih⟩
    have hnext := isWritable_nextToken (c :: rest)
    rwa [htoken] at hnext

/-! ### Documents -/

/-- What was read of an open list or map has texts. -/
def Frame.IsWritable : Frame → Prop
  | .list items => ∀ v ∈ items, v.isWritable = true
  | .map entries _ => ∀ entry ∈ entries, entry.2.isWritable = true

/-- All that was read has texts. -/
def State.IsWritable : State → Prop
  | .value frames | .firstItem frames | .firstKey frames => ∀ frame ∈ frames, frame.IsWritable
  | .key entries frames | .colon entries _ frames =>
    (∀ entry ∈ entries, entry.2.isWritable = true) ∧ ∀ frame ∈ frames, frame.IsWritable
  | .after v frames => v.isWritable = true ∧ ∀ frame ∈ frames, frame.IsWritable

theorem isWritable_onValue {depth : Nat} {frames : List Frame} {token : Token} {after : State}
    (h : State.onValue depth frames token = .ok after)
    (hframes : ∀ frame ∈ frames, frame.IsWritable)
    (htoken : token.IsWritable) : after.IsWritable := by
  cases token with
  | value v => cases h; exact ⟨htoken, hframes⟩
  | text t => cases h; exact ⟨rfl, hframes⟩
  | openList =>
    obtain ⟨-, h⟩ := ite_eq_iff.mp h |>.resolve_right (by rintro ⟨-, h⟩; cases h)
    cases h
    exact List.forall_mem_cons.mpr ⟨nofun, hframes⟩
  | openMap =>
    obtain ⟨-, h⟩ := ite_eq_iff.mp h |>.resolve_right (by rintro ⟨-, h⟩; cases h)
    cases h
    exact hframes
  | closeList | closeMap | comma | colon | fault => cases h

/-- A map stays one of values with texts as its next value is put in. -/
theorem forall_mem_put {entries : Entries Value} {v : Value} (name : Text)
    (hentries : ∀ entry ∈ entries, entry.2.isWritable = true) (hv : v.isWritable = true) :
    ∀ entry ∈ entries.put name v, entry.2.isWritable = true := by
  intro entry hentry
  rcases Entries.eq_or_mem_of_mem_put hentry with heq | hmem
  · rw [heq]
    exact hv
  · exact hentries entry hmem

/-- **One token.**  The automaton keeps to values with texts. -/
theorem State.IsWritable.step {depth : Nat} {state after : State} {token : Token}
    (hstate : state.IsWritable) (htoken : token.IsWritable)
    (h : State.step depth state token = .ok after) : after.IsWritable := by
  unfold State.step at h
  split at h
  case h_1 => exact isWritable_onValue h hstate htoken
  case h_3 => exact isWritable_onValue h hstate htoken
  case h_12 => cases h
  all_goals cases h
  case h_2 => exact ⟨Value.areWritable_iff.mpr nofun, (List.forall_mem_cons.mp hstate).2⟩
  case h_4 => exact ⟨Value.haveWritable_iff.mpr nofun, hstate⟩
  case h_5 => exact ⟨nofun, hstate⟩
  case h_6 => exact hstate
  case h_7 => exact List.forall_mem_cons.mpr hstate
  -- a value behind which its list or map goes on, or is closed
  all_goals
    obtain ⟨hv, hframes⟩ := hstate
    obtain ⟨hframe, hrest⟩ := List.forall_mem_cons.mp hframes
  case h_8 => exact List.forall_mem_cons.mpr ⟨List.forall_mem_cons.mpr ⟨hv, hframe⟩, hrest⟩
  case h_9 =>
    refine ⟨Value.areWritable_iff.mpr fun item hitem => ?_, hrest⟩
    rcases List.mem_cons.mp (List.mem_reverse.mp hitem) with rfl | hmem
    · exact hv
    · exact hframe item hmem
  case h_10 => exact ⟨forall_mem_put _ hframe hv, hrest⟩
  case h_11 => exact ⟨Value.haveWritable_iff.mpr (forall_mem_put _ hframe hv), hrest⟩

/-- **Many tokens.**  The automaton keeps to values with texts on its way through a document. -/
theorem State.IsWritable.run {depth : Nat} {state after : State} {tokens : List Token}
    (hstate : state.IsWritable) (htokens : ∀ token ∈ tokens, token.IsWritable)
    (h : tokens.foldlM (State.step depth) state = .ok after) : after.IsWritable := by
  induction tokens generalizing state with
  | nil =>
    cases h
    exact hstate
  | cons token tokens ih =>
    obtain ⟨htoken, hrest⟩ := List.forall_mem_cons.mp htokens
    obtain ⟨middle, hstep, hrun⟩ := bind_eq_ok_iff.mp h
    exact ih (hstate.step htoken hstep) hrest hrun

/-- **A value that is read from a document has a text.** -/
theorem isWritable_read {depth : Nat} {t : Text} {v : Value} (h : read depth t = .ok v) :
    v.isWritable = true := by
  obtain ⟨state, hrun, hend⟩ := bind_eq_ok_iff.mp h
  have hstart : State.IsWritable (.value []) := nofun
  have hstate := hstart.run (isWritable_of_mem_tokens t) hrun
  split at hend
  · cases hend
    exact hstate.1
  · cases hend

end Json
end HelpPages
