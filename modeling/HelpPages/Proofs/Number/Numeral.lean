import HelpPages.Number.Integer
import HelpPages.Proofs.Text.Trim

/-! # Numerals

A text is read as an integer exactly if it denotes one (`Integer.ofText?_eq_ok_iff`): it
consists of digits of any script, with single underscores between some of them, behind at
most one sign and between blanks, and it has not too many digits.  The text that is written
for an integer denotes it (`Integer.denotes_toText`).
-/
namespace HelpPages
namespace Integer

/-! ### The digits of a numeral -/

/-- A text of digits with these values, and with single underscores between some of them. -/
inductive IsDigits : Text → List Nat → Prop where
  | last {c : CodePoint} {d : Nat} (digit : Text.digitValue? c = some d) : IsDigits [c] [d]
  | next {c : CodePoint} {d : Nat} {t : Text} {ds : List Nat} (digit : Text.digitValue? c = some d)
      (rest : IsDigits t ds) : IsDigits (c :: t) (d :: ds)
  | grouped {c : CodePoint} {d : Nat} {t : Text} {ds : List Nat}
      (digit : Text.digitValue? c = some d) (rest : IsDigits t ds) :
      IsDigits (c :: '_' :: t) (d :: ds)

/-- What may stand in front of the digits, and whether it makes the number negative. -/
inductive IsSign : Text → Bool → Prop where
  | none : IsSign [] false
  | plus : IsSign ['+'] false
  | minus : IsSign ['-'] true

/-- The digits of all scripts, number by number. -/
def digitNumbers : List Nat :=
  ('0'.toNat :: Text.zeroDigits).flatMap fun z => (List.range 10).map (z + ·)

variable {c : CodePoint} {d : Nat} {t : Text} {ds : List Nat} {n : Int}

theorem mem_digitNumbers (h : Text.digitValue? c = some d) : c.toNat ∈ digitNumbers := by
  have inTen (z : Nat) (hz : z ∈ '0'.toNat :: Text.zeroDigits) (hlow : z ≤ c.toNat)
      (hhigh : c.toNat < z + 10) : c.toNat ∈ digitNumbers :=
    List.mem_flatMap.mpr ⟨z, hz, List.mem_map.mpr
      ⟨c.toNat - z, List.mem_range.mpr (by omega), by omega⟩⟩
  rw [Text.digitValue?] at h
  split at h
  next hdigit =>
    cases c with
    | half distance => cases hdigit
    | char c =>
      obtain ⟨hlow, hhigh⟩ := Char.isDigit_iff_toNat.mp hdigit
      exact inTen '0'.toNat List.mem_cons_self hlow (Nat.lt_succ_of_le hhigh)
  · obtain ⟨z, hz, -⟩ := Option.map_eq_some_iff.mp h
    have hrange := List.find?_some hz
    simp only [Bool.and_eq_true, decide_eq_true_eq] at hrange
    exact inTen z (List.mem_cons_of_mem _ (List.mem_of_find?_eq_some hz)) hrange.1 hrange.2

/-- No digit of any script is blank. -/
theorem isMargin_eq_false_of_digit (h : Text.digitValue? c = some d) : isMargin c = false := by
  have all : ∀ number ∈ digitNumbers, isMargin (.ofNat number) = false := by decide +kernel
  have hc := all _ (mem_digitNumbers h)
  rwa [CodePoint.ofNat_toNat] at hc

/-- A text of digits starts and ends with a digit. -/
theorem IsDigits.ends (h : IsDigits t ds) :
    (∃ c d, t.head? = some c ∧ Text.digitValue? c = some d) ∧
      ∃ c d, t.getLast? = some c ∧ Text.digitValue? c = some d := by
  induction h with
  | last digit => exact ⟨⟨_, _, rfl, digit⟩, _, _, rfl, digit⟩
  | @next c d t ds digit rest ih =>
    obtain ⟨-, e, f, hlast, hdigit⟩ := ih
    exact ⟨⟨_, _, rfl, digit⟩, e, f, by rw [List.getLast?_cons, hlast]; rfl, hdigit⟩
  | @grouped c d t ds digit rest ih =>
    obtain ⟨-, e, f, hlast, hdigit⟩ := ih
    refine ⟨⟨_, _, rfl, digit⟩, e, f, ?_, hdigit⟩
    rw [List.getLast?_cons, List.getLast?_cons, hlast]
    rfl

theorem IsDigits.ne_cons (h : IsDigits t ds) (hc : Text.digitValue? c = none) (rest : Text) :
    t ≠ c :: rest := by
  rintro rfl
  obtain ⟨⟨_, _, hhead, digit⟩, -⟩ := h.ends
  obtain rfl := Option.some.inj hhead
  rw [hc] at digit
  cases digit

/-- Digits to the end of a text are read as its digits. -/
theorem IsDigits.leadingDigits? (h : IsDigits t ds) : leadingDigits? t = some (ds, []) := by
  induction h with
  | last digit =>
    rw [Integer.leadingDigits?, digit]
    rfl
  | @next c d t ds digit rest ih =>
    obtain ⟨⟨e, f, hhead, digit'⟩, -⟩ := rest.ends
    cases t with
    | nil => cases hhead
    | cons e' more =>
      obtain rfl := Option.some.inj hhead
      have hne : e' ≠ '_' := fun he => rest.ne_cons (by decide) more (congrArg (· :: more) he)
      rw [Integer.leadingDigits?, digit]
      simp [ih, digit']
  | grouped digit rest ih =>
    rw [Integer.leadingDigits?, digit]
    simp [ih]

/-- What is read to the end of a text is its digits. -/
theorem isDigits_of_leadingDigits? :
    ∀ {t : Text} {ds : List Nat}, leadingDigits? t = some (ds, []) → IsDigits t ds
  | [], _, h => nomatch h
  | c :: rest, ds, h => by
    rw [leadingDigits?] at h
    obtain ⟨d, digit, h⟩ := Option.bind_eq_some_iff.mp h
    split at h
    · obtain ⟨⟨digits, left⟩, hmore, h⟩ := Option.bind_eq_some_iff.mp h
      cases h
      exact .grouped digit (isDigits_of_leadingDigits? hmore)
    · split at h
      · obtain ⟨⟨digits, left⟩, hmore, h⟩ := Option.bind_eq_some_iff.mp h
        cases h
        exact .next digit (isDigits_of_leadingDigits? hmore)
      · cases h
    · cases h
      exact .last digit

theorem leadingDigits?_eq_some_iff : leadingDigits? t = some (ds, []) ↔ IsDigits t ds :=
  ⟨isDigits_of_leadingDigits?, IsDigits.leadingDigits?⟩

/-! ### Texts of integers -/

/-- The sign is cut off a numeral. -/
theorem sign_append {s : Text} {negative : Bool} (hs : IsSign s negative) (h : IsDigits t ds) :
    sign (s ++ t) = (negative, t) := by
  cases hs with
  | plus => rfl
  | minus => rfl
  | none =>
    rw [List.nil_append, sign]
    · exact h.ne_cons (by decide)
    · exact h.ne_cons (by decide)

/-- What is cut off a text as its sign is one. -/
theorem exists_isSign (t : Text) : ∃ s, t = s ++ (sign t).2 ∧ IsSign s (sign t).1 := by
  unfold sign
  split
  · exact ⟨_, rfl, .minus⟩
  · exact ⟨_, rfl, .plus⟩
  · exact ⟨_, rfl, .none⟩

/-- The number with some digits under a sign. -/
def signed (negative : Bool) (digits : List Nat) : Int :=
  if negative then -(ofDigits digits : Int) else ofDigits digits

/-- **A text denotes an integer** if it consists of the digits of the number behind its sign,
between blanks, and not too many of them. -/
inductive Denotes : Text → Int → Prop where
  | intro {left s body right : Text} {negative : Bool} {digits : List Nat}
      (hleft : ∀ c ∈ left, isMargin c = true) (hsign : IsSign s negative)
      (hbody : IsDigits body digits) (hlength : digits.length ≤ maxDigits)
      (hright : ∀ c ∈ right, isMargin c = true) :
      Denotes (left ++ (s ++ body) ++ right) (signed negative digits)

theorem Denotes.ne_nil (h : Denotes t n) : t ≠ [] := by
  obtain ⟨-, -, hbody, -, -⟩ := h
  obtain ⟨⟨c, d, hhead, -⟩, -⟩ := hbody.ends
  have hmem := List.mem_of_mem_head? hhead
  exact List.ne_nil_of_mem (List.mem_append_left _ (List.mem_append_right _
    (List.mem_append_right _ hmem)))

/-- No blanks are trimmed off a numeral. -/
theorem trim_append {s : Text} {negative : Bool} (hs : IsSign s negative) (h : IsDigits t ds) :
    Text.trim isMargin (s ++ t) = s ++ t := by
  obtain ⟨⟨c, d, hhead, digit⟩, e, f, hlast, digit'⟩ := h.ends
  refine Text.trim_eq_self_iff.mpr ⟨?_, ?_⟩
  · intro c' hc'
    cases hs with
    | none =>
      rw [List.nil_append, hhead] at hc'
      cases hc'
      exact isMargin_eq_false_of_digit digit
    | plus =>
      cases hc'
      decide
    | minus =>
      cases hc'
      decide
  · intro c' hc'
    rw [List.getLast?_append, hlast] at hc'
    cases hc'
    exact isMargin_eq_false_of_digit digit'

/-- **Reading an integer.**  A text is read as the integer that it denotes. -/
theorem ofText?_eq_ok_iff : ofText? t = .ok n ↔ Denotes t n := by
  constructor
  · intro h
    obtain ⟨s, htrim, hs⟩ := exists_isSign (Text.trim isMargin t)
    rw [ofText?] at h
    split at h
    next negative numeral hsign =>
      rw [hsign] at htrim hs
      split at h
      · cases h
      next digits rest hdigits =>
        split at h
        · cases h
        next hlength =>
          split at h
          · cases h
          next hrest =>
            obtain rfl := not_not.mp hrest
            obtain rfl := Except.ok.inj h
            obtain ⟨right, hright, hblank⟩ :=
              Text.dropEndWhile_append_dropped isMargin (t.dropWhile isMargin)
            have ht : t = t.takeWhile isMargin ++ (s ++ numeral) ++ right := by
              rw [← htrim, Text.trim, List.append_assoc, ← hright, List.takeWhile_append_dropWhile]
            rw [ht]
            exact .intro (fun c hc => List.mem_takeWhile_imp hc) hs
              (leadingDigits?_eq_some_iff.mp hdigits) (Nat.le_of_not_lt hlength) hblank
  · rintro ⟨hleft, hs, hbody, hlength, hright⟩
    rw [ofText?, Text.trim_surrounded hleft (trim_append hs hbody) hright, sign_append hs hbody]
    simp only [hbody.leadingDigits?]
    rw [if_neg (Nat.not_lt_of_le hlength), if_neg (not_not_intro rfl)]
    rfl

/-! ### The text of an integer -/

/-- Digits of ASCII are digits. -/
theorem isDigits_ofChars {chars : List Char} (hne : chars ≠ [])
    (h : ∀ c ∈ chars, c.isDigit = true) :
    IsDigits (Text.ofChars chars) (chars.map fun c => c.toNat - '0'.toNat) := by
  induction chars with
  | nil => exact absurd rfl hne
  | cons c rest ih =>
    obtain ⟨hc, hrest⟩ := List.forall_mem_cons.mp h
    have digit : Text.digitValue? (.char c) = some (c.toNat - '0'.toNat) := if_pos hc
    cases rest with
    | nil => exact .last digit
    | cons e more => exact .next digit (ih (List.cons_ne_nil e more) hrest)

/-- The digits of a natural number make it up. -/
theorem ofDigits_toDigits (k : Nat) :
    ofDigits ((Nat.toDigits 10 k).map fun c => c.toNat - '0'.toNat) = k := by
  have h := Nat.ofDigitChars_toDigits (n := k) (show 1 < 10 by decide) (le_refl 10)
  rw [ofDigits, List.foldl_map]
  simpa only [Nat.ofDigitChars, Nat.mul_comm 10] using h

/-- The digits of a natural number behind a sign denote it or its negative. -/
theorem denotes_append_ofNat {s : Text} {negative : Bool} (hs : IsSign s negative) {k : Nat}
    (hk : k < Nat.pow 10 maxDigits) :
    Denotes (s ++ ofNat k) (if negative then -(k : Int) else k) := by
  have hbody := isDigits_ofChars Nat.toDigits_ne_nil fun c hc =>
    Nat.isDigit_of_mem_toDigits (n := k) (by decide) (le_refl 10) hc
  -- for any number of digits, since the power for this one is too large to be computed
  have hlength (digits : Nat) (h : 0 < digits) (hk : k < Nat.pow 10 digits) :
      (Nat.toDigits 10 k).length ≤ digits := (Nat.length_toDigits_le_iff (by decide) h).mpr hk
  have hdenotes : Denotes ([] ++ (s ++ ofNat k) ++ []) (signed negative _) :=
    .intro nofun hs hbody (by rw [List.length_map]; exact hlength _ (by decide) hk) nofun
  rwa [signed, ofDigits_toDigits, List.nil_append, List.append_nil] at hdenotes

/-- The text of an integer denotes it, if it has not too many digits. -/
theorem denotes_toText (h : n.natAbs < Nat.pow 10 maxDigits) : Denotes (toText n) n := by
  cases n with
  | ofNat k => exact denotes_append_ofNat .none h
  | negSucc k => exact denotes_append_ofNat .minus h

end Integer
end HelpPages
