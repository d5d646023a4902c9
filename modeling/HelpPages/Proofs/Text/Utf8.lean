import HelpPages.Text.Utf8

/-! # UTF-8 and back

A text of characters has as many bytes as its width says (`length_toUtf8`) and comes back from
them (`ofUtf8?_toUtf8`), and bytes never give anything but characters
(`isEncodable_of_ofUtf8?`).  The bytes of a character are read by the class of the first one, so
there is one case for each number of bytes.  All bytes of a longer form are above those of
ASCII, so a byte of ASCII in the bytes of a text is a character of it (`mem_of_byte`).
-/
namespace HelpPages
namespace Text

/-! ### Single bytes -/

/-- A byte made of a number lies where the number does. -/
theorem byte_mem (n : Nat) (low high : UInt8) (hlow : low.toNat ≤ n)
    (hhigh : n < high.toNat) :
    (low ≤ UInt8.ofNat n ∧ UInt8.ofNat n < high) ∧ (UInt8.ofNat n).toNat = n := by
  have hbyte : (UInt8.ofNat n).toNat = n := by
    rw [UInt8.toNat_ofNat', Nat.mod_eq_of_lt (Nat.lt_trans hhigh high.toNat_lt)]
  rw [UInt8.le_iff_toNat_le, UInt8.lt_iff_toNat_lt, hbyte]
  exact ⟨⟨hlow, hhigh⟩, rfl⟩

/-- The six bits of a continuation byte come back from it. -/
theorem continuation?_byte {n : Nat} (h : n < 0x40) :
    continuation? (UInt8.ofNat (n + 0x80)) = some n := by
  obtain ⟨hrange, hbyte⟩ := byte_mem (n + 0x80) 0x80 0xC0 (Nat.le_add_left _ _)
    (Nat.add_lt_add_right h 0x80)
  rw [continuation?, if_pos hrange, hbyte, Nat.add_sub_cancel]

/-- A character is known by its number. -/
theorem scalar?_toNat {least : Nat} {c : Char} (h : least ≤ c.toNat) :
    scalar? least c.toNat = some (.char c) := by
  rw [scalar?, if_pos ⟨h, c.valid⟩]
  exact congrArg some (CodePoint.ofNat_toNat (.char c))

theorem isChar_ofNat {number : Nat} (h : number.isValidChar) :
    (CodePoint.ofNat number).isChar = true := by
  have hwhole : ¬ (0xD800 ≤ number ∧ number < 0xE000) := by
    simp only [Nat.isValidChar] at h
    omega
  rw [CodePoint.ofNat, dif_neg hwhole, if_pos h]
  rfl

/-! ### Characters by the number of their bytes -/

section Bytes

variable {a b c d : UInt8} {k m n : Nat} {x : CodePoint} (rest : List UInt8)

/-- A character in front of the text of some bytes. -/
theorem bind_cons (x : CodePoint) (more : Option Text) :
    (more.bind fun t => some (x :: t)) = more.map (x :: ·) := by
  cases more <;> rfl

theorem ofUtf8?_one (ha : a < 0x80) (hx : CodePoint.ofNat a.toNat = x) :
    ofUtf8? (a :: rest) = (ofUtf8? rest).map (x :: ·) := by
  have hread : ofUtf8? (a :: rest) =
      (ofUtf8? rest).bind fun t => some (CodePoint.ofNat a.toNat :: t) := by
    rw [ofUtf8?.eq_def]
    exact if_pos ha
  rw [hread, hx, bind_cons]

theorem ofUtf8?_two (ha : 0xC0 ≤ a ∧ a < 0xE0) (hb : continuation? b = some k)
    (hx : scalar? 0x80 ((a.toNat - 0xC0) * 0x40 + k) = some x) :
    ofUtf8? (a :: b :: rest) = (ofUtf8? rest).map (x :: ·) := by
  have hone : ¬ a < 0x80 := UInt8.not_lt.mpr (UInt8.le_trans (by decide) ha.1)
  have hread : ofUtf8? (a :: b :: rest) = (continuation? b).bind fun k =>
      (scalar? 0x80 ((a.toNat - 0xC0) * 0x40 + k)).bind fun x =>
        (ofUtf8? rest).bind fun t => some (x :: t) := by
    rw [ofUtf8?.eq_def]
    exact (if_neg hone).trans (if_pos ha)
  rw [hread, hb, Option.bind_some, hx, Option.bind_some, bind_cons]

theorem ofUtf8?_three (ha : 0xE0 ≤ a ∧ a < 0xF0) (hb : continuation? b = some k)
    (hc : continuation? c = some m)
    (hx : scalar? 0x800 ((a.toNat - 0xE0) * 0x1000 + k * 0x40 + m) = some x) :
    ofUtf8? (a :: b :: c :: rest) = (ofUtf8? rest).map (x :: ·) := by
  have hone : ¬ a < 0x80 := UInt8.not_lt.mpr (UInt8.le_trans (by decide) ha.1)
  have htwo : ¬ (0xC0 ≤ a ∧ a < 0xE0) := fun h => UInt8.not_lt.mpr ha.1 h.2
  have hread : ofUtf8? (a :: b :: c :: rest) = (continuation? b).bind fun k =>
      (continuation? c).bind fun m =>
        (scalar? 0x800 ((a.toNat - 0xE0) * 0x1000 + k * 0x40 + m)).bind fun x =>
          (ofUtf8? rest).bind fun t => some (x :: t) := by
    rw [ofUtf8?.eq_def]
    exact (if_neg hone).trans ((if_neg htwo).trans (if_pos ha))
  rw [hread, hb, Option.bind_some, hc, Option.bind_some, hx, Option.bind_some, bind_cons]

theorem ofUtf8?_four (ha : 0xF0 ≤ a ∧ a < 0xF8) (hb : continuation? b = some k)
    (hc : continuation? c = some m) (hd : continuation? d = some n)
    (hx : scalar? 0x10000 ((a.toNat - 0xF0) * 0x40000 + k * 0x1000 + m * 0x40 + n) = some x) :
    ofUtf8? (a :: b :: c :: d :: rest) = (ofUtf8? rest).map (x :: ·) := by
  have hone : ¬ a < 0x80 := UInt8.not_lt.mpr (UInt8.le_trans (by decide) ha.1)
  have htwo : ¬ (0xC0 ≤ a ∧ a < 0xE0) := fun h =>
    UInt8.not_lt.mpr (UInt8.le_trans (by decide) ha.1) h.2
  have hthree : ¬ (0xE0 ≤ a ∧ a < 0xF0) := fun h => UInt8.not_lt.mpr ha.1 h.2
  have hread : ofUtf8? (a :: b :: c :: d :: rest) = (continuation? b).bind fun k =>
      (continuation? c).bind fun m => (continuation? d).bind fun n =>
        (scalar? 0x10000 ((a.toNat - 0xF0) * 0x40000 + k * 0x1000 + m * 0x40 + n)).bind fun x =>
          (ofUtf8? rest).bind fun t => some (x :: t) := by
    rw [ofUtf8?.eq_def]
    exact (if_neg hone).trans ((if_neg htwo).trans ((if_neg hthree).trans (if_pos ha)))
  rw [hread, hb, Option.bind_some, hc, Option.bind_some, hd, Option.bind_some, hx,
    Option.bind_some, bind_cons]

/-- The bytes of a character are read for themselves. -/
theorem ofUtf8?_encodeChar_append (x : Char) :
    ofUtf8? (String.utf8EncodeChar x ++ rest) = (ofUtf8? rest).map (.char x :: ·) := by
  have hval : x.val.toNat = x.toNat := rfl
  have hlimit : x.toNat < 0x110000 := by
    have hvalid := x.valid
    simp only [UInt32.isValidChar, Nat.isValidChar, hval] at hvalid
    omega
  have hsix : ∀ n : Nat, continuation? (UInt8.ofNat (n % 0x40 + 0x80)) = some (n % 0x40) :=
    fun n => continuation?_byte (Nat.mod_lt _ (by decide))
  simp only [String.utf8EncodeChar, hval]
  split
  · next hone =>
    obtain ⟨⟨-, hclass⟩, hbyte⟩ := byte_mem x.toNat 0 0x80 (Nat.zero_le _)
      (Nat.lt_succ_of_le hone)
    refine ofUtf8?_one rest hclass ?_
    rw [hbyte]
    exact CodePoint.ofNat_toNat (.char x)
  · split
    · next hone htwo =>
      obtain ⟨hclass, hbyte⟩ := byte_mem (x.toNat / 64 % 0x20 + 0xc0) 0xC0 0xE0
        (Nat.le_add_left _ _) (Nat.add_lt_add_right (Nat.mod_lt _ (by decide)) 0xC0)
      have hcode : x.toNat / 64 % 0x20 * 0x40 + x.toNat % 0x40 = x.toNat := by omega
      refine ofUtf8?_two rest hclass (hsix _) ?_
      rw [hbyte, Nat.add_sub_cancel, hcode]
      exact scalar?_toNat (by omega)
    · split
      · next hone htwo hthree =>
        obtain ⟨hclass, hbyte⟩ := byte_mem (x.toNat / 4096 % 0x10 + 0xe0) 0xE0 0xF0
          (Nat.le_add_left _ _) (Nat.add_lt_add_right (Nat.mod_lt _ (by decide)) 0xE0)
        have hcode : x.toNat / 4096 % 0x10 * 0x1000 + x.toNat / 64 % 0x40 * 0x40
            + x.toNat % 0x40 = x.toNat := by omega
        refine ofUtf8?_three rest hclass (hsix _) (hsix _) ?_
        rw [hbyte, Nat.add_sub_cancel, hcode]
        exact scalar?_toNat (by omega)
      · next hone htwo hthree =>
        obtain ⟨hclass, hbyte⟩ := byte_mem (x.toNat / 262144 % 0x08 + 0xf0) 0xF0 0xF8
          (Nat.le_add_left _ _) (Nat.add_lt_add_right (Nat.mod_lt _ (by decide)) 0xF0)
        have hcode : x.toNat / 262144 % 0x08 * 0x40000 + x.toNat / 4096 % 0x40 * 0x1000
            + x.toNat / 64 % 0x40 * 0x40 + x.toNat % 0x40 = x.toNat := by omega
        refine ofUtf8?_four rest hclass (hsix _) (hsix _) (hsix _) ?_
        rw [hbyte, Nat.add_sub_cancel, hcode]
        exact scalar?_toNat (by omega)

end Bytes

/-- The bytes of a character are above ASCII unless it has only one. -/
theorem toNat_of_mem_utf8EncodeChar {x : Char} {b : UInt8} (h : b ∈ String.utf8EncodeChar x)
    (ascii : b.toNat < 0x80) : b.toNat = x.toNat := by
  have hval : x.val.toNat = x.toNat := rfl
  -- a byte that is made of some bits above `low` is not below it
  have habove : ∀ bits low : Nat, 0x80 ≤ low → bits + low < 0x100 →
      b ≠ UInt8.ofNat (bits + low) := by
    rintro bits low hlow hhigh rfl
    rw [UInt8.toNat_ofNat', Nat.mod_eq_of_lt hhigh] at ascii
    omega
  have hsix : ∀ n : Nat, b ≠ UInt8.ofNat (n % 0x40 + 0x80) := fun n =>
    habove _ _ (Nat.le_refl _) (by omega)
  simp only [String.utf8EncodeChar, hval] at h
  split at h
  · next hone =>
    rw [List.mem_singleton.mp h, UInt8.toNat_ofNat', Nat.mod_eq_of_lt (by omega)]
  · split at h
    · have hfirst := habove (x.toNat / 64 % 0x20) 0xc0 (by decide) (by omega)
      simp_all
    · split at h
      · have hfirst := habove (x.toNat / 4096 % 0x10) 0xe0 (by decide) (by omega)
        simp_all
      · have hfirst := habove (x.toNat / 262144 % 0x08) 0xf0 (by decide) (by omega)
        simp_all

/-! ### Whole texts -/

theorem toUtf8_append (s t : Text) : toUtf8 (s ++ t) = toUtf8 s ++ toUtf8 t :=
  List.flatMap_append

/-- A text that can be encoded has as many bytes as its width says. -/
theorem length_toUtf8 {t : Text} (h : t.isEncodable = true) : (toUtf8 t).length = width t := by
  induction t with
  | nil => rfl
  | cons c t ih =>
    rw [isEncodable, List.all_cons, Bool.and_eq_true] at h
    cases c with
    | char x =>
      rw [toUtf8, List.flatMap_cons, List.length_append, ← toUtf8, ih h.2]
      exact congrArg (· + width t) (String.length_utf8EncodeChar x)
    | half distance => cases h.1

/-- A byte of ASCII in the bytes of a text is a character of the text. -/
theorem mem_of_byte {x : Char} (ascii : x.toNat < 0x80) {t : Text}
    (h : UInt8.ofNat x.toNat ∈ toUtf8 t) : CodePoint.char x ∈ t := by
  obtain ⟨c, hc, hbyte⟩ := List.mem_flatMap.mp h
  cases c with
  | char y =>
    have hx : (UInt8.ofNat x.toNat).toNat = x.toNat := by
      rw [UInt8.toNat_ofNat', Nat.mod_eq_of_lt (by omega)]
    have hsame := toNat_of_mem_utf8EncodeChar hbyte (by omega)
    rwa [show x = y from Char.toNat_inj.mp (hx.symm.trans hsame)]
  | half distance => cases hbyte

/-- **A text of characters comes back from its bytes.** -/
theorem ofUtf8?_toUtf8 {t : Text} (h : t.isEncodable = true) : ofUtf8? (toUtf8 t) = some t := by
  induction t with
  | nil => rfl
  | cons c t ih =>
    rw [isEncodable, List.all_cons, Bool.and_eq_true] at h
    cases c with
    | char x =>
      show ofUtf8? (String.utf8EncodeChar x ++ toUtf8 t) = _
      rw [ofUtf8?_encodeChar_append, ih h.2]
      rfl
    | half distance => cases h.1

/-! ### Bytes that are read -/

/-- What is known by its number is a character with this number. -/
theorem exists_char_of_scalar? {least code : Nat} {c : CodePoint}
    (h : scalar? least code = some c) :
    ∃ x : Char, c = .char x ∧ x.toNat = code ∧ least ≤ code := by
  rw [scalar?] at h
  split at h
  · next hvalid =>
    have hlimit : code < 0x110000 := by
      have hchar := hvalid.2
      simp only [Nat.isValidChar] at hchar
      omega
    obtain rfl := Option.some.inj h
    have hwhole := isChar_ofNat hvalid.2
    have hnumber := CodePoint.toNat_ofNat hlimit
    cases hx : CodePoint.ofNat code with
    | char x =>
      rw [hx] at hnumber
      exact ⟨x, rfl, hnumber, hvalid.1⟩
    | half distance =>
      rw [hx] at hwhole
      cases hwhole
  · cases h

/-- Six bits are those of a continuation byte. -/
theorem toNat_of_continuation? {b : UInt8} {k : Nat} (h : continuation? b = some k) :
    b.toNat = k + 0x80 ∧ k < 0x40 := by
  rw [continuation?] at h
  split at h
  · next hrange =>
    have hlow : 0x80 ≤ b.toNat := UInt8.le_iff_toNat_le.mp hrange.1
    have hhigh : b.toNat < 0xC0 := UInt8.lt_iff_toNat_lt.mp hrange.2
    obtain rfl := Option.some.inj h
    omega
  · cases h

/-- A byte is known by its number. -/
theorem ofNat_eq_of_toNat {b : UInt8} {n : Nat} (h : n = b.toNat) : UInt8.ofNat n = b := by
  rw [h, UInt8.ofNat_toNat]

/-! The bytes that a character is read from are its own. -/

section

variable {a b c d : UInt8} {k m n : Nat} {x : Char}

theorem encodeChar_one (ha : a.toNat < 0x80) (hx : x.toNat = a.toNat) :
    String.utf8EncodeChar x = [a] := by
  have hval : x.val.toNat = x.toNat := rfl
  simp only [String.utf8EncodeChar, hval]
  rw [if_pos (by omega), ofNat_eq_of_toNat hx]

theorem encodeChar_two (ha : 0xC0 ≤ a.toNat ∧ a.toNat < 0xE0) (hb : continuation? b = some k)
    (hx : x.toNat = (a.toNat - 0xC0) * 0x40 + k) (least : 0x80 ≤ x.toNat) :
    String.utf8EncodeChar x = [a, b] := by
  have hval : x.val.toNat = x.toNat := rfl
  obtain ⟨hb, hk⟩ := toNat_of_continuation? hb
  simp only [String.utf8EncodeChar, hval]
  rw [if_neg (by omega), if_pos (by omega)]
  congr 1
  · exact ofNat_eq_of_toNat (by omega)
  · congr 1
    exact ofNat_eq_of_toNat (by omega)

theorem encodeChar_three (ha : 0xE0 ≤ a.toNat ∧ a.toNat < 0xF0) (hb : continuation? b = some k)
    (hc : continuation? c = some m)
    (hx : x.toNat = (a.toNat - 0xE0) * 0x1000 + k * 0x40 + m) (least : 0x800 ≤ x.toNat) :
    String.utf8EncodeChar x = [a, b, c] := by
  have hval : x.val.toNat = x.toNat := rfl
  obtain ⟨hb, hk⟩ := toNat_of_continuation? hb
  obtain ⟨hc, hm⟩ := toNat_of_continuation? hc
  simp only [String.utf8EncodeChar, hval]
  rw [if_neg (by omega), if_neg (by omega), if_pos (by omega)]
  congr 1
  · exact ofNat_eq_of_toNat (by omega)
  · congr 1
    · exact ofNat_eq_of_toNat (by omega)
    · congr 1
      exact ofNat_eq_of_toNat (by omega)

theorem encodeChar_four (ha : 0xF0 ≤ a.toNat ∧ a.toNat < 0xF8) (hb : continuation? b = some k)
    (hc : continuation? c = some m) (hd : continuation? d = some n)
    (hx : x.toNat = (a.toNat - 0xF0) * 0x40000 + k * 0x1000 + m * 0x40 + n)
    (least : 0x10000 ≤ x.toNat) : String.utf8EncodeChar x = [a, b, c, d] := by
  have hval : x.val.toNat = x.toNat := rfl
  obtain ⟨hb, hk⟩ := toNat_of_continuation? hb
  obtain ⟨hc, hm⟩ := toNat_of_continuation? hc
  obtain ⟨hd, hn⟩ := toNat_of_continuation? hd
  simp only [String.utf8EncodeChar, hval]
  rw [if_neg (by omega), if_neg (by omega), if_neg (by omega)]
  congr 1
  · exact ofNat_eq_of_toNat (by omega)
  · congr 1
    · exact ofNat_eq_of_toNat (by omega)
    · congr 1
      · exact ofNat_eq_of_toNat (by omega)
      · congr 1
        exact ofNat_eq_of_toNat (by omega)

end

/-- **Bytes that are read as a text are its bytes.** -/
theorem toUtf8_of_ofUtf8? {bytes : List UInt8} {t : Text} (h : ofUtf8? bytes = some t) :
    toUtf8 t = bytes := by
  fun_induction ofUtf8? bytes generalizing t with
  | case1 => cases h; rfl
  | case2 a rest ha ih =>
    obtain ⟨u, hu, he⟩ := Option.bind_eq_some_iff.mp h
    cases he
    have hbyte : a.toNat < 0x80 := UInt8.lt_iff_toNat_lt.mp ha
    have hchar : scalar? 0 a.toNat = some (CodePoint.ofNat a.toNat) :=
      if_pos ⟨Nat.zero_le _, Or.inl (by omega)⟩
    obtain ⟨x, hx, hnumber, -⟩ := exists_char_of_scalar? hchar
    rw [hx]
    show String.utf8EncodeChar x ++ toUtf8 u = _
    rw [encodeChar_one hbyte hnumber, ih hu]
    rfl
  | case3 a _ ha b rest ih =>
    obtain ⟨k, hb, h⟩ := Option.bind_eq_some_iff.mp h
    obtain ⟨c, hc, h⟩ := Option.bind_eq_some_iff.mp h
    obtain ⟨u, hu, he⟩ := Option.bind_eq_some_iff.mp h
    cases he
    obtain ⟨x, rfl, hnumber, hleast⟩ := exists_char_of_scalar? hc
    show String.utf8EncodeChar x ++ toUtf8 u = _
    rw [encodeChar_two ⟨UInt8.le_iff_toNat_le.mp ha.1, UInt8.lt_iff_toNat_lt.mp ha.2⟩ hb hnumber
      (hnumber ▸ hleast), ih hu]
    rfl
  | case5 a _ _ ha b c rest ih =>
    obtain ⟨k, hb, h⟩ := Option.bind_eq_some_iff.mp h
    obtain ⟨m, hc, h⟩ := Option.bind_eq_some_iff.mp h
    obtain ⟨d, hd, h⟩ := Option.bind_eq_some_iff.mp h
    obtain ⟨u, hu, he⟩ := Option.bind_eq_some_iff.mp h
    cases he
    obtain ⟨x, rfl, hnumber, hleast⟩ := exists_char_of_scalar? hd
    show String.utf8EncodeChar x ++ toUtf8 u = _
    rw [encodeChar_three ⟨UInt8.le_iff_toNat_le.mp ha.1, UInt8.lt_iff_toNat_lt.mp ha.2⟩ hb hc
      hnumber (hnumber ▸ hleast), ih hu]
    rfl
  | case7 a _ _ _ ha b c d rest ih =>
    obtain ⟨k, hb, h⟩ := Option.bind_eq_some_iff.mp h
    obtain ⟨m, hc, h⟩ := Option.bind_eq_some_iff.mp h
    obtain ⟨n, hd, h⟩ := Option.bind_eq_some_iff.mp h
    obtain ⟨e, he, h⟩ := Option.bind_eq_some_iff.mp h
    obtain ⟨u, hu, hdone⟩ := Option.bind_eq_some_iff.mp h
    cases hdone
    obtain ⟨x, rfl, hnumber, hleast⟩ := exists_char_of_scalar? he
    show String.utf8EncodeChar x ++ toUtf8 u = _
    rw [encodeChar_four ⟨UInt8.le_iff_toNat_le.mp ha.1, UInt8.lt_iff_toNat_lt.mp ha.2⟩ hb hc hd
      hnumber (hnumber ▸ hleast), ih hu]
    rfl
  | case4 | case6 | case8 | case9 => cases h

/-- A character from its number, in front of the text of some bytes. -/
theorem isEncodable_of_scalar? {least code : Nat} {more : Option Text} {t : Text}
    (hmore : ∀ {u : Text}, more = some u → u.isEncodable = true)
    (h : ((scalar? least code).bind fun c => more.bind fun u => some (c :: u)) = some t) :
    t.isEncodable = true := by
  obtain ⟨c, hc, h⟩ := Option.bind_eq_some_iff.mp h
  obtain ⟨u, hu, he⟩ := Option.bind_eq_some_iff.mp h
  cases he
  obtain ⟨x, rfl, -⟩ := exists_char_of_scalar? hc
  have hrest : u.isEncodable = true := hmore hu
  exact hrest

/-- Bytes give characters only. -/
theorem isEncodable_of_ofUtf8? {bytes : List UInt8} {t : Text} (h : ofUtf8? bytes = some t) :
    t.isEncodable = true := by
  fun_induction ofUtf8? bytes generalizing t with
  | case1 => cases h; rfl
  | case2 a rest ha ih =>
    obtain ⟨u, hu, he⟩ := Option.bind_eq_some_iff.mp h
    cases he
    have hbyte : a.toNat < 0x80 := UInt8.lt_iff_toNat_lt.mp ha
    rw [isEncodable, List.all_cons, isChar_ofNat (Or.inl (by omega))]
    exact ih hu
  | case3 a _ _ b rest ih =>
    obtain ⟨k, -, h⟩ := Option.bind_eq_some_iff.mp h
    exact isEncodable_of_scalar? ih h
  | case5 a _ _ _ b c rest ih =>
    obtain ⟨k, -, h⟩ := Option.bind_eq_some_iff.mp h
    obtain ⟨m, -, h⟩ := Option.bind_eq_some_iff.mp h
    exact isEncodable_of_scalar? ih h
  | case7 a _ _ _ _ b c d rest ih =>
    obtain ⟨k, -, h⟩ := Option.bind_eq_some_iff.mp h
    obtain ⟨m, -, h⟩ := Option.bind_eq_some_iff.mp h
    obtain ⟨n, -, h⟩ := Option.bind_eq_some_iff.mp h
    exact isEncodable_of_scalar? ih h
  | case4 | case6 | case8 | case9 => cases h

/-- **Bytes are read as a text if they are the bytes of a text of characters.** -/
theorem ofUtf8?_eq_some_iff {bytes : List UInt8} {t : Text} :
    ofUtf8? bytes = some t ↔ t.isEncodable = true ∧ toUtf8 t = bytes := by
  refine ⟨fun h => ⟨isEncodable_of_ofUtf8? h, toUtf8_of_ofUtf8? h⟩, ?_⟩
  rintro ⟨encodable, rfl⟩
  exact ofUtf8?_toUtf8 encodable

/-- Bytes that are those of no text are not read. -/
theorem ofUtf8?_eq_none_iff {bytes : List UInt8} :
    ofUtf8? bytes = none ↔ ∀ t : Text, t.isEncodable = true → toUtf8 t ≠ bytes := by
  rw [Option.eq_none_iff_forall_ne_some]
  simp only [ne_eq, ofUtf8?_eq_some_iff, not_and]

end Text
end HelpPages
