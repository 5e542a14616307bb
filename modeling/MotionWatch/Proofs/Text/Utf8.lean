import MotionWatch.Text.Utf8

/-!
# Texts as bytes and back

The bytes of a text are read as this text: every character goes on until it is complete, so there
are no replacement characters.

* `utf8_eq_flatMap`: the bytes of a text are those of its characters.
* `decodeFrom_lead`, `decodeFrom_continue`, `decodeFrom_last`: reading one byte of a character.
* `decodeFrom_utf8EncodeChar`: the bytes of one character are read as this character.
* `decodeLossy_utf8`: the same for a text.
* `utf8?_utf8`: they are also well-formed, so a reader that replaces nothing accepts them.
-/

namespace MotionWatch.Text

variable {c : Char} {b : UInt8} {bytes : List UInt8} {p : Pending}

theorem utf8_eq_flatMap (s : String) : utf8 s = s.toList.flatMap String.utf8EncodeChar := by
  conv => lhs; rw [← String.ofList_toList (s := s)]
  unfold utf8
  rw [String.toUTF8_eq_toByteArray, String.toByteArray_ofList]
  exact List.toList_data_toByteArray

/-! ## Bytes that continue a character -/

theorem decodeFrom_lead (h : beginChar b = ([], some p)) :
    decodeFrom none (b :: bytes) = decodeFrom (some p) bytes := by
  show (beginChar b).1 ++ decodeFrom (beginChar b).2 bytes = _
  rw [h]
  rfl

theorem decodeFrom_continue (hleast : p.least ≤ b.toNat) (hgreatest : b.toNat ≤ p.greatest)
    (howed : 1 < p.owed) : decodeFrom (some p) (b :: bytes) =
      decodeFrom (some ⟨64 * p.value + (b.toNat - 0x80), p.owed - 1, 0x80, 0xBF⟩) bytes := by
  show (feedByte (some p) b).1 ++ decodeFrom (feedByte (some p) b).2 bytes = _
  unfold feedByte
  dsimp only
  rw [if_pos ⟨hleast, hgreatest⟩, if_neg (Nat.not_le.mpr howed)]
  rfl

theorem decodeFrom_last (hleast : p.least ≤ b.toNat) (hgreatest : b.toNat ≤ p.greatest)
    (howed : p.owed = 1) : decodeFrom (some p) (b :: bytes) =
      .ofNat (64 * p.value + (b.toNat - 0x80)) :: decodeFrom none bytes := by
  show (feedByte (some p) b).1 ++ decodeFrom (feedByte (some p) b).2 bytes = _
  unfold feedByte
  dsimp only
  rw [if_pos ⟨hleast, hgreatest⟩, if_pos (Nat.le_of_eq howed)]
  rfl

/-! ## Bytes of a character -/

theorem toNat_ofNat_of_lt {n : Nat} (h : n < 256) : (UInt8.ofNat n).toNat = n :=
  UInt8.toNat_ofNat_of_lt' h

/-- A byte that continues a character has 6 bits of it. -/
theorem toNat_ofNat_six (n : Nat) : (UInt8.ofNat (n % 64 + 128)).toNat = n % 64 + 128 :=
  toNat_ofNat_of_lt (by omega)

theorem beginChar_two {n : Nat} (hb : b.toNat = n + 0xC0) (hle : 2 ≤ n) (hlt : n < 32) :
    beginChar b = ([], some ⟨n, 1, 0x80, 0xBF⟩) := by
  unfold beginChar
  dsimp only
  rw [hb, if_neg (by omega), if_neg (by omega), if_pos (by omega), Nat.add_sub_cancel]

theorem beginChar_three {n : Nat} (hb : b.toNat = n + 0xE0) (hlt : n < 16) :
    beginChar b = ([], some ⟨n, 2, if n = 0 then 0xA0 else 0x80,
      if n = 13 then 0x9F else 0xBF⟩) := by
  unfold beginChar
  dsimp only
  rw [hb, if_neg (by omega), if_neg (by omega), if_neg (by omega), if_pos (by omega),
    Nat.add_sub_cancel]
  simp

theorem beginChar_four {n : Nat} (hb : b.toNat = n + 0xF0) (hlt : n < 5) :
    beginChar b = ([], some ⟨n, 3, if n = 0 then 0x90 else 0x80,
      if n = 4 then 0x8F else 0xBF⟩) := by
  unfold beginChar
  dsimp only
  rw [hb, if_neg (by omega), if_neg (by omega), if_neg (by omega), if_neg (by omega),
    if_pos (by omega), Nat.add_sub_cancel]
  simp

/-- **The bytes of a character are read as this character.** -/
theorem decodeFrom_utf8EncodeChar (c : Char) (bytes : List UInt8) :
    decodeFrom none (String.utf8EncodeChar c ++ bytes) = c :: decodeFrom none bytes := by
  have hself : Char.ofNat c.val.toNat = c := Char.ofNat_toNat c
  have hvalid : c.val.toNat < 0xD800 ∨ 0xDFFF < c.val.toNat ∧ c.val.toNat < 0x110000 := c.valid
  fun_cases String.utf8EncodeChar c with
  | case1 v hv =>
    have hbyte : (UInt8.ofNat v).toNat = v := toNat_ofNat_of_lt (by omega)
    have hbegin : beginChar (.ofNat v) = ([c], none) := by
      unfold beginChar
      dsimp only
      rw [hbyte, if_pos (by omega), hself]
    show (beginChar (.ofNat v)).1 ++ decodeFrom (beginChar (.ofNat v)).2 bytes = _
    rw [hbegin]
    rfl
  | case2 v hv hv' =>
    have hlead : (UInt8.ofNat (v / 64 % 32 + 192)).toNat = v / 64 + 192 := by
      rw [toNat_ofNat_of_lt (by omega)]
      omega
    have hlast := toNat_ofNat_six v
    rw [List.cons_append, decodeFrom_lead (beginChar_two hlead (by omega) (by omega)),
      List.cons_append, decodeFrom_last (by dsimp only; omega) (by dsimp only; omega) rfl]
    dsimp only
    rw [show 64 * _ + _ = v by omega, hself]
    rfl
  | case3 v hv hv' hv'' =>
    have hlead : (UInt8.ofNat (v / 4096 % 16 + 224)).toNat = v / 4096 + 224 := by
      rw [toNat_ofNat_of_lt (by omega)]
      omega
    have hnext := toNat_ofNat_six (v / 64)
    have hlast := toNat_ofNat_six v
    -- The code points that are no characters are between these two bounds.
    have hleast : (if v / 4096 = 0 then 0xA0 else 0x80) ≤
        (UInt8.ofNat (v / 64 % 64 + 128)).toNat := by
      rw [hnext]
      split <;> omega
    have hgreatest : (UInt8.ofNat (v / 64 % 64 + 128)).toNat ≤
        if v / 4096 = 13 then 0x9F else 0xBF := by
      rw [hnext]
      split <;> omega
    rw [List.cons_append, decodeFrom_lead (beginChar_three hlead (by omega)), List.cons_append,
      decodeFrom_continue hleast hgreatest Nat.one_lt_two, List.cons_append,
      decodeFrom_last (by dsimp only; omega) (by dsimp only; omega) rfl]
    dsimp only
    rw [show 64 * _ + _ = v by omega, hself]
    rfl
  | case4 v hv hv' hv'' =>
    have hlead : (UInt8.ofNat (v / 262144 % 8 + 240)).toNat = v / 262144 + 240 := by
      rw [toNat_ofNat_of_lt (by omega)]
      omega
    have hnext := toNat_ofNat_six (v / 4096)
    have hthird := toNat_ofNat_six (v / 64)
    have hlast := toNat_ofNat_six v
    have hleast : (if v / 262144 = 0 then 0x90 else 0x80) ≤
        (UInt8.ofNat (v / 4096 % 64 + 128)).toNat := by
      rw [hnext]
      split <;> omega
    have hgreatest : (UInt8.ofNat (v / 4096 % 64 + 128)).toNat ≤
        if v / 262144 = 4 then 0x8F else 0xBF := by
      rw [hnext]
      split <;> omega
    rw [List.cons_append, decodeFrom_lead (beginChar_four hlead (by omega)), List.cons_append,
      decodeFrom_continue hleast hgreatest (by decide : 1 < 3),
      List.cons_append,
      decodeFrom_continue (by dsimp only; omega) (by dsimp only; omega) Nat.one_lt_two,
      List.cons_append, decodeFrom_last (by dsimp only; omega) (by dsimp only; omega) rfl]
    dsimp only
    rw [show 64 * _ + _ = v by omega, hself]
    rfl

/-! ## Texts -/

theorem decodeLossy_flatMap (cs : List Char) :
    decodeLossy (cs.flatMap String.utf8EncodeChar) = cs := by
  induction cs with
  | nil => rfl
  | cons c cs ih =>
    rw [List.flatMap_cons, decodeLossy, decodeFrom_utf8EncodeChar]
    exact congrArg (c :: ·) ih

/-- **The bytes of a text are read as this text.** -/
theorem decodeLossy_utf8 (s : String) : decodeLossy (utf8 s) = s.toList := by
  rw [utf8_eq_flatMap, decodeLossy_flatMap]

/-- The bytes of a text are well-formed. -/
theorem utf8?_utf8 (s : String) : utf8? (utf8 s) = some s := by
  show String.fromUTF8? s.toUTF8 = some s
  rw [String.fromUTF8?, String.toUTF8_eq_toByteArray, dif_pos s.isValidUTF8]
  rfl

end MotionWatch.Text
