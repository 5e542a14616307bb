import Mathlib.Algebra.Group.Nat.Defs
import MotionWatch.Decimal.Binary

/-!
# Bit patterns and exact values

Every bit pattern that is a number is given by the exact value of it.

* `Balanced`: the formats in question. `Canonical`: mantissas and exponents of their numbers.
* `exists_fields`, `encode_ofFields`: bit patterns by their fields.
* `encode_decode`: a bit pattern is given by its exact value. `canonical_of_decode`: what the value
  of one is like.
* `decode_fields`, `decode_encode`: a number of a format has a bit pattern, which is decoded as that
  number.
* `pack_unpack`: a double is what it is taken apart into.
* `toFloat_ofFloat`, `ofFloat_toFloat`: a double is given by its exact value, and has the one that
  it was made of.
-/

namespace MotionWatch.Decimal

namespace BinaryFormat

/-- How far the exponents of a format reach in both directions. -/
def reach (f : BinaryFormat) : Nat := 2 ^ (f.exponentBits - 1)

/-- The exponents of a format reach as far as its mantissas are long, but not out of all proportion
to them. -/
structure Balanced (f : BinaryFormat) : Prop where
  precision_pos : 0 < f.precision
  exponentBits_pos : 1 < f.exponentBits
  precision_le : f.precision ≤ f.reach
  reach_le : f.reach ≤ 50 * f.precision

theorem balanced_binary64 : binary64.Balanced := by constructor <;> decide

/-- A mantissa and an exponent that a number of the format has: all bits of the mantissa are used
unless the exponent is the least one. -/
structure Canonical (f : BinaryFormat) (m : Nat) (e : Int) : Prop where
  lt : m < 2 ^ f.precision
  le : f.minExponent ≤ e
  full : 2 ^ (f.precision - 1) ≤ m ∨ e = f.minExponent

variable {f : BinaryFormat}

theorem minExponent_eq (f : BinaryFormat) : f.minExponent = 3 - (f.reach : Int) - f.precision := rfl

namespace Balanced

theorem two_pow_precision (hf : f.Balanced) : 2 ^ f.precision = 2 * 2 ^ (f.precision - 1) := by
  rw [← Nat.pow_succ', Nat.succ_eq_add_one, Nat.sub_add_cancel hf.precision_pos]

theorem two_pow_exponentBits (hf : f.Balanced) : 2 ^ f.exponentBits = 2 * f.reach := by
  have hpos := hf.exponentBits_pos
  rw [reach, ← Nat.pow_succ', Nat.succ_eq_add_one, Nat.sub_add_cancel (by omega)]

theorem topField_add_one (hf : f.Balanced) : f.topField + 1 = 2 * f.reach := by
  rw [← hf.two_pow_exponentBits]
  exact Nat.sub_add_cancel (Nat.two_pow_pos _)

theorem one_lt_reach (hf : f.Balanced) : 1 < f.reach :=
  Nat.one_lt_two_pow (Nat.sub_ne_zero_of_lt hf.exponentBits_pos)

end Balanced

end BinaryFormat

namespace Binary

variable {f : BinaryFormat} {bits field fraction m : Nat} {e : Int} {negative : Bool}

/-- The number with a sign, an exponent field and the bits of the mantissa after the leading
one. -/
def ofFields (f : BinaryFormat) (negative : Bool) (field fraction : Nat) : Binary :=
  if field = f.topField then
    if fraction = 0 then .infinite negative else .nan
  else if field = 0 then .finite negative fraction f.minExponent
  else .finite negative (2 ^ (f.precision - 1) + fraction) (f.minExponent + field - 1)

/-- Every bit pattern has its fields. -/
theorem exists_fields (h : bits < 2 * 2 ^ (f.precision - 1 + f.exponentBits)) :
    ∃ negative field fraction, field ≤ f.topField ∧ fraction < 2 ^ (f.precision - 1) ∧
      bits = encode.sign f negative + field * 2 ^ (f.precision - 1) + fraction ∧
      decode f bits = ofFields f negative field fraction := by
  refine ⟨bits / 2 ^ (f.precision - 1 + f.exponentBits) % 2 == 1,
    bits / 2 ^ (f.precision - 1) % 2 ^ f.exponentBits, bits % 2 ^ (f.precision - 1),
    Nat.le_sub_one_of_lt (Nat.mod_lt _ (Nat.two_pow_pos _)), Nat.mod_lt _ (Nat.two_pow_pos _),
    ?_, rfl⟩
  have hlow := Nat.div_add_mod' bits (2 ^ (f.precision - 1))
  have hhigh := Nat.div_add_mod' (bits / 2 ^ (f.precision - 1)) (2 ^ f.exponentBits)
  have hsplit : bits / 2 ^ (f.precision - 1) / 2 ^ f.exponentBits =
      bits / 2 ^ (f.precision - 1 + f.exponentBits) := by
    rw [Nat.div_div_eq_div_mul, Nat.pow_add]
  have hsign : encode.sign f (bits / 2 ^ (f.precision - 1 + f.exponentBits) % 2 == 1) =
      bits / 2 ^ (f.precision - 1 + f.exponentBits) * 2 ^ f.exponentBits *
        2 ^ (f.precision - 1) := by
    have hlt : bits / 2 ^ (f.precision - 1 + f.exponentBits) < 2 :=
      Nat.div_lt_of_lt_mul (Nat.mul_comm .. ▸ h)
    rcases Nat.le_one_iff_eq_zero_or_eq_one.mp (Nat.le_of_lt_succ hlt) with hzero | hone
    · rw [hzero, Nat.zero_mul, Nat.zero_mul]
      rfl
    · rw [hone, Nat.one_mul, ← Nat.pow_add, Nat.add_comm]
      rfl
  rw [hsign, ← Nat.add_mul, ← hsplit, hhigh, hlow]

theorem decode_eq_nan_iff : decode f bits = .nan ↔
    bits / 2 ^ (f.precision - 1) % 2 ^ f.exponentBits = f.topField ∧
      bits % 2 ^ (f.precision - 1) ≠ 0 := by
  show ofFields f _ (bits / 2 ^ (f.precision - 1) % 2 ^ f.exponentBits)
    (bits % 2 ^ (f.precision - 1)) = .nan ↔ _
  unfold ofFields
  split
  · next htop =>
    split
    · next hzero => exact iff_of_false nofun fun h => h.2 hzero
    · next hzero => exact iff_of_true rfl ⟨htop, hzero⟩
  · next htop =>
    refine iff_of_false ?_ fun h => htop h.1
    split <;> nofun

theorem encode_finite (hm : m < 2 ^ f.precision) : encode f (.finite negative m e) =
    if m < 2 ^ (f.precision - 1) then encode.sign f negative + m
    else if f.topField ≤ (e - f.minExponent + 1).toNat then
      encode.sign f negative + f.topField * 2 ^ (f.precision - 1)
    else encode.sign f negative + (e - f.minExponent + 1).toNat * 2 ^ (f.precision - 1) +
      (m - 2 ^ (f.precision - 1)) := by
  unfold encode
  simp only [Nat.pow_eq, if_neg (Nat.ne_of_lt hm)]

/-- A mantissa that is one bit too long is halved. -/
theorem encode_carry (hf : f.Balanced) : encode f (.finite negative (2 ^ f.precision) e) =
    encode f (.finite negative (2 ^ (f.precision - 1)) (e + 1)) := by
  have hprecision := hf.two_pow_precision
  have hpos := Nat.two_pow_pos (f.precision - 1)
  have hhalf : 2 ^ f.precision / 2 = 2 ^ (f.precision - 1) := by omega
  rw [encode_finite (m := 2 ^ (f.precision - 1)) (by omega)]
  unfold encode
  simp only [Nat.pow_eq, ↓reduceIte, hhalf]

theorem encode_ofFields (hf : f.Balanced) (hfield : field ≤ f.topField)
    (hfraction : fraction < 2 ^ (f.precision - 1))
    (hnan : ofFields f negative field fraction ≠ .nan) :
    encode f (ofFields f negative field fraction) =
      encode.sign f negative + field * 2 ^ (f.precision - 1) + fraction := by
  have hprecision := hf.two_pow_precision
  unfold ofFields at hnan ⊢
  by_cases htop : field = f.topField
  · rw [if_pos htop] at hnan ⊢
    by_cases hzero : fraction = 0
    · rw [if_pos hzero, htop, hzero]
      rfl
    · exact absurd (if_neg hzero) hnan
  · rw [if_neg htop]
    by_cases hzero : field = 0
    · rw [if_pos hzero, encode_finite (by omega), if_pos hfraction, hzero, Nat.zero_mul]
      rfl
    · have hencoded : (f.minExponent + field - 1 - f.minExponent + 1).toNat = field := by omega
      rw [if_neg hzero, encode_finite (by omega), if_neg (by omega), hencoded, if_neg (by omega),
        Nat.add_sub_cancel_left]

/-- **A bit pattern is given by its exact value**, if it has one. -/
theorem encode_decode (hf : f.Balanced) (h : bits < 2 * 2 ^ (f.precision - 1 + f.exponentBits))
    (hnan : decode f bits ≠ .nan) : encode f (decode f bits) = bits := by
  obtain ⟨negative, field, fraction, hfield, hfraction, hbits, hdecode⟩ := exists_fields h
  rw [hdecode] at hnan ⊢
  rw [encode_ofFields hf hfield hfraction hnan, hbits]

theorem canonical_of_decode (hf : f.Balanced)
    (h : bits < 2 * 2 ^ (f.precision - 1 + f.exponentBits))
    (hfinite : decode f bits = .finite negative m e) :
    f.Canonical m e ∧ e + f.precision ≤ f.reach := by
  obtain ⟨_, field, fraction, hfield, hfraction, -, hdecode⟩ := exists_fields h
  have hprecision := hf.two_pow_precision
  have htop := hf.topField_add_one
  have hmin := f.minExponent_eq
  have hreach := hf.one_lt_reach
  rw [hdecode] at hfinite
  unfold ofFields at hfinite
  by_cases htop : field = f.topField
  · rw [if_pos htop] at hfinite
    split at hfinite <;> cases hfinite
  · rw [if_neg htop] at hfinite
    by_cases hzero : field = 0
    · rw [if_pos hzero] at hfinite
      cases hfinite
      exact ⟨⟨by omega, Int.le_refl _, .inr rfl⟩, by omega⟩
    · rw [if_neg hzero] at hfinite
      cases hfinite
      exact ⟨⟨by omega, by omega, .inl (Nat.le_add_right ..)⟩, by omega⟩

/-- The fields of a bit pattern, from the last one on. -/
theorem fields_of_sum {p q : Nat} (sign : Nat) (hfraction : fraction < p) (hfield : field < q) :
    ((sign * q + field) * p + fraction) % p = fraction ∧
      ((sign * q + field) * p + fraction) / p % q = field ∧
      ((sign * q + field) * p + fraction) / (p * q) = sign := by
  have hp : 0 < p := Nat.zero_lt_of_lt hfraction
  have hq : 0 < q := Nat.zero_lt_of_lt hfield
  have hhigh : ((sign * q + field) * p + fraction) / p = sign * q + field := by
    rw [Nat.mul_comm, Nat.mul_add_div hp, Nat.div_eq_of_lt hfraction, Nat.add_zero]
  refine ⟨?_, ?_, ?_⟩
  · rw [Nat.add_comm, Nat.add_mul_mod_self_right, Nat.mod_eq_of_lt hfraction]
  · rw [hhigh, Nat.add_comm, Nat.add_mul_mod_self_right, Nat.mod_eq_of_lt hfield]
  · rw [← Nat.div_div_eq_div_mul, hhigh, Nat.mul_comm, Nat.mul_add_div hq, Nat.div_eq_of_lt hfield,
      Nat.add_zero]

theorem sign_eq (f : BinaryFormat) (negative : Bool) : encode.sign f negative =
    negative.toNat * 2 ^ f.exponentBits * 2 ^ (f.precision - 1) := by
  cases negative with
  | false => rw [Bool.toNat_false, Nat.zero_mul, Nat.zero_mul]; rfl
  | true => rw [Bool.toNat_true, Nat.one_mul, ← Nat.pow_add, Nat.add_comm]; rfl

/-- A bit pattern is decoded by its fields. -/
theorem decode_fields (negative : Bool) (hfield : field ≤ f.topField)
    (hfraction : fraction < 2 ^ (f.precision - 1)) :
    decode f (encode.sign f negative + field * 2 ^ (f.precision - 1) + fraction) =
      ofFields f negative field fraction := by
  have hlt : field < 2 ^ f.exponentBits :=
    Nat.lt_of_le_pred (Nat.two_pow_pos f.exponentBits) hfield
  obtain ⟨hlow, hmiddle, hhigh⟩ := fields_of_sum negative.toNat hfraction hlt
  rw [sign_eq, ← Nat.add_mul]
  unfold decode
  simp only [Nat.pow_eq, Nat.pow_add, hlow, hmiddle, hhigh]
  cases negative <;> rfl

/-- A bit pattern has a sign, an exponent and a mantissa, and no more. -/
theorem fields_lt (hfield : field ≤ f.topField) (hfraction : fraction < 2 ^ (f.precision - 1)) :
    encode.sign f negative + field * 2 ^ (f.precision - 1) + fraction <
      2 * 2 ^ (f.precision - 1 + f.exponentBits) := by
  have hlt : field < 2 ^ f.exponentBits :=
    Nat.lt_of_le_pred (Nat.two_pow_pos f.exponentBits) hfield
  have hrow : (field + 1) * 2 ^ (f.precision - 1) ≤ 2 ^ f.exponentBits * 2 ^ (f.precision - 1) :=
    Nat.mul_le_mul_right _ hlt
  rw [Nat.succ_mul] at hrow
  have hsign : encode.sign f negative ≤ 2 ^ f.exponentBits * 2 ^ (f.precision - 1) := by
    rw [sign_eq, Nat.mul_assoc]
    exact Nat.le_trans (Nat.mul_le_mul_right _ negative.toNat_le) (Nat.le_of_eq (Nat.one_mul _))
  rw [Nat.pow_add, Nat.mul_comm (2 ^ (f.precision - 1))]
  omega

/-- The fields of a number. -/
theorem exists_fields_of_canonical (negative : Bool) (hf : f.Balanced) (h : f.Canonical m e)
    (hle : e + f.precision ≤ f.reach) :
    ∃ field fraction, field ≤ f.topField ∧ fraction < 2 ^ (f.precision - 1) ∧
      encode f (.finite negative m e) =
        encode.sign f negative + field * 2 ^ (f.precision - 1) + fraction ∧
      ofFields f negative field fraction = .finite negative m e := by
  have hlt := h.lt
  have hleast := h.le
  have hmin := f.minExponent_eq
  have htop := hf.topField_add_one
  have hreach := hf.one_lt_reach
  have hprecision := hf.two_pow_precision
  rw [encode_finite hlt]
  by_cases hsmall : m < 2 ^ (f.precision - 1)
  · refine ⟨0, m, Nat.zero_le _, hsmall, ?_, ?_⟩
    · rw [if_pos hsmall, Nat.zero_mul]
      rfl
    · obtain rfl := h.full.resolve_left (Nat.not_le.mpr hsmall)
      rw [ofFields, if_neg (by omega), if_pos rfl]
  · obtain ⟨field, hfield⟩ : ∃ field : Nat, (e - f.minExponent + 1).toNat = field := ⟨_, rfl⟩
    refine ⟨field, m - 2 ^ (f.precision - 1), by omega, by omega, ?_, ?_⟩
    · rw [if_neg hsmall, hfield, if_neg (by omega)]
    · have hexponent : f.minExponent + (field : Int) - 1 = e := by omega
      rw [ofFields, if_neg (by omega), if_neg (by omega), hexponent,
        Nat.add_sub_cancel' (Nat.not_lt.mp hsmall)]

/-- **A number of a format has a bit pattern**, which is decoded as that number. -/
theorem decode_encode (negative : Bool) (hf : f.Balanced) (h : f.Canonical m e)
    (hle : e + f.precision ≤ f.reach) :
    decode f (encode f (.finite negative m e)) = .finite negative m e ∧
      encode f (.finite negative m e) < 2 * 2 ^ (f.precision - 1 + f.exponentBits) := by
  obtain ⟨field, fraction, hfield, hfraction, hencode, hvalue⟩ :=
    exists_fields_of_canonical negative hf h hle
  rw [hencode, decode_fields negative hfield hfraction, hvalue]
  exact ⟨rfl, fields_lt hfield hfraction⟩

end Binary

/-! ## Doubles -/

section Doubles

open Float.Model.UnpackedFloat
open Float.Model (Format UnpackedFloat)

theorem toNat_append_eq {n k : Nat} (x : BitVec n) (y : BitVec k) :
    (x ++ y).toNat = x.toNat * 2 ^ k + y.toNat := by
  rw [BitVec.toNat_append, Nat.shiftLeft_eq, Nat.mul_comm, Nat.two_pow_add_eq_or_of_lt y.isLt]

theorem toBitVec_ofBitVec (b : BitVec 1) : (Sign.ofBitVec b).toBitVec = b := by
  revert b
  decide

theorem toNat_unpackMantissa (b : BitVec Format.binary64.numBits) :
    (unpackMantissa b).toNat = b.toNat % 2 ^ 52 := by
  simp [unpackMantissa]

theorem toNat_unpackExponent (b : BitVec Format.binary64.numBits) :
    (unpackExponent b).toNat = b.toNat / 2 ^ 52 % 2 ^ 11 := by
  simp [unpackExponent, Nat.shiftRight_eq_div_pow]

theorem toNat_unpackSign (b : BitVec Format.binary64.numBits) :
    (unpackSign b).toNat = b.toNat / 2 ^ 63 % 2 := by
  show (BitVec.cast _ (BitVec.extractLsb 63 63 b)).toNat = _
  simp [Nat.shiftRight_eq_div_pow]

/-- A double is its sign, its exponent and its mantissa. -/
theorem packComponents_unpack (b : BitVec Format.binary64.numBits) :
    packComponents Format.binary64 (Sign.ofBitVec (unpackSign b)) (unpackExponent b)
      (unpackMantissa b) = b := by
  have hlt : b.toNat < 2 ^ 64 := b.isLt
  refine BitVec.eq_of_toNat_eq ?_
  unfold packComponents
  rw [toBitVec_ofBitVec, toNat_append_eq, toNat_append_eq, toNat_unpackMantissa,
    toNat_unpackExponent, toNat_unpackSign]
  show (b.toNat / 2 ^ 63 % 2 * 2 ^ 11 + b.toNat / 2 ^ 52 % 2 ^ 11) * 2 ^ 52 + b.toNat % 2 ^ 52 =
    b.toNat
  omega

/-- A number without a leading one. -/
theorem pack_least {s : Sign} {m : Nat} (hm : 0 < m) (hlt : m < 2 ^ 52) :
    pack Format.binary64 (.finite s m (-1074) hm) =
      packComponents Format.binary64 s 0#11 (BitVec.ofNat 52 m) := by
  have hlog : m.log2 < 52 := (Nat.log2_lt (Nat.ne_of_gt hm)).mpr hlt
  unfold pack
  dsimp only
  rw [if_neg (by decide)]
  exact if_neg (show ¬m.log2 + 1 = 53 by omega)

/-- A number with a leading one. -/
theorem pack_full {s : Sign} {m field : Nat} {hm : 0 < m} (hfull : 2 ^ 52 ≤ m) (hlt : m < 2 ^ 53)
    (hfield : field < 2047) : pack Format.binary64 (.finite s m (field - 1075) hm) =
      packComponents Format.binary64 s (BitVec.ofNat 11 field) (BitVec.ofNat 52 m) := by
  have hlog : m.log2 = 52 := (Nat.log2_eq_iff (by omega)).mpr ⟨hfull, hlt⟩
  have hbiased : ((field : Int) - 1075 + Format.binary64.exponentBias +
      Format.binary64.mantissaBitsWithoutImplicit).toNat = field := by
    show ((field : Int) - 1075 + 1023 + 52).toNat = field
    omega
  unfold pack
  dsimp only
  rw [hbiased, if_neg (show ¬2048 ≤ field + 1 by omega)]
  exact if_pos (congrArg (· + 1) hlog)

/-- **A double is what it is taken apart into.** -/
theorem pack_unpack {b : BitVec Format.binary64.numBits} (h : Format.binary64.Valid b) :
    pack Format.binary64 (unpack Format.binary64 b) = b := by
  have hparts := packComponents_unpack b
  have hfraction : (unpackMantissa b).toNat < 2 ^ 52 := (unpackMantissa b).isLt
  unfold unpack
  dsimp only
  by_cases htop : unpackExponent b = -1#11
  · rw [if_pos htop]
    by_cases hzero : unpackMantissa b = 0#52
    · rw [htop, hzero] at hparts
      rw [if_pos hzero]
      exact hparts
    · rw [if_neg hzero]
      exact (h.eq_packedNaN htop hzero).symm
  · rw [if_neg htop]
    by_cases hleast : unpackExponent b = 0#11
    · rw [hleast] at hparts
      rw [if_pos hleast]
      by_cases hzero : unpackMantissa b = 0#52
      · rw [hzero] at hparts
        rw [dif_pos hzero]
        exact hparts
      · rw [dif_neg hzero, hleast]
        refine (pack_least _ hfraction).trans ?_
        rw [BitVec.ofNat_toNat, BitVec.setWidth_eq]
        exact hparts
    · have hfull : (1#1 ++ unpackMantissa b).toNat = 2 ^ 52 + (unpackMantissa b).toNat := by
        rw [toNat_append_eq]
        exact congrArg (· + (unpackMantissa b).toNat) (Nat.one_mul _)
      have hfield : (unpackExponent b).toNat < 2047 := by
        have hlt : (unpackExponent b).toNat < 2048 := (unpackExponent b).isLt
        have hne : (unpackExponent b).toNat ≠ 2047 := fun h => htop (BitVec.eq_of_toNat_eq h)
        omega
      have hmantissa : BitVec.ofNat 52 (1#1 ++ unpackMantissa b).toNat = unpackMantissa b := by
        refine BitVec.eq_of_toNat_eq ?_
        rw [BitVec.toNat_ofNat, hfull]
        show _ = (unpackMantissa b).toNat
        omega
      rw [if_neg hleast]
      refine (pack_full (by omega) (by omega) hfield).trans ?_
      rw [hmantissa, BitVec.ofNat_toNat, BitVec.setWidth_eq]
      exact hparts

theorem isNaN_unpack_iff {b : BitVec Format.binary64.numBits} :
    (unpack Format.binary64 b).isNaN = true ↔
      unpackExponent b = -1#11 ∧ unpackMantissa b ≠ 0#52 := by
  unfold unpack
  dsimp only
  by_cases htop : unpackExponent b = -1#11
  · rw [if_pos htop]
    by_cases hzero : unpackMantissa b = 0#52
    · rw [if_pos hzero]
      exact iff_of_false nofun fun h => h.2 hzero
    · rw [if_neg hzero]
      exact iff_of_true rfl ⟨htop, hzero⟩
  · rw [if_neg htop]
    refine iff_of_false ?_ fun h => htop h.1
    by_cases hleast : unpackExponent b = 0#11
    · rw [if_pos hleast]
      by_cases hzero : unpackMantissa b = 0#52
      · rw [dif_pos hzero]
        nofun
      · rw [dif_neg hzero]
        nofun
    · rw [if_neg hleast]
      nofun

/-- The doubles that are no number. -/
theorem ofFloat_eq_nan_iff {x : Float} : ofFloat x = .nan ↔ x.isNaN = true := by
  rw [ofFloat, Binary.decode_eq_nan_iff]
  refine (and_congr ?_ (not_congr ?_)).trans isNaN_unpack_iff.symm
  · rw [← BitVec.toNat_inj, toNat_unpackExponent]
    rfl
  · rw [← BitVec.toNat_inj, toNat_unpackMantissa]
    rfl

/-- **A double is given by its exact value**, if it has one. -/
theorem toFloat_ofFloat {x : Float} (h : x.isNaN = false) : toFloat (ofFloat x) = x := by
  have hnan : ofFloat x ≠ .nan := by
    rw [Ne, ofFloat_eq_nan_iff, h]
    nofun
  have hbits : (ofFloat x).encode .binary64 = x.toBits.toNat :=
    Binary.encode_decode BinaryFormat.balanced_binary64 x.toBits.toNat_lt hnan
  rw [toFloat, hbits]
  obtain ⟨⟨bits, hvalid⟩⟩ := x
  show Float.ofModel (Float.Model.ofBits (UInt64.ofNat bits.toNat)) = _
  rw [UInt64.ofNat_toNat]
  congr 1
  exact (Float.Model.mk.injEq ..).mpr (congrArg UInt64.ofBitVec (pack_unpack hvalid))

theorem toFloat_of_finite {x : Float} {negative : Bool} {m : Nat} {e : Int}
    (h : ofFloat x = .finite negative m e) : toFloat (.finite negative m e) = x := by
  rw [← h]
  refine toFloat_ofFloat (Bool.eq_false_iff.mpr fun hnan => ?_)
  rw [← ofFloat_eq_nan_iff, h] at hnan
  cases hnan

theorem canonical_ofFloat {x : Float} {negative : Bool} {m : Nat} {e : Int}
    (h : ofFloat x = .finite negative m e) :
    BinaryFormat.binary64.Canonical m e ∧ e + 53 ≤ 1024 :=
  Binary.canonical_of_decode BinaryFormat.balanced_binary64 x.toBits.toNat_lt h

/-- A bit pattern that is a number is the one of its double. -/
theorem toBits_ofBits {bits : UInt64} (h : Binary.decode .binary64 bits.toNat ≠ .nan) :
    (Float.ofBits bits).toBits = bits := by
  refine congrArg UInt64.ofBitVec (pack_unpack ⟨fun htop hfraction => ?_⟩)
  refine absurd (Binary.decode_eq_nan_iff.mpr ⟨?_, ?_⟩) h
  · rw [← BitVec.toNat_inj, toNat_unpackExponent] at htop
    exact htop
  · rw [Ne, ← BitVec.toNat_inj, toNat_unpackMantissa] at hfraction
    exact hfraction

/-- **A double has the exact value that it was made of.** -/
theorem ofFloat_toFloat {negative : Bool} {m : Nat} {e : Int}
    (h : BinaryFormat.binary64.Canonical m e) (hle : e + 53 ≤ 1024) :
    ofFloat (toFloat (.finite negative m e)) = .finite negative m e := by
  obtain ⟨hdecode, hlt⟩ := Binary.decode_encode negative
    BinaryFormat.balanced_binary64 h hle
  have hbits : (UInt64.ofNat ((Binary.finite negative m e).encode .binary64)).toNat =
      (Binary.finite negative m e).encode .binary64 := UInt64.toNat_ofNat_of_lt' hlt
  rw [ofFloat, toFloat, toBits_ofBits, hbits, hdecode]
  rw [hbits, hdecode]
  nofun

end Doubles

end MotionWatch.Decimal
