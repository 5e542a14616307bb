import Mathlib.Algebra.Group.Nat.Defs
import MotionWatch.Proofs.Decimal.Binary
import MotionWatch.Worker.Pace

/-!
# Rates that are too low

The period of a rate is its reciprocal as a double. A rate of a round in `2 ^ 64` seconds, or of
fewer, has no period that can be expressed, although it is a rate like any other.

* `Normal`: mantissa and exponent of a double that is not zero. `normal_unpack`: every double is
  made like that.
* `exists_roundWithAccuracy`: a quotient is rounded to the next double or the one before.
  `exists_reciprocal`: what becomes of a reciprocal, and when it is `2 ^ 64` or more.
* `ofFloat_pack`: the exact value of a double that was computed.
* `periodOf_eq_unbounded_iff`: which rates have no period.
-/

namespace MotionWatch

open Decimal Float.Model.UnpackedFloat
open Float.Model (Format totalExponent UnpackedFloat)

/-! ## Mantissas and exponents -/

/-- Mantissa and exponent of a double: all bits of the mantissa are used unless the exponent is the
least one. -/
structure Normal (m : Nat) (e : Int) : Prop where
  lt : m < 2 ^ 53
  le : -1074 ≤ e
  full : 2 ^ 52 ≤ m ∨ e = -1074

section Mantissas

variable {m : Nat} {e : Int}

theorem log2_le_of_lt (hm : m < 2 ^ 53) : m.log2 ≤ 52 := by
  by_cases hz : m = 0
  · rw [hz]
    decide
  · have h := (Nat.log2_lt hz).mpr hm
    omega

theorem log2_eq_of_full (hm : m < 2 ^ 53) (hfull : 2 ^ 52 ≤ m) : m.log2 = 52 :=
  (Nat.log2_eq_iff (by omega)).mpr ⟨hfull, hm⟩

theorem targetExponent_binary64 (x : Int) :
    Format.binary64.targetExponent x = max (x - 53) (-1074) := rfl

/-- The exponent of a double is the one that rounding aims at. -/
theorem Normal.targetExponent_eq (h : Normal m e) :
    Format.binary64.targetExponent (totalExponent m e) = e := by
  have hlt := log2_le_of_lt h.lt
  have hle := h.le
  have hlog : m.log2 = 52 ∨ e = -1074 := h.full.imp_left (log2_eq_of_full h.lt)
  simp only [targetExponent_binary64, totalExponent]
  omega

/-- A mantissa that is one too great is halved. -/
theorem targetExponent_carry (he : -1074 ≤ e) :
    Format.binary64.targetExponent (totalExponent (2 ^ 53) e) = e + 1 := by
  have hlog : (2 ^ 53 : Nat).log2 = 53 := Nat.log2_two_pow
  simp only [targetExponent_binary64, totalExponent, hlog]
  omega

/-- **Every double that is neither zero nor infinite is made of such a mantissa and exponent.** -/
theorem normal_unpack {b : BitVec Format.binary64.numBits} {s : Sign} {hm : 0 < m}
    (h : unpack Format.binary64 b = .finite s m e hm) : Normal m e ∧ e ≤ 971 := by
  unfold unpack at h
  dsimp only at h
  by_cases htop : unpackExponent b = -BitVec.ofNat _ 1
  · rw [if_pos htop] at h
    by_cases hfraction : unpackMantissa b = BitVec.ofNat _ 0
    · rw [if_pos hfraction] at h
      cases h
    · rw [if_neg hfraction] at h
      cases h
  · rw [if_neg htop] at h
    have hfield := (unpackExponent b).isLt
    have hfraction := (unpackMantissa b).isLt
    have hne : (unpackExponent b).toNat ≠ 2047 := fun hn =>
      htop (BitVec.eq_of_toNat_eq hn)
    change _ < 2048 at hfield
    change _ < 4503599627370496 at hfraction
    by_cases hzero : unpackExponent b = BitVec.ofNat _ 0
    · rw [if_pos hzero] at h
      by_cases hnone : unpackMantissa b = BitVec.ofNat _ 0
      · rw [dif_pos hnone] at h
        cases h
      · rw [dif_neg hnone] at h
        cases h
        rw [hzero]
        refine ⟨⟨?_, ?_, .inr ?_⟩, ?_⟩
        · omega
        all_goals decide
    · rw [if_neg hzero] at h
      cases h
      have hpos : (unpackExponent b).toNat ≠ 0 := fun hn =>
        hzero (BitVec.eq_of_toNat_eq hn)
      have hvalue : (1#1 ++ unpackMantissa b).toNat =
          4503599627370496 + (unpackMantissa b).toNat := by
        rw [toNat_append_eq]
        exact congrArg (· + (unpackMantissa b).toNat) (Nat.one_mul _)
      rw [hvalue]
      refine ⟨⟨?_, ?_, .inl ?_⟩, ?_⟩
      · omega
      · show (-1074 : Int) ≤ _ - (1023 + 52)
        omega
      · omega
      · show _ - (1023 + 52) ≤ (971 : Int)
        omega

end Mantissas

/-! ## Rounding -/

section Rounding

variable {s : Sign} {m : Nat} {e : Int} {a : Accuracy}

/-- What is rounded to fits already. -/
theorem Normal.shiftToTargetExponent_eq (h : Normal m e) :
    shiftToTargetExponent Format.binary64 m e a = (.ofMantissaAndAccuracy m a, e) := by
  have hshift : (e - e).toNat = 0 := by omega
  unfold shiftToTargetExponent shiftToExponent
  rw [h.targetExponent_eq]
  dsimp only
  rw [hshift]
  exact Prod.ext rfl (Int.add_zero e)

theorem shiftToTargetExponent_carry (he : -1074 ≤ e) :
    shiftToTargetExponent Format.binary64 (2 ^ 53) e .exact =
      (.ofMantissaAndAccuracy (2 ^ 52) .exact, e + 1) := by
  have hshift : (e + 1 - e).toNat = 1 := by omega
  unfold shiftToTargetExponent shiftToExponent
  rw [targetExponent_carry he]
  dsimp only
  rw [hshift]
  rfl

/-- Rounding gives the next integer or the one before. -/
theorem roundedMantissa_cases :
    (ExtendedMantissa.ofMantissaAndAccuracy m a).roundedMantissa = m ∨
      (ExtendedMantissa.ofMantissaAndAccuracy m a).roundedMantissa = m + 1 := by
  match a with
  | .exact | .inexact .lt => exact .inl rfl
  | .inexact .gt => exact .inr rfl
  | .inexact .eq =>
    show m + m % 2 = m ∨ m + m % 2 = m + 1
    omega

/-- A mantissa that has been rounded is put into shape, and the exponent grows if it was rounded to
a power of two. -/
theorem exists_shift_rounded {n : Nat} (hn : n ≤ 2 ^ 53) (hpos : 0 < n) (he : -1074 ≤ e)
    (hfull : 2 ^ 52 ≤ n ∨ e = -1074) :
    ∃ m' e', shiftToTargetExponent Format.binary64 n e .exact =
        (.ofMantissaAndAccuracy m' .exact, e') ∧
      0 < m' ∧ Normal m' e' ∧ (n < 2 ^ 53 ∧ e' = e ∨ n = 2 ^ 53 ∧ e' = e + 1) := by
  rcases Nat.lt_or_eq_of_le hn with hlt | rfl
  · have hnormal : Normal n e := ⟨hlt, he, hfull⟩
    exact ⟨n, e, hnormal.shiftToTargetExponent_eq, hpos, hnormal, .inl ⟨hlt, rfl⟩⟩
  · refine ⟨2 ^ 52, e + 1, shiftToTargetExponent_carry he, by decide, ⟨by decide, ?_, .inl ?_⟩,
      .inr ⟨rfl, rfl⟩⟩
    · omega
    · exact Nat.le_refl _

/-- **A quotient is rounded to a double with nearly the same exponent.** -/
theorem exists_roundWithAccuracy (hnormal : Normal m e) (hpos : 0 < m) :
    ∃ m' e' hm', roundWithAccuracy Format.binary64 s m e a = .finite s m' e' hm' ∧
      Normal m' e' ∧ (e' = e ∨ m = 2 ^ 53 - 1 ∧ e' = e + 1) := by
  have hlt := hnormal.lt
  have hround : (ExtendedMantissa.ofMantissaAndAccuracy m a).roundedMantissa = m ∨ _ :=
    roundedMantissa_cases
  generalize hn : (ExtendedMantissa.ofMantissaAndAccuracy m a).roundedMantissa = n at hround
  obtain ⟨m', e', hshift, hm', hnormal', hcases⟩ := exists_shift_rounded (n := n) (by omega)
    (by omega) hnormal.le (hnormal.full.imp_left fun h => by omega)
  refine ⟨m', e', hm', ?_, hnormal', ?_⟩
  · unfold roundWithAccuracy
    rw [hnormal.shiftToTargetExponent_eq]
    dsimp only
    rw [hn, hshift]
    exact dif_neg (Nat.ne_of_gt hm')
  · rcases hcases with ⟨-, he⟩ | ⟨hn, he⟩
    · exact .inl he
    · exact .inr ⟨by omega, he⟩

/-- A quotient that is a power of two stays one. -/
theorem roundWithAccuracy_two_pow (he : -1074 ≤ e) :
    roundWithAccuracy Format.binary64 s (2 ^ 53) e .exact =
      .finite s (2 ^ 52) (e + 1) (by decide) := by
  have hnormal : Normal (2 ^ 52) (e + 1) := ⟨by decide, by omega, .inl (Nat.le_refl _)⟩
  unfold roundWithAccuracy
  rw [shiftToTargetExponent_carry he]
  dsimp only
  rw [show (ExtendedMantissa.ofMantissaAndAccuracy (2 ^ 52) .exact).roundedMantissa = 2 ^ 52 from
    rfl, hnormal.shiftToTargetExponent_eq]
  rfl

end Rounding

/-! ## Reciprocals -/

section Reciprocals

variable {m : Nat} {e : Int}

/-- A reciprocal before it is rounded. Here it is not so small that bits are lost. -/
theorem divCore_one (h : (m.log2 : Int) + e ≤ 1021) :
    divCore Format.binary64 (2 ^ 52) (-52) m e = (2 ^ 53 * 2 ^ m.log2 / m, -53 - m.log2 - e,
      accuracyOfFraction (2 ^ 53 * 2 ^ m.log2 % m) m) := by
  have hlog : (2 ^ 52 : Nat).log2 = 52 := Nat.log2_two_pow
  have htarget : min (-52 - e) (Format.binary64.targetExponent
      (totalExponent (2 ^ 52) (-52) - totalExponent m e)) = -53 - m.log2 - e := by
    simp only [targetExponent_binary64, totalExponent, hlog]
    omega
  have hshift : (-52 - e - (-53 - (m.log2 : Int) - e)).toNat = m.log2 + 1 := by omega
  have hnumerator : 2 ^ 52 <<< (m.log2 + 1) = 2 ^ 53 * 2 ^ m.log2 := by
    rw [Nat.shiftLeft_eq, show 2 ^ (m.log2 + 1) = 2 ^ m.log2 * 2 from Nat.pow_succ ..]
    omega
  unfold divCore
  dsimp only
  rw [htarget, hshift, hnumerator]

/-- The reciprocal of a number that is not a power of two is well between two powers of two. -/
theorem quotient_bounds (hlt : m < 2 ^ 53) (hpower : 2 ^ m.log2 < m) :
    2 ^ 52 ≤ 2 ^ 53 * 2 ^ m.log2 / m ∧ 2 ^ 53 * 2 ^ m.log2 / m < 2 ^ 53 - 1 := by
  have hpos : 0 < m := Nat.zero_lt_of_lt hpower
  have htwice : m < 2 ^ m.log2 * 2 := Nat.lt_log2_self
  have hsmall : 2 ^ m.log2 ≤ 2 ^ 52 := Nat.pow_le_pow_right (by decide) (log2_le_of_lt hlt)
  generalize 2 ^ m.log2 = p at *
  constructor
  · rw [Nat.le_div_iff_mul_le hpos]
    omega
  · rw [Nat.div_lt_iff_lt_mul hpos]
    omega

/-- The reciprocal of a very great number is small. -/
theorem exists_reciprocal_small (h : Normal m e) (hpos : 0 < m) (he : e ≤ 971)
    (hgreat : 1021 < (m.log2 : Int) + e) :
    ∃ m' e' hm', UnpackedFloat.div Format.binary64 (.finite .positive (2 ^ 52) (-52) (by decide))
        (.finite .positive m e hpos) = .finite .positive m' e' hm' ∧
      Normal m' e' ∧ e' < 12 := by
  have hlog := log2_le_of_lt h.lt
  have hfull : 2 ^ 52 ≤ m := h.full.resolve_right (by omega)
  have hone : (2 ^ 52 : Nat).log2 = 52 := Nat.log2_two_pow
  have htarget : min (-52 - e) (Format.binary64.targetExponent
      (totalExponent (2 ^ 52) (-52) - totalExponent m e)) = -1074 := by
    simp only [targetExponent_binary64, totalExponent, hone]
    omega
  have hshift : (-52 - e - -1074).toNat = 51 ∨ (-52 - e - -1074).toNat = 52 := by omega
  have hquotient : 0 < 2 ^ 52 <<< (-52 - e - -1074).toNat / m ∧
      2 ^ 52 <<< (-52 - e - -1074).toNat / m < 2 ^ 53 - 1 := by
    have hlt := h.lt
    rcases hshift with hs | hs <;> rw [hs, Nat.div_pos_iff, Nat.div_lt_iff_lt_mul hpos] <;> omega
  have hnormal : Normal (2 ^ 52 <<< (-52 - e - -1074).toNat / m) (-1074) :=
    ⟨by omega, Int.le_refl _, .inr rfl⟩
  obtain ⟨m', e', hm', hround, hnormal', hcases⟩ := exists_roundWithAccuracy (s := .positive)
    (a := accuracyOfFraction (2 ^ 52 <<< (-52 - e - -1074).toNat % m) m) hnormal hquotient.1
  refine ⟨m', e', hm', ?_, hnormal', by omega⟩
  rw [← hround]
  show roundWithAccuracy _ _ (divCore ..).1 (divCore ..).2.1 (divCore ..).2.2 = _
  unfold divCore
  dsimp only
  rw [htarget]
  rfl

/-- **The reciprocal of a positive number**, and when it is `2 ^ 64` or more: its mantissa has 53
bits, so the exponent decides. -/
theorem exists_reciprocal (h : Normal m e) (hpos : 0 < m) (he : e ≤ 971) :
    ∃ m' e' hm', UnpackedFloat.div Format.binary64 (.finite .positive (2 ^ 52) (-52) (by decide))
        (.finite .positive m e hpos) = .finite .positive m' e' hm' ∧ Normal m' e' ∧
      (12 ≤ e' ↔ (m.log2 : Int) + e ≤ -65 ∨ (m.log2 : Int) + e = -64 ∧ m = 2 ^ m.log2) := by
  by_cases hgreat : 1021 < (m.log2 : Int) + e
  · obtain ⟨m', e', hm', hdiv, hnormal, hsmall⟩ := exists_reciprocal_small h hpos he hgreat
    exact ⟨m', e', hm', hdiv, hnormal, by omega⟩
  have hcore := divCore_one (m := m) (e := e) (by omega)
  have hdiv : UnpackedFloat.div Format.binary64 (.finite .positive (2 ^ 52) (-52) (by decide))
      (.finite .positive m e hpos) = roundWithAccuracy Format.binary64 .positive
        (2 ^ 53 * 2 ^ m.log2 / m) (-53 - m.log2 - e)
        (accuracyOfFraction (2 ^ 53 * 2 ^ m.log2 % m) m) := by
    show roundWithAccuracy _ _ (divCore ..).1 (divCore ..).2.1 (divCore ..).2.2 = _
    rw [hcore]
    rfl
  have hle : -1074 ≤ -53 - (m.log2 : Int) - e := by omega
  rcases Nat.lt_or_eq_of_le (Nat.log2_self_le (Nat.ne_of_gt hpos)) with hpower | hpower
  · obtain ⟨hfull, hlt⟩ := quotient_bounds h.lt hpower
    obtain ⟨m', e', hm', hround, hnormal', hcases⟩ := exists_roundWithAccuracy (s := .positive)
      (a := accuracyOfFraction (2 ^ 53 * 2 ^ m.log2 % m) m)
      (⟨by omega, hle, .inl hfull⟩ : Normal (2 ^ 53 * 2 ^ m.log2 / m) (-53 - m.log2 - e))
      (by omega)
    exact ⟨m', e', hm', hdiv.trans hround, hnormal', by omega⟩
  · -- The quotient is exact, so the exponent is one greater than otherwise.
    have hquotient : 2 ^ 53 * 2 ^ m.log2 / m = 2 ^ 53 ∧ 2 ^ 53 * 2 ^ m.log2 % m = 0 := by
      rw [hpower]
      exact ⟨Nat.mul_div_cancel _ hpos, Nat.mul_mod_left ..⟩
    rw [hquotient.1, hquotient.2] at hdiv
    refine ⟨2 ^ 52, -53 - m.log2 - e + 1, by decide, hdiv.trans (roundWithAccuracy_two_pow hle),
      ⟨by decide, by omega, .inl (Nat.le_refl _)⟩, ?_⟩
    omega

end Reciprocals

/-! ## Exact values -/

section Values

variable {m : Nat} {e : Int}

/-- The value of a bit pattern, by its fields. -/
theorem decode_binary64 {field fraction : Nat} (hfield : field < 2047)
    (hfraction : fraction < 2 ^ 52) :
    Binary.decode .binary64 (field * 2 ^ 52 + fraction) =
      if field = 0 then .finite false fraction (-1074)
      else .finite false (2 ^ 52 + fraction) (field - 1075) := by
  have hdecode := Binary.decode_fields (f := .binary64) false (Nat.le_of_lt hfield)
    hfraction
  have htop : field ≠ BinaryFormat.binary64.topField := Nat.ne_of_lt hfield
  rw [show Binary.encode.sign .binary64 false = 0 from rfl, Nat.zero_add] at hdecode
  refine hdecode.trans ?_
  rw [Binary.ofFields, if_neg htop]
  split
  · rfl
  · show Binary.finite false (2 ^ 52 + fraction) (-1074 + (field : Int) - 1) = _
    congr 1
    omega

/-- The bits of a positive double are its exponent and its mantissa. -/
theorem toNat_packComponents (exponent : BitVec 11) (mantissa : BitVec 52) :
    (packComponents Format.binary64 .positive exponent mantissa).toNat =
      exponent.toNat * 2 ^ 52 + mantissa.toNat := by
  show (0#1 ++ exponent ++ mantissa).toNat = _
  rw [toNat_append_eq, toNat_append_eq]
  show (0 * 2 ^ 11 + exponent.toNat) * 2 ^ 52 + mantissa.toNat = _
  rw [Nat.zero_mul, Nat.zero_add]

/-- **The exact value of a double that was computed**, unless it is too great. -/
theorem ofFloat_pack (h : Normal m e) (hpos : 0 < m) (he : e ≤ 971) :
    ofFloat ⟨.pack (.finite .positive m e hpos)⟩ = .finite false m e := by
  show Binary.decode .binary64 (UnpackedFloat.pack Format.binary64 _).toNat = _
  have hle := h.le
  have hlt := h.lt
  have hsmall : ¬2 ^ Format.binary64.exponentBits ≤
      (e + Format.binary64.exponentBias + Format.binary64.mantissaBitsWithoutImplicit).toNat +
        1 := by
    show ¬2048 ≤ (e + 1023 + 52).toNat + 1
    omega
  have hfield : (BitVec.ofNat 11 (e + 1023 + 52).toNat).toNat = (e + 1075).toNat := by
    rw [BitVec.toNat_ofNat]
    omega
  unfold UnpackedFloat.pack
  dsimp only
  rw [if_neg hsmall]
  split
  · next hlog =>
    change m.log2 + 1 = 53 at hlog
    have hfull : 2 ^ 52 ≤ m := by
      have hself := Nat.log2_self_le (Nat.ne_of_gt hpos)
      rwa [show m.log2 = 52 by omega] at hself
    have hfraction : (BitVec.ofNat 52 m).toNat = m - 2 ^ 52 := by
      rw [BitVec.toNat_ofNat]
      omega
    rw [toNat_packComponents]
    change Binary.decode .binary64 ((BitVec.ofNat 11 (e + 1023 + 52).toNat).toNat * 2 ^ 52 + _) = _
    rw [hfield, hfraction, decode_binary64 (by omega) (by omega), if_neg (by omega),
      Nat.add_sub_cancel' hfull, show ((e + 1075).toNat : Int) - 1075 = e by omega]
  · next hlog =>
    change ¬m.log2 + 1 = 53 at hlog
    have hsub : ¬2 ^ 52 ≤ m := fun hfull => hlog (by rw [log2_eq_of_full hlt hfull])
    have hfraction : (BitVec.ofNat 52 m).toNat = m := by
      rw [BitVec.toNat_ofNat]
      omega
    rw [toNat_packComponents]
    change Binary.decode .binary64 (0 * 2 ^ 52 + (BitVec.ofNat 52 m).toNat) = _
    rw [hfraction, decode_binary64 (by decide) (by omega), if_pos rfl, h.full.resolve_left hsub]

theorem ofFloat_pack_infinite (hpos : 0 < m) (he : 972 ≤ e) :
    ofFloat ⟨.pack (.finite .positive m e hpos)⟩ = .infinite false := by
  have hgreat : 2 ^ Format.binary64.exponentBits ≤
      (e + Format.binary64.exponentBias + Format.binary64.mantissaBitsWithoutImplicit).toNat +
        1 := by
    show 2048 ≤ (e + 1023 + 52).toNat + 1
    omega
  show Binary.decode .binary64 (UnpackedFloat.pack Format.binary64 _).toNat = _
  unfold UnpackedFloat.pack
  dsimp only
  rw [if_pos hgreat]
  rfl

/-- So many seconds can be expressed if there are fewer than `2 ^ 64`. -/
theorem nanosecondsOf_eq_none_iff (h : Normal m e) (hpos : 0 < m) :
    nanosecondsOf (.finite false m e) = none ↔ 12 ≤ e := by
  have hlt := h.lt
  have hcondition : nanosecondsOf (.finite false m e) = none ↔
      2 ^ 64 * 1000000000 * (1 * 2 ^ (-e).toNat) ≤ m * 1000000000 * 2 ^ e.toNat := by
    show (if false = true ∧ m ≠ 0 ∨ 2 ^ 64 * 1000000000 * (1 * 2 ^ (-e).toNat) ≤
      m * 1000000000 * 2 ^ (- -e).toNat then none else some _) = none ↔ _
    rw [Int.neg_neg]
    split
    · next hnone => exact iff_of_true rfl (hnone.resolve_left fun h => nomatch h.1)
    · next hsome => exact iff_of_false nofun fun hle => hsome (.inr hle)
  rw [hcondition]
  constructor
  · intro hle
    refine Decidable.byContradiction fun hsmall => ?_
    have hpow : 2 ^ e.toNat ≤ 2 ^ 11 * 2 ^ (-e).toNat := by
      rw [← Nat.pow_add]
      exact Nat.pow_le_pow_right (by decide) (by omega)
    have hproduct := Nat.mul_le_mul (show m * 1000000000 ≤ (2 ^ 53 - 1) * 1000000000 by omega) hpow
    have hone : 0 < 2 ^ (-e).toNat := Nat.two_pow_pos _
    omega
  · intro hgreat
    have hfull : 2 ^ 52 ≤ m := h.full.resolve_right (by omega)
    have hzero : (-e).toNat = 0 := by omega
    have hpow : 2 ^ 12 ≤ 2 ^ e.toNat := Nat.pow_le_pow_right (by decide) (by omega)
    have hproduct := Nat.mul_le_mul (show 2 ^ 52 * 1000000000 ≤ m * 1000000000 by omega) hpow
    rw [hzero]
    omega

end Values

/-! ## Rates -/

/-- A round in `2 ^ 64` seconds. -/
def lowestRate : Float := 5.421010862427522e-20

theorem unpack_lowestRate :
    lowestRate.toModel.unpack = .finite .positive (2 ^ 52) (-116) (by decide) := rfl

theorem float_lt_iff {x y : Float} : x < y ↔ x.toModel.unpack.lt y.toModel.unpack = true := by
  show Float.lt x y = true ↔ _
  exact decide_eq_true_iff

theorem float_le_iff {x y : Float} : x ≤ y ↔ x.toModel.unpack.le y.toModel.unpack = true := by
  show Float.le x y = true ↔ _
  exact decide_eq_true_iff

/-- A positive double is infinite or has a mantissa and an exponent. -/
theorem unpack_of_pos {x : Float} (h : 0.0 < x) : x.toModel.unpack = .infinity .positive ∨
    ∃ m e hm, x.toModel.unpack = .finite .positive m e hm := by
  rw [float_lt_iff] at h
  change UnpackedFloat.lt (.zero .positive) x.toModel.unpack = true at h
  cases hx : x.toModel.unpack with
  | notANumber =>
    rw [hx] at h
    cases h
  | zero s =>
    rw [hx] at h
    cases h
  | infinity s =>
    cases s with
    | positive => exact .inl rfl
    | negative =>
      rw [hx] at h
      cases h
  | finite s m e hm =>
    cases s with
    | positive => exact .inr ⟨m, e, hm, rfl⟩
    | negative =>
      rw [hx] at h
      cases h

/-- Doubles are compared by their exponents, and then by their mantissas. -/
theorem le_lowestRate_iff {x : Float} {m : Nat} {e : Int} {hm : 0 < m}
    (hx : x.toModel.unpack = .finite .positive m e hm) :
    x ≤ lowestRate ↔ e < -116 ∨ e = -116 ∧ m ≤ 2 ^ 52 := by
  rw [float_le_iff, hx, unpack_lowestRate]
  show ((compare e (-116)).then (compare m (2 ^ 52))).isLE = true ↔ _
  rw [Ordering.isLE_then_iff_or, Int.compare_eq_lt, Int.compare_eq_eq, Nat.isLE_compare]

/-- The period of a rate is the reciprocal, if there is a limit at all. -/
theorem periodOf_of_unpack {rate : Float} {m : Nat} {e : Int} {hm : 0 < m} (hpos : 0.0 < rate)
    (hrate : rate.toModel.unpack = .finite .positive m e hm) :
    periodOf rate = .unbounded ↔ nanosecondsOf (ofFloat ⟨.pack (UnpackedFloat.div Format.binary64
      (.finite .positive (2 ^ 52) (-52) (by decide)) (.finite .positive m e hm))⟩) = none := by
  have hfinite : rate.isFinite = true := by
    show UnpackedFloat.isFinite rate.toModel.unpack = true
    rw [hrate]
    rfl
  have hdiv : (1.0 / rate : Float) = ⟨.pack (UnpackedFloat.div Format.binary64
      (.finite .positive (2 ^ 52) (-52) (by decide)) (.finite .positive m e hm))⟩ := by
    rw [← hrate]
    rfl
  unfold periodOf
  rw [if_pos ⟨hpos, hfinite⟩, hdiv]
  generalize nanosecondsOf _ = seconds
  cases seconds with
  | some n => exact iff_of_false nofun nofun
  | none => exact iff_of_true rfl rfl

/-- **A rate has no period that can be expressed exactly if it is positive, but not more than a
round in `2 ^ 64` seconds.** -/
theorem periodOf_eq_unbounded_iff (rate : Float) :
    periodOf rate = .unbounded ↔ 0.0 < rate ∧ rate ≤ lowestRate := by
  by_cases hpos : 0.0 < rate
  · rcases unpack_of_pos hpos with hinfinite | ⟨m, e, hm, hrate⟩
    · have hno : ¬(0.0 < rate ∧ rate.isFinite = true) := by
        rintro ⟨-, hfinite⟩
        change UnpackedFloat.isFinite rate.toModel.unpack = true at hfinite
        rw [hinfinite] at hfinite
        cases hfinite
      unfold periodOf
      rw [if_neg hno]
      refine iff_of_false nofun fun ⟨_, hle⟩ => ?_
      rw [float_le_iff, hinfinite, unpack_lowestRate] at hle
      cases hle
    · obtain ⟨hnormal, htop⟩ := normal_unpack hrate
      obtain ⟨m', e', hm', hdiv, hnormal', hgreat⟩ := exists_reciprocal hnormal hm htop
      have hnone : periodOf rate = .unbounded ↔ 12 ≤ e' := by
        rw [periodOf_of_unpack hpos hrate, hdiv]
        by_cases he' : e' ≤ 971
        · rw [ofFloat_pack hnormal' hm' he']
          exact nanosecondsOf_eq_none_iff hnormal' hm'
        · rw [ofFloat_pack_infinite hm' (by omega)]
          exact iff_of_true rfl (by omega)
      rw [hnone, hgreat, le_lowestRate_iff hrate, and_iff_right hpos]
      have hlog := log2_le_of_lt hnormal.lt
      rcases hnormal.full with hfull | hleast
      · rw [log2_eq_of_full hnormal.lt hfull]
        omega
      · omega
  · unfold periodOf
    rw [if_neg fun h => hpos h.1]
    exact iff_of_false nofun fun h => hpos h.1

/-- A rate of a round in about three million million years has no period. -/
example : periodOf 1e-20 = .unbounded := by decide

end MotionWatch
