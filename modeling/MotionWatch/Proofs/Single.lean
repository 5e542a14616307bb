import Mathlib.Algebra.Group.Nat.Defs
import Mathlib.Data.Nat.Sqrt

/-!
# Numbers of single precision that are not zero

What is computed in single precision is rounded, and what is too small is rounded to zero. It is
not too small if it is known between which powers of two it is: the bounds are carried through
quotients and square roots, and each rounding raises the upper one at most by one.

* `Canonical`: mantissa and exponent of a number. `canonical_unpack`: every number is made like
  that.
* `Between`: a positive number, with bounds on its size. `between_roundWithAccuracy`: how it is
  rounded.
* `between_div`, `between_sqrt`, `exists_ofNat`: quotients, square roots and natural numbers.
* `unpack_pack`: what is stored is what was computed.
* `beq_zero_eq_false`: so none of them is zero. `between_of_le_one`: numbers that are at most one.
-/

namespace MotionWatch.Single

open Float.Model.UnpackedFloat
open Float.Model (Format totalExponent UnpackedFloat)

/-- Mantissa and exponent of a number: all bits of the mantissa are used unless the exponent is the
least one. -/
structure Canonical (m : Nat) (e : Int) : Prop where
  lt : m < 2 ^ 24
  le : -149 ≤ e
  full : 2 ^ 23 ≤ m ∨ e = -149

/-- A positive number that is less than two to the power of `hi`, but not less than half of two to
the power of `lo`. -/
structure Between (lo hi : Int) (u : UnpackedFloat) : Prop where
  exists_finite : ∃ m e, ∃ hm, u = .finite .positive m e hm ∧ Canonical m e ∧
    lo ≤ totalExponent m e ∧ totalExponent m e ≤ hi

/-! ## Logarithms -/

section Logarithms

variable {m n k : Nat}

theorem log2_eq_of_between (hle : 2 ^ k ≤ m) (hlt : m < 2 ^ (k + 1)) : m.log2 = k :=
  (Nat.log2_eq_iff (Nat.ne_of_gt (Nat.lt_of_lt_of_le (Nat.two_pow_pos k) hle))).mpr ⟨hle, hlt⟩

theorem shiftLeft_pos (hm : 0 < m) (k : Nat) : 0 < m <<< k := by
  rw [Nat.shiftLeft_eq]
  exact Nat.mul_pos hm (Nat.two_pow_pos k)

theorem log2_shiftLeft (hm : 0 < m) (k : Nat) : (m <<< k).log2 = m.log2 + k := by
  apply log2_eq_of_between
  · rw [Nat.shiftLeft_eq, Nat.pow_add]
    exact Nat.mul_le_mul_right _ (Nat.log2_self_le (Nat.ne_of_gt hm))
  · rw [Nat.shiftLeft_eq, Nat.add_right_comm, Nat.pow_add]
    exact Nat.mul_lt_mul_of_pos_right Nat.lt_log2_self (Nat.two_pow_pos k)

/-- A quotient has as many bits as there are between dividend and divisor, or one more. -/
theorem log2_div (hn : 0 < n) (hgap : n.log2 < m.log2) : 0 < m / n ∧
    m.log2 ≤ (m / n).log2 + n.log2 + 1 ∧ (m / n).log2 + n.log2 ≤ m.log2 := by
  have hm : m ≠ 0 := by
    rintro rfl
    exact absurd hgap (Nat.not_lt_zero _)
  have hlow : 2 ^ (m.log2 - (n.log2 + 1)) ≤ m / n := by
    rw [Nat.le_div_iff_mul_le hn]
    calc 2 ^ (m.log2 - (n.log2 + 1)) * n
        ≤ 2 ^ (m.log2 - (n.log2 + 1)) * 2 ^ (n.log2 + 1) :=
          Nat.mul_le_mul_left _ (Nat.le_of_lt Nat.lt_log2_self)
      _ = 2 ^ m.log2 := by rw [← Nat.pow_add, Nat.sub_add_cancel hgap]
      _ ≤ m := Nat.log2_self_le hm
  have hhigh : m / n < 2 ^ (m.log2 + 1 - n.log2) := by
    rw [Nat.div_lt_iff_lt_mul hn]
    calc m < 2 ^ (m.log2 + 1) := Nat.lt_log2_self
      _ = 2 ^ (m.log2 + 1 - n.log2) * 2 ^ n.log2 := by
          rw [← Nat.pow_add, Nat.sub_add_cancel (by omega)]
      _ ≤ _ := Nat.mul_le_mul_left _ (Nat.log2_self_le (Nat.ne_of_gt hn))
  have hpos : 0 < m / n := Nat.lt_of_lt_of_le (Nat.two_pow_pos _) hlow
  have hle := (Nat.le_log2 (Nat.ne_of_gt hpos)).mpr hlow
  have hlt := (Nat.log2_lt (Nat.ne_of_gt hpos)).mpr hhigh
  omega

theorem log2_div_two_pow (hk : k ≤ m.log2) (hm : 0 < m) :
    0 < m / 2 ^ k ∧ (m / 2 ^ k).log2 = m.log2 - k := by
  have hsplit : 2 ^ m.log2 = 2 ^ (m.log2 - k) * 2 ^ k := by
    rw [← Nat.pow_add, Nat.sub_add_cancel hk]
  have hlow : 2 ^ (m.log2 - k) ≤ m / 2 ^ k := by
    rw [Nat.le_div_iff_mul_le (Nat.two_pow_pos k), ← hsplit]
    exact Nat.log2_self_le (Nat.ne_of_gt hm)
  refine ⟨Nat.lt_of_lt_of_le (Nat.two_pow_pos _) hlow, log2_eq_of_between hlow ?_⟩
  rw [Nat.div_lt_iff_lt_mul (Nat.two_pow_pos k), Nat.pow_succ, Nat.mul_right_comm, ← hsplit]
  exact Nat.lt_log2_self

/-- A square root has half of the bits. -/
theorem log2_sqrt (hm : 0 < m) : 0 < m.sqrt ∧ m.sqrt.log2 = m.log2 / 2 := by
  refine ⟨Nat.sqrt_pos.mpr hm, log2_eq_of_between ?_ ?_⟩
  · rw [Nat.le_sqrt, ← Nat.pow_add]
    exact Nat.le_trans (Nat.pow_le_pow_right (by decide) (by omega))
      (Nat.log2_self_le (Nat.ne_of_gt hm))
  · rw [Nat.sqrt_lt, ← Nat.pow_add]
    exact Nat.lt_of_lt_of_le Nat.lt_log2_self (Nat.pow_le_pow_right (by decide) (by omega))

theorem totalExponent_shiftLeft (hm : 0 < m) (k : Nat) (e : Int) :
    totalExponent (m <<< k) (e - k) = totalExponent m e := by
  rw [totalExponent, totalExponent, log2_shiftLeft hm]
  omega

end Logarithms

/-! ## Rounding -/

section Rounding

variable {m n : Nat} {e lo hi : Int} {a : Accuracy}

theorem targetExponent_binary32 (t : Int) :
    Format.binary32.targetExponent t = max (t - 24) (-149) := rfl

/-- Bits that are shifted out are lost. -/
theorem mantissa_shiftRight (em : ExtendedMantissa) (k : Nat) :
    (em >>> k).mantissa = em.mantissa / 2 ^ k := by
  induction k with
  | zero => exact (Nat.div_one _).symm
  | succ k ih =>
    show (em >>> k).mantissa / 2 = _
    rw [ih, Nat.div_div_eq_div_mul, Nat.pow_succ]

/-- How far a mantissa is shifted before it is rounded. -/
def shiftOf (m : Nat) (e : Int) : Nat := (max (totalExponent m e - 24) (-149) - e).toNat

theorem exists_shiftToTargetExponent (m : Nat) (e : Int) (a : Accuracy) :
    ∃ em, shiftToTargetExponent Format.binary32 m e a = (em, e + shiftOf m e) ∧
      em.mantissa = m / 2 ^ shiftOf m e := by
  refine ⟨ExtendedMantissa.ofMantissaAndAccuracy m a >>> shiftOf m e, rfl, ?_⟩
  rw [mantissa_shiftRight]
  match a with
  | .exact | .inexact .lt | .inexact .eq | .inexact .gt => rfl

/-- Rounding gives the next integer or the one before. -/
theorem roundedMantissa_mem (em : ExtendedMantissa) :
    em.roundedMantissa = em.mantissa ∨ em.roundedMantissa = em.mantissa + 1 := by
  match em with
  | ⟨_, false, false⟩ | ⟨_, false, true⟩ => exact .inl rfl
  | ⟨_, true, true⟩ => exact .inr rfl
  | ⟨m, true, false⟩ =>
    show m + m % 2 = m ∨ m + m % 2 = m + 1
    omega

/-- A mantissa that has been rounded is put into shape, and the exponent grows if it was rounded to
a power of two. -/
theorem exists_shift_rounded (hpos : 0 < n) (hn : n ≤ 2 ^ 24) (he : -149 ≤ e)
    (hfull : 2 ^ 23 ≤ n ∨ e = -149) :
    ∃ em e', shiftToTargetExponent Format.binary32 n e .exact = (em, e') ∧ 0 < em.mantissa ∧
      Canonical em.mantissa e' ∧ totalExponent em.mantissa e' = totalExponent n e := by
  obtain ⟨em, hshift, hmantissa⟩ := exists_shiftToTargetExponent n e .exact
  refine ⟨em, _, hshift, ?_⟩
  rw [hmantissa]
  rcases Nat.lt_or_eq_of_le hn with hlt | rfl
  · have hlog : n.log2 < 24 := (Nat.log2_lt (Nat.ne_of_gt hpos)).mpr hlt
    have hnone : shiftOf n e = 0 := by
      unfold shiftOf totalExponent
      omega
    rw [hnone, Nat.pow_zero, Nat.div_one, Int.natCast_zero, Int.add_zero]
    exact ⟨hpos, ⟨hlt, he, hfull⟩, rfl⟩
  · have hlog : (2 ^ 24 : Nat).log2 = 24 := Nat.log2_two_pow
    have hlog' : (2 ^ 24 / 2 ^ 1 : Nat).log2 = 23 := Nat.log2_two_pow (n := 23)
    have hone : shiftOf (2 ^ 24) e = 1 := by
      rw [shiftOf, totalExponent, hlog]
      omega
    rw [hone]
    refine ⟨by decide, ⟨by decide, by omega, .inl (by decide)⟩, ?_⟩
    rw [totalExponent, totalExponent, hlog, hlog']
    omega

/-- **Rounding does not lose a number**, unless it is less than all that can be expressed. -/
theorem between_roundWithAccuracy (hpos : 0 < m)
    (he : e ≤ Format.binary32.targetExponent (totalExponent m e))
    (hle : -148 ≤ totalExponent m e) :
    Between (totalExponent m e) (totalExponent m e + 1)
      (roundWithAccuracy Format.binary32 .positive m e a) := by
  rw [targetExponent_binary32] at he
  have hk : shiftOf m e ≤ m.log2 := by
    unfold shiftOf totalExponent at *
    omega
  obtain ⟨hpos₁, hlog₁⟩ := log2_div_two_pow hk hpos
  obtain ⟨em, hshift, hmantissa⟩ := exists_shiftToTargetExponent m e a
  have hround := roundedMantissa_mem em
  have htotal : totalExponent (m / 2 ^ shiftOf m e) (e + shiftOf m e) = totalExponent m e := by
    unfold totalExponent
    omega
  have hexponent : e + shiftOf m e = max (totalExponent m e - 24) (-149) := by
    unfold shiftOf
    omega
  rw [hmantissa] at hround
  unfold roundWithAccuracy
  rw [hshift]
  dsimp only
  rw [← htotal] at hexponent hle ⊢
  generalize m / 2 ^ shiftOf m e = m₁ at *
  generalize e + shiftOf m e = e₁ at *
  generalize em.roundedMantissa = n at *
  have hself : 2 ^ m₁.log2 ≤ m₁ := Nat.log2_self_le (Nat.ne_of_gt hpos₁)
  have hnext : m₁ < 2 ^ (m₁.log2 + 1) := Nat.lt_log2_self
  have hposn : 0 < n := by omega
  have hlow : m₁.log2 ≤ n.log2 := (Nat.le_log2 (Nat.ne_of_gt hposn)).mpr (by omega)
  have hhigh : n.log2 < m₁.log2 + 2 := by
    refine (Nat.log2_lt (Nat.ne_of_gt hposn)).mpr ?_
    rw [Nat.pow_succ]
    omega
  have hlog : m₁.log2 = 23 ∨ m₁.log2 < 23 ∧ e₁ = -149 := by
    unfold totalExponent at hexponent
    omega
  have hsmall : 2 ^ (m₁.log2 + 1) ≤ 2 ^ 24 := Nat.pow_le_pow_right (by decide) (by omega)
  have hfull : 2 ^ 23 ≤ n ∨ e₁ = -149 := by
    refine hlog.imp (fun heq => ?_) And.right
    rw [heq] at hself
    omega
  obtain ⟨em', e', hshift', hpos', hcanonical, htotal'⟩ :=
    exists_shift_rounded hposn (by omega) (by omega) hfull
  rw [hshift']
  refine ⟨em'.mantissa, e', hpos', dif_neg (Nat.ne_of_gt hpos'), hcanonical, ?_, ?_⟩
  all_goals
    unfold totalExponent at *
    omega

end Rounding

/-! ## Stored numbers -/

section Bits

variable {m : Nat} {e lo hi : Int} {u : UnpackedFloat}

theorem unpackSign_packComponents (s : Sign) (exponent : BitVec 8) (mantissa : BitVec 23) :
    unpackSign (packComponents Format.binary32 s exponent mantissa) = s.toBitVec := by
  apply BitVec.eq_of_getLsbD_eq
  intro i hi
  obtain rfl : i = 0 := by omega
  unfold unpackSign packComponents
  rw [BitVec.getLsbD_cast, BitVec.getLsbD_extractLsb, BitVec.getLsbD_append,
    BitVec.getLsbD_append]
  rfl

theorem finite_congr {s s' : Sign} {m m' : Nat} {e e' : Int} {hm : 0 < m} {hm' : 0 < m'}
    (hs : s = s') (hmm : m = m') (he : e = e') :
    UnpackedFloat.finite s m e hm = .finite s' m' e' hm' := by
  subst hs hmm he
  rfl

/-- The leading bit of a mantissa. -/
theorem toNat_append_mantissa (mantissa : BitVec 23) :
    (1#1 ++ mantissa).toNat = 2 ^ 23 + mantissa.toNat := by
  rw [BitVec.toNat_append, Nat.shiftLeft_eq]
  exact (Nat.two_pow_add_eq_or_of_lt mantissa.isLt 1).symm

/-- Every number that is neither zero nor infinite is made of such a mantissa and exponent. -/
theorem canonical_unpack {b : BitVec Format.binary32.numBits} {s : Sign} {hm : 0 < m}
    (h : unpack Format.binary32 b = .finite s m e hm) : Canonical m e := by
  unfold unpack at h
  dsimp only at h
  by_cases htop : unpackExponent b = -BitVec.ofNat _ 1
  · rw [if_pos htop] at h
    by_cases hfraction : unpackMantissa b = BitVec.ofNat _ 0
    · rw [if_pos hfraction] at h
      cases h
    · rw [if_neg hfraction] at h
      cases h
  · rw [if_neg htop] at h
    have hfraction := (unpackMantissa b).isLt
    change _ < 8388608 at hfraction
    by_cases hzero : unpackExponent b = BitVec.ofNat _ 0
    · rw [if_pos hzero] at h
      by_cases hnone : unpackMantissa b = BitVec.ofNat _ 0
      · rw [dif_pos hnone] at h
        cases h
      · rw [dif_neg hnone] at h
        cases h
        rw [hzero]
        refine ⟨?_, ?_, .inr ?_⟩
        · omega
        all_goals decide
    · rw [if_neg hzero] at h
      cases h
      have hpos : (unpackExponent b).toNat ≠ 0 := fun hn =>
        hzero (BitVec.eq_of_toNat_eq hn)
      rw [toNat_append_mantissa]
      refine ⟨?_, ?_, .inl ?_⟩
      · omega
      · show (-149 : Int) ≤ _ - (127 + 23)
        omega
      · omega

/-- A number that uses all bits of the mantissa is unpacked. -/
theorem unpack_of_full {b : BitVec Format.binary32.numBits} {hm : 0 < m}
    (hsign : Sign.ofBitVec (unpackSign b) = .positive)
    (hfield : (unpackExponent b).toNat = (e + 150).toNat)
    (hfraction : (unpackMantissa b).toNat = m - 2 ^ 23) (hfull : 2 ^ 23 ≤ m) (hle : -149 ≤ e)
    (he : e ≤ 104) : unpack Format.binary32 b = .finite .positive m e hm := by
  have htop : ¬unpackExponent b = -BitVec.ofNat _ 1 := by
    intro heq
    have hvalue : (e + 150).toNat = 255 := hfield.symm.trans (congrArg BitVec.toNat heq)
    omega
  have hzero : ¬unpackExponent b = BitVec.ofNat _ 0 := by
    intro heq
    have hvalue : (e + 150).toNat = 0 := hfield.symm.trans (congrArg BitVec.toNat heq)
    omega
  unfold unpack
  dsimp only
  rw [if_neg htop, if_neg hzero]
  refine finite_congr hsign ?_ ?_
  · rw [toNat_append_mantissa, hfraction]
    omega
  · show ((unpackExponent b).toNat : Int) - (127 + 23) = e
    omega

/-- A number of the least exponent is unpacked. -/
theorem unpack_of_least {b : BitVec Format.binary32.numBits} {hm : 0 < m}
    (hsign : Sign.ofBitVec (unpackSign b) = .positive) (hzero : unpackExponent b = BitVec.ofNat _ 0)
    (hfraction : (unpackMantissa b).toNat = m) :
    unpack Format.binary32 b = .finite .positive m (-149) hm := by
  have htop : ¬unpackExponent b = -BitVec.ofNat _ 1 := by
    rw [hzero]
    decide
  have hsome : ¬unpackMantissa b = BitVec.ofNat _ 0 := by
    intro heq
    have hnone : m = 0 := hfraction.symm.trans (congrArg BitVec.toNat heq)
    omega
  unfold unpack
  dsimp only
  rw [if_neg htop, if_pos hzero, dif_neg hsome]
  refine finite_congr hsign hfraction ?_
  rw [hzero]
  rfl

/-- How a number is stored: it may be too great, or use all bits of the mantissa or not. -/
theorem pack_finite {hm : 0 < m} : pack Format.binary32 (.finite .positive m e hm) =
    if 256 ≤ (e + 127 + 23).toNat + 1 then packedInfinity Format.binary32 .positive
    else if m.log2 + 1 = 24 then
      packComponents Format.binary32 .positive (BitVec.ofNat 8 (e + 127 + 23).toNat)
        (BitVec.ofNat 23 m)
    else packComponents Format.binary32 .positive 0#8 (BitVec.ofNat 23 m) := rfl

/-- What is unpacked is what was packed. -/
theorem unpack_pack_finite {hm : 0 < m} (hcanonical : Canonical m e) (he : e ≤ 104) :
    unpack Format.binary32 (pack Format.binary32 (.finite .positive m e hm)) =
      .finite .positive m e hm := by
  have hlt := hcanonical.lt
  have hmin := hcanonical.le
  have hlog : m.log2 < 24 := (Nat.log2_lt (Nat.ne_of_gt hm)).mpr hlt
  have hsign (exponent : BitVec 8) (mantissa : BitVec 23) : Sign.ofBitVec (unpackSign
      (packComponents Format.binary32 .positive exponent mantissa)) = .positive := by
    rw [unpackSign_packComponents]
    rfl
  rw [pack_finite, if_neg (by omega)]
  by_cases hbits : m.log2 + 1 = 24
  · rw [if_pos hbits]
    have hfull : 2 ^ 23 ≤ m := by
      have hself := Nat.log2_self_le (Nat.ne_of_gt hm)
      rwa [show m.log2 = 23 by omega] at hself
    refine unpack_of_full (hsign ..) ?_ ?_ hfull hmin he
    · rw [unpackExponent_packComponents, BitVec.toNat_ofNat]
      show (e + 127 + 23).toNat % 256 = _
      omega
    · rw [unpackMantissa_packComponents, BitVec.toNat_ofNat]
      show m % 8388608 = _
      omega
  · rw [if_neg hbits]
    have hsub : m < 2 ^ 23 := (Nat.log2_lt (Nat.ne_of_gt hm)).mp (by omega)
    obtain rfl : e = -149 := hcanonical.full.resolve_left (by omega)
    refine unpack_of_least (hsign ..) unpackExponent_packComponents ?_
    rw [unpackMantissa_packComponents, BitVec.toNat_ofNat]
    show m % 8388608 = _
    omega

theorem unpack_pack_infinite {hm : 0 < m} (he : 105 ≤ e) :
    unpack Format.binary32 (pack Format.binary32 (.finite .positive m e hm)) =
      .infinity .positive := by
  rw [pack_finite, if_pos (by omega)]
  rfl

/-- **What is stored is what was computed**, unless it is too great. -/
theorem unpack_pack (h : Between lo hi u) (hhi : hi ≤ 128) :
    unpack Format.binary32 (pack Format.binary32 u) = u := by
  obtain ⟨m, e, hm, rfl, hcanonical, -, hle⟩ := h
  refine unpack_pack_finite hcanonical ?_
  rcases hcanonical.full with hfull | hleast
  · have hlog : 23 ≤ m.log2 := (Nat.le_log2 (Nat.ne_of_gt hm)).mpr hfull
    unfold totalExponent at hle
    omega
  · omega

end Bits

/-! ## Operations -/

section Operations

variable {m m₁ m₂ n : Nat} {e e₁ e₂ lo hi lo₁ hi₁ lo₂ hi₂ : Int} {u v : UnpackedFloat}

theorem Between.mono (h : Between lo₁ hi₁ u) (hlo : lo ≤ lo₁) (hhi : hi₁ ≤ hi) :
    Between lo hi u := by
  obtain ⟨m, e, hm, rfl, hcanonical, hle, hge⟩ := h
  exact ⟨m, e, hm, rfl, hcanonical, by omega, by omega⟩

/-- **A quotient is between powers of two** if it is not too small. -/
theorem between_div (hu : Between lo₁ hi₁ u) (hv : Between lo₂ hi₂ v) (hle : -148 ≤ lo₁ - hi₂) :
    Between (lo₁ - hi₂) (hi₁ - lo₂ + 2) (UnpackedFloat.div Format.binary32 u v) := by
  obtain ⟨m₁, e₁, hm₁, rfl, -, hlo₁, hhi₁⟩ := hu
  obtain ⟨m₂, e₂, hm₂, rfl, -, hlo₂, hhi₂⟩ := hv
  show Between _ _ (roundWithAccuracy _ _ (divCore ..).1 (divCore ..).2.1 (divCore ..).2.2)
  unfold divCore
  dsimp only
  rw [targetExponent_binary32]
  -- The exponent `s` is so small that the quotient has all bits that are needed.
  generalize hs : min (e₁ - e₂) (max (totalExponent m₁ e₁ - totalExponent m₂ e₂ - 24) (-149)) = s
  generalize hk : (e₁ - e₂ - s).toNat = k
  have hlog := log2_shiftLeft hm₁ k
  have hgap : m₂.log2 < (m₁ <<< k).log2 := by
    unfold totalExponent at *
    omega
  obtain ⟨hpos, hlow, hhigh⟩ := log2_div hm₂ hgap
  have htotal : totalExponent m₁ e₁ - totalExponent m₂ e₂ ≤ totalExponent (m₁ <<< k / m₂) s ∧
      totalExponent (m₁ <<< k / m₂) s ≤ totalExponent m₁ e₁ - totalExponent m₂ e₂ + 1 := by
    unfold totalExponent at *
    omega
  refine (between_roundWithAccuracy hpos ?_ ?_).mono ?_ ?_
  · rw [targetExponent_binary32]
    omega
  all_goals omega

/-- **A square root is between powers of two.** -/
theorem between_sqrt (hu : Between lo hi u) (hle : -148 ≤ lo) :
    Between ((lo - 1) / 2 + 1) ((hi - 1) / 2 + 2) (UnpackedFloat.sqrt Format.binary32 u) := by
  obtain ⟨m, e, hm, rfl, -, hlo, hhi⟩ := hu
  show Between _ _ (roundWithAccuracy _ _ (sqrtCore ..).1 (sqrtCore ..).2.1 (sqrtCore ..).2.2)
  unfold sqrtCore
  dsimp only
  rw [targetExponent_binary32]
  simp only [← Int.div_def]
  generalize hs : min (e / 2) (max ((totalExponent m e + 1) / 2 - 24) (-149)) = s
  generalize hk : (e - 2 * s).toNat = k
  have hlog := log2_shiftLeft hm k
  obtain ⟨hpos, hroot⟩ := log2_sqrt (shiftLeft_pos hm k)
  have htotal : totalExponent (m <<< k).sqrt s = (totalExponent m e - 1) / 2 + 1 := by
    unfold totalExponent
    omega
  refine (between_roundWithAccuracy hpos ?_ ?_).mono ?_ ?_
  · rw [targetExponent_binary32]
    omega
  all_goals omega

/-- Rounding to a format that has enough bits. -/
theorem between_round (hm : 0 < m) (hle : -148 ≤ totalExponent m e) :
    Between (totalExponent m e) (totalExponent m e + 1)
      (UnpackedFloat.round Format.binary32 .positive m e) := by
  unfold UnpackedFloat.round decreaseExponent
  dsimp only
  rw [targetExponent_binary32]
  generalize hk : (e - max (totalExponent m e - 24) (-149)).toNat = k
  have htotal := totalExponent_shiftLeft hm k e
  rw [← htotal] at hle ⊢
  refine between_roundWithAccuracy (shiftLeft_pos hm k) ?_ hle
  rw [targetExponent_binary32]
  omega

theorem mul_finite {spec : Format} (hm₁ : 0 < m₁) (hm₂ : 0 < m₂) :
    UnpackedFloat.mul spec (.finite .positive m₁ e₁ hm₁) (.finite .positive m₂ e₂ hm₂) =
      roundWithAccuracy spec .positive (m₁ * m₂) (e₁ + e₂) .exact := rfl

/-- A number does not change much if it is multiplied by one. -/
theorem between_mul_one (hu : Between lo hi u) (hle : -148 ≤ lo) :
    Between lo (hi + 1) (UnpackedFloat.mul Format.binary32 u
      (.finite .positive (2 ^ 23) (-23) (by decide))) := by
  obtain ⟨m, e, hm, rfl, hcanonical, hlo, hhi⟩ := hu
  have htotal := totalExponent_shiftLeft hm 23 e
  show Between _ _ (roundWithAccuracy _ .positive (m * 2 ^ 23) (e + -23) .exact)
  rw [← Nat.shiftLeft_eq, show e + -23 = e - (23 : Nat) from rfl]
  have hfull := hcanonical.full.imp_left (Nat.le_log2 (Nat.ne_of_gt hm)).mpr
  refine (between_roundWithAccuracy (shiftLeft_pos hm 23) ?_ ?_).mono ?_ ?_
  · rw [targetExponent_binary32, htotal]
    unfold totalExponent
    omega
  all_goals omega

theorem unpack_one : Float32.exactlyRepresentablePowersOfTen[0].toModel.unpack =
    .finite .positive (2 ^ 23) (-23) (by decide) := rfl

theorem ofNat_eq_round (hn : 0 < n) :
    UnpackedFloat.ofNat Format.binary32 n =
      UnpackedFloat.round Format.binary32 .positive n 0 := by
  have hcompare : compare (n : Int) 0 = .gt := Int.compare_eq_gt.mpr (by omega)
  unfold UnpackedFloat.ofNat ofInt UnpackedFloat.normalize
  rw [hcompare]
  rfl

/-- **A natural number is between powers of two.** -/
theorem exists_ofNat (hn : 0 < n) : ∃ u, (Float32.ofNat n).toModel = .pack u ∧
    Between (n.log2 + 1) (n.log2 + 3) u := by
  have htotal : totalExponent n 0 = n.log2 + 1 := Int.add_zero _
  show ∃ u, (Float32.ofScientific n false 0).toModel = .pack u ∧ _
  unfold Float32.ofScientific
  split
  -- What fits into the mantissa is converted and multiplied by ten to the power of zero.
  · next hsmall =>
    have hlog : n.log2 < 23 := (Nat.log2_lt (Nat.ne_of_gt hn)).mpr hsmall.1
    have hvalue : n.toUInt64.toNat = n := by
      show n % 2 ^ 64 = n
      omega
    have hround := between_round (e := 0) hn (by omega)
    refine ⟨UnpackedFloat.mul Format.binary32 n.toUInt64.toFloat32.toModel.unpack
      (.finite .positive (2 ^ 23) (-23) (by decide)), ?_, ?_⟩
    · rw [if_neg (by decide), ← unpack_one]
      rfl
    · show Between _ _ (UnpackedFloat.mul _
        (unpack _ (pack _ (UnpackedFloat.ofNat _ n.toUInt64.toNat))) _)
      rw [hvalue, ofNat_eq_round hn, unpack_pack hround (by omega)]
      exact (between_mul_one hround (by omega)).mono (by omega) (by omega)
  -- What does not fit is rounded once.
  · refine ⟨UnpackedFloat.ofScientific Format.binary32 n 0, rfl, ?_⟩
    have hshift := totalExponent_shiftLeft hn 24 0
    have hbits : (0 : Int) < 2 ^ Format.binary32.exponentBits := by decide
    have hgreat : ¬(0 : Int) > 2 ^ Format.binary32.exponentBits := by omega
    have hsmall : ¬(0 : Int) < -((2 ^ Format.binary32.exponentBits : Int) + n.log2) := by omega
    unfold ofScientific
    rw [dif_neg (Nat.ne_of_gt hn), if_neg hgreat, if_neg hsmall, if_pos (Int.le_refl 0)]
    rw [mul_finite, Int.add_zero, Int.toNat_zero, Nat.pow_zero, Nat.mul_one, ← Int.zero_sub]
    change Between _ _ (roundWithAccuracy _ .positive (n <<< 24) (0 - (24 : Nat)) .exact)
    refine (between_roundWithAccuracy (shiftLeft_pos hn 24) ?_ ?_).mono ?_ ?_
    · rw [targetExponent_binary32]
      omega
    all_goals omega

end Operations

/-! ## Values -/

section Values

variable {lo hi : Int} {u : UnpackedFloat} {x : Float32} {n : Nat}

theorem between_unpack (hx : x.toModel = .pack u) (h : Between lo hi u) (hhi : hi ≤ 128) :
    Between lo hi x.toModel.unpack := by
  rw [hx]
  show Between lo hi (unpack _ (pack _ u))
  rwa [unpack_pack h hhi]

/-- A number between powers of two is not zero. -/
theorem beq_zero_eq_false (hx : x.toModel = .pack u) (h : Between lo hi u) :
    (x == 0.0) = false := by
  show UnpackedFloat.beq x.toModel.unpack (.zero .positive) = false
  rw [hx]
  show UnpackedFloat.beq (unpack _ (pack _ u)) _ = false
  obtain ⟨m, e, hm, rfl, hcanonical, -⟩ := h
  by_cases he : e ≤ 104
  · rw [unpack_pack_finite hcanonical he]
    rfl
  · rw [unpack_pack_infinite (by omega)]
    rfl

/-- No positive natural number becomes zero. -/
theorem ofNat_beq_zero (hn : 0 < n) : (Float32.ofNat n == 0.0) = false := by
  obtain ⟨u, hu, hbetween⟩ := exists_ofNat hn
  exact beq_zero_eq_false hu hbetween

/-- A positive number that is at most one. -/
theorem between_of_le_one (hpos : 0.0 < x) (hle : x ≤ 1.0) :
    Between (-148) 1 x.toModel.unpack := by
  have hlt : UnpackedFloat.lt (.zero .positive) x.toModel.unpack = true := of_decide_eq_true hpos
  have hone : UnpackedFloat.le x.toModel.unpack (.finite .positive (2 ^ 23) (-23) (by decide)) =
    true := of_decide_eq_true hle
  generalize hu : x.toModel.unpack = u at hlt hone ⊢
  match u, hlt, hone with
  | .finite .positive m e hm, _, hone =>
    have hcanonical : Canonical m e := canonical_unpack hu
    have hlog : m.log2 < 24 := (Nat.log2_lt (Nat.ne_of_gt hm)).mpr hcanonical.lt
    have he : e ≤ -23 := by
      have hthen : ((compare e (-23)).then (compare m (2 ^ 23))).isLE = true := hone
      rw [Ordering.isLE_then_iff_and] at hthen
      exact Int.isLE_compare.mp hthen.1
    have hmin := hcanonical.le
    refine ⟨m, e, hm, rfl, hcanonical, ?_, ?_⟩
    all_goals
      unfold totalExponent
      omega
  | .infinity .positive, _, hone => cases hone
  | .infinity .negative, hlt, _ => cases hlt
  | .finite .negative .., hlt, _ => cases hlt

end Values

end MotionWatch.Single
