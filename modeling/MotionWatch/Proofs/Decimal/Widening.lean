import MotionWatch.Proofs.Decimal.Nearest

/-!
# Integers as doubles

An integer of more than 53 bits is no double unless its last bits are zero. It is rounded to the
nearest multiple of the unit in its last place, and of two that are equally close to the even one.

* `rounded`: an integer to 53 bits. `rounded_eq_self_iff`: which ones stay as they are.
* `value_of_rounds`: that is what a mantissa of 53 bits stands for.
* `Binary.toRat?`: the exact value of a double. `Canonical.eq_of_value_eq`: no two mantissas and
  exponents have the same.
* `exists_ofFloat_floatOfInt`: the double of an integer is exactly the rounded integer.
* `floatOfInt_eq_iff`: which integers have the same double.
-/

namespace MotionWatch.Decimal

/-! ## Rounding to 53 bits -/

/-- The unit in the last place of a number that is rounded to 53 bits. -/
def unit (n : ℕ) : ℕ := 2 ^ (n.log2 - 52)

/-- A natural number to 53 bits: the nearest multiple of the unit, the even one of two. -/
def roundedNat (n : ℕ) : ℕ := divNearestEven n (unit n) * unit n

/-- An integer to 53 bits. -/
def rounded (n : ℤ) : ℤ := n.sign * roundedNat n.natAbs

theorem unit_pos (n : ℕ) : 0 < unit n := Nat.two_pow_pos _

/-- **Which numbers stay as they are**: those that have 53 bits, apart from zeros at the end. -/
theorem roundedNat_eq_self_iff {n : ℕ} :
    roundedNat n = n ↔ ∃ m k, m < 2 ^ 53 ∧ n = m * 2 ^ k := by
  have hunit : roundedNat n = n ↔ unit n ∣ n := by
    refine ⟨fun h => Dvd.intro_left _ h, fun h => ?_⟩
    rw [roundedNat, divNearestEven_of_dvd (unit_pos n) h, Nat.div_mul_cancel h]
  rw [hunit]
  constructor
  · rintro ⟨m, hm⟩
    refine ⟨m, n.log2 - 52, ?_, hm.trans (Nat.mul_comm ..)⟩
    have hlt : n < 2 ^ (n.log2 + 1) := Nat.lt_log2_self
    have hbits : 2 ^ (n.log2 + 1) ≤ unit n * 2 ^ 53 := by
      rw [unit, ← Nat.pow_add]
      exact Nat.pow_le_pow_right Nat.two_pos (by omega)
    have hless : unit n * m < unit n * 2 ^ 53 := by
      rw [← hm]
      exact hlt.trans_le hbits
    exact Nat.lt_of_mul_lt_mul_left hless
  · rintro ⟨m, k, hm, rfl⟩
    have hlog : (m * 2 ^ k).log2 - 52 ≤ k := by
      rcases Nat.eq_zero_or_pos (m * 2 ^ k) with hzero | hpos
      · rw [hzero]
        exact Nat.zero_le k
      · have hlt : m * 2 ^ k < 2 ^ (53 + k) := by
          rw [Nat.pow_add]
          exact Nat.mul_lt_mul_of_pos_right hm (Nat.two_pow_pos k)
        have hlog := (Nat.log2_lt hpos.ne').mpr hlt
        omega
    exact (Nat.pow_dvd_pow 2 hlog).trans (Nat.dvd_mul_left ..)

theorem roundedNat_pos {n : ℕ} (hn : 0 < n) : 0 < roundedNat n := by
  have hle : unit n ≤ n :=
    (Nat.pow_le_pow_right Nat.two_pos (Nat.sub_le ..)).trans (Nat.log2_self_le hn.ne')
  have hquotient : 0 < n / unit n := Nat.div_pos hle (unit_pos n)
  exact Nat.mul_pos (hquotient.trans_le (div_le_divNearestEven n (unit n))) (unit_pos n)

theorem natAbs_rounded (n : ℤ) : (rounded n).natAbs = roundedNat n.natAbs := by
  by_cases hn : n = 0
  · subst hn
    rfl
  · rw [rounded, Int.natAbs_mul, Int.natAbs_sign_of_ne_zero hn, Nat.one_mul, Int.natAbs_natCast]

theorem rounded_neg_iff {n : ℤ} : rounded n < 0 ↔ n < 0 := by
  rcases lt_trichotomy n 0 with hn | rfl | hn
  · have hpos : (0 : ℤ) < roundedNat n.natAbs :=
      Int.natCast_pos.mpr (roundedNat_pos (Int.natAbs_pos.mpr hn.ne))
    rw [rounded, Int.sign_eq_neg_one_of_neg hn]
    omega
  · exact Iff.rfl
  · rw [rounded, Int.sign_eq_one_of_pos hn]
    omega

/-- An integer is rounded in the same way on both sides of zero. -/
theorem rounded_eq_iff {n r : ℤ} :
    rounded n = r ↔ roundedNat n.natAbs = r.natAbs ∧ (n < 0 ↔ r < 0) := by
  rw [← natAbs_rounded, ← rounded_neg_iff (n := n)]
  omega

/-- **Which integers stay as they are**: those that have 53 bits, apart from zeros at the end. -/
theorem rounded_eq_self_iff {n : ℤ} :
    rounded n = n ↔ ∃ (m : ℤ) (k : ℕ), m.natAbs < 2 ^ 53 ∧ n = m * 2 ^ k := by
  rw [rounded_eq_iff, and_iff_left Iff.rfl, roundedNat_eq_self_iff]
  constructor
  · rintro ⟨m, k, hm, heq⟩
    rcases Int.natAbs_eq n with hn | hn
    · exact ⟨m, k, hm, hn.trans (by rw [heq]; push_cast; rfl)⟩
    · refine ⟨-m, k, ?_, hn.trans (by rw [heq]; push_cast; ring)⟩
      rwa [Int.natAbs_neg, Int.natAbs_natCast]
  · rintro ⟨m, k, hm, rfl⟩
    refine ⟨m.natAbs, k, hm, ?_⟩
    rw [Int.natAbs_mul, Int.natAbs_pow]
    rfl

theorem exponent_pos {n : ℕ} {k : ℤ} (hpos : 0 < n) (hlt : (n : ℚ) < 2 ^ k) : 0 < k := by
  have hone : (2 : ℚ) ^ (0 : ℤ) ≤ n := by
    rw [zpow_zero]
    exact_mod_cast hpos
  exact (zpow_lt_zpow_iff_right₀ (by norm_num : (1 : ℚ) < 2)).mp (hone.trans_lt hlt)

/-- The exponent of a number by the powers of two next to it. -/
theorem log2_eq_of_between {n : ℕ} {e : ℤ} (hpos : 0 < n) (hle : (2 : ℚ) ^ (52 + e) ≤ n)
    (hlt : (n : ℚ) < 2 ^ (53 + e)) : (n.log2 : ℤ) = 52 + e := by
  have hexponent := exponent_pos hpos hlt
  obtain ⟨k, hk⟩ := Int.eq_ofNat_of_zero_le (show 0 ≤ 52 + e by omega)
  rw [show 53 + e = ((k + 1 : ℕ) : ℤ) by omega, zpow_natCast] at hlt
  rw [hk, zpow_natCast] at hle
  rw [hk, (Nat.log2_eq_iff hpos.ne').mpr ⟨by exact_mod_cast hle, by exact_mod_cast hlt⟩]

/-- **A mantissa that was rounded is that of the number to 53 bits.** -/
theorem value_of_rounds {n m : ℕ} {e : ℤ} (hlog : (n.log2 : ℤ) = 52 + e)
    (h : Rounds (n / 2 ^ e) m) : (m : ℚ) * 2 ^ e = roundedNat n := by
  rcases le_or_gt e 0 with he | he
  · -- The unit is one, and the mantissa is the number with some zeros.
    obtain ⟨k, rfl⟩ : ∃ k : ℕ, e = -k := ⟨(-e).toNat, by omega⟩
    have hunit : unit n = 1 := by rw [unit, show n.log2 - 52 = 0 by omega, Nat.pow_zero]
    have hscaled : (n : ℚ) / 2 ^ (-k : ℤ) = (n * 2 ^ k : ℕ) / (1 : ℕ) := by
      rw [zpow_neg, div_inv_eq_mul, zpow_natCast]
      push_cast
      rw [div_one]
    have hm := divNearestEven_eq Nat.one_pos (hscaled ▸ h)
    rw [divNearestEven_one] at hm
    rw [← hm, roundedNat, hunit, divNearestEven_one, Nat.mul_one, zpow_neg, zpow_natCast]
    push_cast
    exact mul_inv_cancel_right₀ (by positivity) _
  · obtain ⟨k, rfl⟩ := Int.eq_ofNat_of_zero_le he.le
    have hunit : unit n = 2 ^ k := by rw [unit, show n.log2 - 52 = k by omega]
    have hscaled : (n : ℚ) / 2 ^ (k : ℤ) = n / (2 ^ k : ℕ) := by
      rw [zpow_natCast]
      push_cast
      rfl
    rw [roundedNat, hunit, divNearestEven_eq (Nat.two_pow_pos k) (hscaled ▸ h), zpow_natCast]
    push_cast
    rfl

/-! ## Doubles of integers -/

/-- The exact value, if there is one. -/
def Binary.toRat? : Binary → Option ℚ
  | .finite negative m e => some (if negative then -(m * 2 ^ e) else m * 2 ^ e)
  | _ => none

/-- A number of a format has one mantissa and one exponent. -/
theorem BinaryFormat.Canonical.eq_of_value_eq {f : BinaryFormat} (hf : f.Balanced) {m m' : ℕ}
    {e e' : ℤ} (h : f.Canonical m e) (h' : f.Canonical m' e')
    (heq : (m : ℚ) * 2 ^ e = m' * 2 ^ e') : m = m' ∧ e = e' := by
  wlog hle : e ≤ e' generalizing m m' e e'
  · exact (this h' h heq.symm (le_of_not_ge hle)).imp Eq.symm Eq.symm
  have hpos : (0 : ℚ) < 2 ^ e := by positivity
  obtain ⟨k, rfl⟩ : ∃ k : ℕ, e' = e + k := ⟨(e' - e).toNat, by omega⟩
  have hm : m = m' * 2 ^ k := by
    rw [zpow_add₀ (by norm_num), zpow_natCast, mul_comm (2 ^ e : ℚ), ← mul_assoc,
      mul_left_inj' hpos.ne'] at heq
    exact_mod_cast heq
  rcases Nat.eq_zero_or_pos k with rfl | hk
  · exact ⟨hm.trans (Nat.mul_one m'), (add_zero e).symm⟩
  · -- A mantissa that uses all of its bits cannot be shifted.
    have hleast := h.le
    have hfull := h'.full.resolve_right (by omega)
    have hshift : 2 ^ f.precision ≤ m := by
      rw [hm, hf.two_pow_precision, Nat.mul_comm]
      exact Nat.mul_le_mul hfull (Nat.le_self_pow hk.ne' 2)
    exact absurd h.lt (Nat.not_lt.mpr hshift)

/-- What a natural number is rounded to is a double. -/
theorem exists_toFloat_nearest (negative : Bool) {n : ℕ} (hpos : 0 < n) (hn : n < 2 ^ 64) :
    ∃ m e, BinaryFormat.binary64.Canonical m e ∧ e + 53 ≤ 1024 ∧
      (m : ℚ) * 2 ^ e = roundedNat n ∧
      toFloat (nearest .binary64 negative n 1) = toFloat (.finite negative m e) := by
  obtain ⟨n', d, e, hnearest, hd, hquotient, hle, hlt, hfull⟩ :=
    exists_nearest .binary64 negative hpos Nat.one_pos
  rw [Nat.cast_one, div_one] at hquotient hlt hfull
  have hrounds := hquotient ▸ rounds_divNearestEven n' hd
  rw [hnearest]
  generalize divNearestEven n' d = m at hrounds
  have hexponent : 0 < 53 + e := exponent_pos hpos hlt
  have hlow : (2 : ℚ) ^ ((52 : ℕ) + e) ≤ n := by
    rcases hfull with hfull | hleast
    · rwa [show ((BinaryFormat.binary64.precision : ℕ) : ℤ) + e - 1 = (52 : ℕ) + e from
        (show (53 : ℤ) + e - 1 = 52 + e by omega)] at hfull
    · change e = -1074 at hleast
      omega
  have hlog := log2_eq_of_between hpos hlow hlt
  have hbits := (Nat.log2_lt hpos.ne').mpr hn
  have hvalue := value_of_rounds hlog hrounds
  have hmin : 2 ^ 52 ≤ m := hrounds.le_of_ge hlow
  have hmax : m ≤ 2 ^ 53 := hrounds.le_of_lt hlt
  rcases hmax.lt_or_eq with hless | rfl
  · exact ⟨m, e, ⟨hless, hle, .inl hmin⟩, by omega, hvalue, rfl⟩
  · refine ⟨2 ^ 52, e + 1, ⟨by decide, hle.trans (by omega), .inl (Nat.le_refl _)⟩, by omega,
      ?_, ?_⟩
    · rw [← hvalue, zpow_add_one₀ (by norm_num)]
      push_cast
      ring
    · exact congrArg (fun bits => Float.ofBits (.ofNat bits))
        (Binary.encode_carry BinaryFormat.balanced_binary64)

/-- **The double of an integer is exactly the rounded integer.** -/
theorem exists_ofFloat_floatOfInt {n : ℤ} (hn : n.natAbs < 2 ^ 64) :
    ∃ m e, BinaryFormat.binary64.Canonical m e ∧ (m : ℚ) * 2 ^ e = roundedNat n.natAbs ∧
      ofFloat (floatOfInt n) = .finite (decide (n < 0)) m e := by
  rcases Nat.eq_zero_or_pos n.natAbs with hzero | hpos
  · obtain rfl := Int.natAbs_eq_zero.mp hzero
    have hleast : BinaryFormat.binary64.Canonical 0 (-1074) := ⟨by decide, by decide, .inr rfl⟩
    exact ⟨0, -1074, hleast, by rw [Nat.cast_zero, zero_mul]; rfl,
      ofFloat_toFloat hleast (by decide)⟩
  · obtain ⟨m, e, hcanonical, hle, hvalue, hfloat⟩ :=
      exists_toFloat_nearest (decide (n < 0)) hpos hn
    exact ⟨m, e, hcanonical, hvalue,
      (congrArg ofFloat hfloat).trans (ofFloat_toFloat hcanonical hle)⟩

theorem toRat?_floatOfInt {n : ℤ} (hn : n.natAbs < 2 ^ 64) :
    (ofFloat (floatOfInt n)).toRat? = some (rounded n : ℚ) := by
  obtain ⟨m, e, -, hvalue, hexact⟩ := exists_ofFloat_floatOfInt hn
  have hsigned : rounded n =
      if n < 0 then -(roundedNat n.natAbs : ℤ) else (roundedNat n.natAbs : ℤ) := by
    have habs := natAbs_rounded n
    have hneg := rounded_neg_iff (n := n)
    split <;> omega
  simp only [hexact, Binary.toRat?, hvalue, hsigned, decide_eq_true_eq]
  split
  · push_cast
    rfl
  · push_cast
    rfl

/-- **Which integers have the same double.** -/
theorem floatOfInt_eq_iff {n n' : ℤ} (hn : n.natAbs < 2 ^ 64) (hn' : n'.natAbs < 2 ^ 64) :
    floatOfInt n = floatOfInt n' ↔ rounded n = rounded n' := by
  constructor
  · intro h
    have hvalue := toRat?_floatOfInt hn
    rw [h, toRat?_floatOfInt hn'] at hvalue
    exact_mod_cast (Option.some.inj hvalue).symm
  · intro h
    obtain ⟨m, e, hcanonical, hvalue, hexact⟩ := exists_ofFloat_floatOfInt hn
    obtain ⟨m', e', hcanonical', hvalue', hexact'⟩ := exists_ofFloat_floatOfInt hn'
    obtain ⟨habs, hneg⟩ := rounded_eq_iff.mp h
    rw [natAbs_rounded] at habs
    rw [rounded_neg_iff] at hneg
    obtain ⟨rfl, rfl⟩ := hcanonical.eq_of_value_eq BinaryFormat.balanced_binary64 hcanonical'
      (by rw [hvalue, hvalue', habs])
    rw [← toFloat_of_finite hexact, ← toFloat_of_finite hexact', decide_eq_decide.mpr hneg]

end MotionWatch.Decimal
