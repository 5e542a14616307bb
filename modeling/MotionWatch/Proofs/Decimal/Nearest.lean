import Mathlib.Algebra.Order.Field.Power
import Mathlib.Algebra.Order.Field.Rat
import Mathlib.Data.Nat.Cast.Order.Field
import Mathlib.Tactic.FieldSimp
import Mathlib.Tactic.Linarith
import Mathlib.Tactic.Positivity
import Mathlib.Tactic.Ring
import MotionWatch.Decimal.Shortest
import MotionWatch.Proofs.Decimal.Binary

/-!
# Rounding to the nearest number

A decimal is read as the closest number of a format. All decimals in the interval of a number read
back as that number.

* `Rounds`, `divNearestEven_eq`, `rounds_divNearestEven`: rounding to an integer.
* `exists_nearest`: what a fraction is rounded to.
* `Interval.Contains`: the decimals that lie in an interval.
* `encode_nearest`, `encode_nearestDecimal`: what lies in the interval of a number is rounded to it.
-/

namespace MotionWatch.Decimal

/-! ## Powers -/

theorem pow_toNat_div {b : ℚ} (hb : b ≠ 0) (e : ℤ) : b ^ e.toNat / b ^ (-e).toNat = b ^ e := by
  rw [← zpow_natCast, ← zpow_natCast, ← zpow_sub₀ hb]
  congr 1
  omega

/-- Of two bases the greater one has the smaller powers below one. -/
theorem zpow_anti_base {a b : ℚ} (ha : 0 < a) (hab : a ≤ b) {k : ℤ} (hk : k ≤ 0) :
    b ^ k ≤ a ^ k := by
  have h : a ^ (-k) ≤ b ^ (-k) := zpow_le_zpow_left₀ (by omega) ha.le hab
  have hpos : 0 < a ^ (-k) := zpow_pos ha _
  simpa only [zpow_neg, inv_inv] using inv_anti₀ hpos h

theorem two_zpow_sub_one (e : ℤ) : (2 : ℚ) ^ (e - 1) = 2 ^ e / 2 := zpow_sub_one₀ (by norm_num) e

theorem div_two_zpow_lt_iff {x : ℚ} {p : ℕ} {e : ℤ} : x / 2 ^ e < 2 ^ p ↔ x < 2 ^ (p + e) := by
  have hpos : (0 : ℚ) < 2 ^ e := by positivity
  rw [zpow_add₀ (by norm_num), zpow_natCast, ← div_lt_iff₀ hpos]

/-! ## Rounding to an integer -/

/-- A fraction is closest to an integer. Of two that are equally close it is the even one. -/
structure Rounds (x : ℚ) (n : ℕ) : Prop where
  low : 2 * n - 1 ≤ 2 * x
  high : 2 * x ≤ 2 * n + 1
  strict : n % 2 = 0 ∨ 2 * n - 1 < 2 * x ∧ 2 * x < 2 * n + 1

/-- The same in natural numbers. -/
theorem rounds_iff {num den n : ℕ} (hden : 0 < den) : Rounds (num / den) n ↔
    2 * (den * n) ≤ 2 * num + den ∧ 2 * num ≤ 2 * (den * n) + den ∧
      (n % 2 = 0 ∨ 2 * (den * n) < 2 * num + den ∧ 2 * num < 2 * (den * n) + den) := by
  have hpos : (0 : ℚ) < den := by exact_mod_cast hden
  have hcomm : (2 * n * den : ℚ) = 2 * (den * n) := by ring
  have hlow : (2 * n - 1 : ℚ) ≤ 2 * (num / den) ↔ 2 * (den * n) ≤ 2 * num + den := by
    rw [← mul_div_assoc, le_div_iff₀ hpos, sub_mul, sub_le_iff_le_add, one_mul, hcomm]
    norm_cast
  have hlow' : (2 * n - 1 : ℚ) < 2 * (num / den) ↔ 2 * (den * n) < 2 * num + den := by
    rw [← mul_div_assoc, lt_div_iff₀ hpos, sub_mul, sub_lt_iff_lt_add, one_mul, hcomm]
    norm_cast
  have hhigh : (2 * (num / den) : ℚ) ≤ 2 * n + 1 ↔ 2 * num ≤ 2 * (den * n) + den := by
    rw [← mul_div_assoc, div_le_iff₀ hpos, add_mul, one_mul, hcomm]
    norm_cast
  have hhigh' : (2 * (num / den) : ℚ) < 2 * n + 1 ↔ 2 * num < 2 * (den * n) + den := by
    rw [← mul_div_assoc, div_lt_iff₀ hpos, add_mul, one_mul, hcomm]
    norm_cast
  rw [← hlow, ← hlow', ← hhigh, ← hhigh']
  exact ⟨fun h => ⟨h.low, h.high, h.strict⟩, fun ⟨hl, hh, hs⟩ => ⟨hl, hh, hs⟩⟩

theorem divNearestEven_eq {num den n : ℕ} (hden : 0 < den) (h : Rounds (num / den) n) :
    divNearestEven num den = n := by
  obtain ⟨hlow, hhigh, hstrict⟩ := (rounds_iff hden).mp h
  have hdiv := Nat.div_add_mod num den
  have hrest := Nat.mod_lt num hden
  unfold divNearestEven
  dsimp only
  generalize num / den = q at *
  generalize num % den = r at *
  -- The integer is the quotient or the next one.
  obtain rfl | rfl : n = q ∨ n = q + 1 := by
    have hle : n ≤ q + 1 := by
      by_contra hgt
      nlinarith
    have hge : q ≤ n := by
      by_contra hlt
      nlinarith
    omega
  · split
    · rfl
    · rw [if_neg (by omega), if_pos (by omega)]
  · rw [Nat.mul_succ] at hlow hhigh hstrict
    rw [if_neg (by omega)]
    split
    · rfl
    · exact if_neg (by omega)

/-- **A quotient is rounded to the nearest integer.** -/
theorem rounds_divNearestEven (num : ℕ) {den : ℕ} (hden : 0 < den) :
    Rounds (num / den) (divNearestEven num den) := by
  have hdiv := Nat.div_add_mod num den
  have hrest := Nat.mod_lt num hden
  rw [rounds_iff hden]
  unfold divNearestEven
  dsimp only
  generalize num / den = q at *
  generalize num % den = r at *
  have hsucc := Nat.mul_succ den q
  split
  · omega
  · split
    · rw [hsucc]
      omega
    · split
      · omega
      · rw [hsucc]
        omega

theorem divNearestEven_of_dvd {num den : ℕ} (hden : 0 < den) (h : den ∣ num) :
    divNearestEven num den = num / den := by
  unfold divNearestEven
  dsimp only
  rw [Nat.mod_eq_zero_of_dvd h, if_pos (by omega)]

theorem divNearestEven_one (n : ℕ) : divNearestEven n 1 = n :=
  (divNearestEven_of_dvd Nat.one_pos (Nat.one_dvd n)).trans (Nat.div_one n)

theorem div_le_divNearestEven (num den : ℕ) : num / den ≤ divNearestEven num den := by
  unfold divNearestEven
  dsimp only
  split
  · exact Nat.le_refl _
  · split
    · exact Nat.le_succ _
    · split
      · exact Nat.le_refl _
      · exact Nat.le_succ _

theorem scaleDown_snd_pos {num den : ℕ} (hden : 0 < den) (e : ℤ) : 0 < (scaleDown num den e).2 :=
  Nat.mul_pos hden (Nat.pow_pos (by decide))

theorem scaleDown_eq {num den : ℕ} (e : ℤ) :
    ((scaleDown num den e).1 : ℚ) / (scaleDown num den e).2 = num / den / 2 ^ e := by
  unfold scaleDown
  rw [← pow_toNat_div (by norm_num : (2 : ℚ) ≠ 0) e]
  simp only [Nat.pow_eq]
  push_cast
  field_simp

/-! ## Rounding to a format -/

variable {f : BinaryFormat} {negative : Bool} {num den m : ℕ} {e : ℤ} {x : ℚ}

/-- A quotient is between two powers of two. -/
theorem log2_between (hnum : 0 < num) (hden : 0 < den) :
    (2 : ℚ) ^ ((num.log2 : ℤ) - den.log2 - 1) < num / den ∧
      (num : ℚ) / den < 2 ^ ((num.log2 : ℤ) - den.log2 + 1) := by
  have hpos : (0 : ℚ) < den := by exact_mod_cast hden
  have hnum_le : (2 : ℚ) ^ (num.log2 : ℤ) ≤ num := by
    exact_mod_cast Nat.log2_self_le hnum.ne'
  have hnum_lt : (num : ℚ) < 2 ^ ((num.log2 : ℤ) + 1) := by
    exact_mod_cast (Nat.lt_log2_self : num < 2 ^ (num.log2 + 1))
  have hden_le : (2 : ℚ) ^ (den.log2 : ℤ) ≤ den := by
    exact_mod_cast Nat.log2_self_le hden.ne'
  have hden_lt : (den : ℚ) < 2 ^ ((den.log2 : ℤ) + 1) := by
    exact_mod_cast (Nat.lt_log2_self : den < 2 ^ (den.log2 + 1))
  constructor
  · rw [lt_div_iff₀ hpos]
    calc (2 : ℚ) ^ ((num.log2 : ℤ) - den.log2 - 1) * den
        < 2 ^ ((num.log2 : ℤ) - den.log2 - 1) * 2 ^ ((den.log2 : ℤ) + 1) :=
          mul_lt_mul_of_pos_left hden_lt (by positivity)
      _ = 2 ^ (num.log2 : ℤ) := by
          rw [← zpow_add₀ (by norm_num)]
          congr 1
          ring
      _ ≤ num := hnum_le
  · rw [div_lt_iff₀ hpos]
    calc (num : ℚ) < 2 ^ ((num.log2 : ℤ) + 1) := hnum_lt
      _ = 2 ^ ((num.log2 : ℤ) - den.log2 + 1) * 2 ^ (den.log2 : ℤ) := by
          rw [← zpow_add₀ (by norm_num)]
          congr 1
          ring
      _ ≤ _ := mul_le_mul_of_nonneg_left hden_le (by positivity)

theorem scaleDown_lt_iff (num : ℕ) (hden : 0 < den) (p : ℕ) (e : ℤ) :
    (scaleDown num den e).1 / (scaleDown num den e).2 < 2 ^ p ↔ (num : ℚ) / den < 2 ^ (p + e) := by
  have hpos : (0 : ℚ) < (scaleDown num den e).2 := by exact_mod_cast scaleDown_snd_pos hden e
  rw [← div_two_zpow_lt_iff, ← scaleDown_eq, div_lt_iff₀ hpos,
    Nat.div_lt_iff_lt_mul (scaleDown_snd_pos hden e)]
  norm_cast

/-- The exponent that leaves all bits of the mantissa in use. The guess is one too small if the
quotient has a bit more. -/
theorem between_of_guess (hnum : 0 < num) (hden : 0 < den) {p : ℕ} {guess best : ℤ}
    (hguess : (num.log2 : ℤ) - den.log2 - p = guess)
    (hbest : (if (scaleDown num den guess).1 / (scaleDown num den guess).2 < 2 ^ p
      then guess else guess + 1) = best) :
    2 ^ (p + best - 1) ≤ (num : ℚ) / den ∧ (num : ℚ) / den < 2 ^ (p + best) := by
  obtain ⟨hlow, hhigh⟩ := log2_between hnum hden
  rw [← hbest]
  split
  · next h =>
    refine ⟨?_, (scaleDown_lt_iff num hden p guess).mp h⟩
    rw [show (p : ℤ) + guess - 1 = num.log2 - den.log2 - 1 by omega]
    exact hlow.le
  · next h =>
    rw [scaleDown_lt_iff num hden, not_lt] at h
    rw [show (p : ℤ) + (guess + 1) - 1 = p + guess by omega,
      show (p : ℤ) + (guess + 1) = num.log2 - den.log2 + 1 by omega]
    exact ⟨h, hhigh⟩

/-- What a number is rounded to: to an integral multiple of a power of two, which is the least one
or leaves all bits of the mantissa in use. -/
theorem exists_nearest (f : BinaryFormat) (negative : Bool) (hnum : 0 < num) (hden : 0 < den) :
    ∃ n d e, nearest f negative num den = .finite negative (divNearestEven n d) e ∧
      0 < d ∧ (n : ℚ) / d = num / den / 2 ^ e ∧ f.minExponent ≤ e ∧
      (num : ℚ) / den < 2 ^ (f.precision + e) ∧
      (2 ^ (f.precision + e - 1) ≤ (num : ℚ) / den ∨ e = f.minExponent) := by
  unfold nearest
  rw [if_neg hnum.ne']
  dsimp only
  generalize hguess : (num.log2 : ℤ) - den.log2 - f.precision = guess
  generalize hbest : (if (scaleDown num den guess).1 / (scaleDown num den guess).2 <
    Nat.pow 2 f.precision then guess else guess + 1) = best
  obtain ⟨hle, hlt⟩ := between_of_guess hnum hden hguess hbest
  refine ⟨_, _, _, rfl, scaleDown_snd_pos hden _, scaleDown_eq _, le_max_left .., ?_, ?_⟩
  · refine hlt.trans_le (zpow_le_zpow_right₀ (by norm_num) ?_)
    exact Int.add_le_add_left (le_max_right ..) _
  · rcases max_choice f.minExponent best with h | h
    · exact .inr h
    · exact .inl (by rwa [h])

/-! ## Reading back -/

/-- A decimal lies between the bounds of an interval, which belong to it if it is closed. -/
structure Interval.Contains (i : Interval) (x : ℚ) : Prop where
  low : i.low * 2 ^ i.exponent ≤ x
  high : x ≤ i.high * 2 ^ i.exponent
  strict : i.closed = true ∨ i.low * 2 ^ i.exponent < x ∧ x < i.high * 2 ^ i.exponent

namespace Interval

theorem le_low (f : BinaryFormat) (m : ℕ) (e : ℤ) (hm : 0 < m) :
    (4 * m - 2 : ℚ) ≤ (Interval.of f m e).low := by
  have hnat : 4 * m ≤ (Interval.of f m e).low + 2 := by
    unfold Interval.of
    dsimp only
    split <;> omega
  have hcast : (4 * m : ℚ) ≤ (Interval.of f m e).low + 2 := by exact_mod_cast hnat
  linarith

/-- What lies in the interval of a number is closest to the mantissa. -/
theorem Contains.rounds (hm : 0 < m) (h : (Interval.of f m e).Contains x) :
    Rounds (x / 2 ^ e) m := by
  have hpos : (0 : ℚ) < 2 ^ e := by positivity
  have hle := le_low f m e hm
  have hexponent : (2 : ℚ) ^ (Interval.of f m e).exponent = 2 ^ e / 4 := by
    show (2 : ℚ) ^ (e - 2) = 2 ^ e / 4
    rw [show e - 2 = e - 1 - 1 by omega, two_zpow_sub_one, two_zpow_sub_one]
    ring
  have hscale (a : ℚ) : a * (2 ^ e / 4) = a / 4 * 2 ^ e := by ring
  have htop : ((Interval.of f m e).high : ℚ) = 4 * m + 2 := by
    unfold Interval.of
    push_cast
    rfl
  have hclosed : (Interval.of f m e).closed = true → m % 2 = 0 := fun h => by
    simpa [Interval.of] using h
  obtain ⟨y, rfl⟩ : ∃ y, x = y * 2 ^ e := ⟨x / 2 ^ e, (div_mul_cancel₀ _ hpos.ne').symm⟩
  obtain ⟨hlow, hhigh, hstrict⟩ := h
  rw [hexponent, hscale, mul_le_mul_iff_left₀ hpos] at hlow hhigh
  rw [hexponent, hscale, hscale, mul_lt_mul_iff_left₀ hpos, mul_lt_mul_iff_left₀ hpos] at hstrict
  rw [mul_div_cancel_right₀ _ hpos.ne']
  exact ⟨by linarith, by linarith, hstrict.imp hclosed fun ⟨hl, hh⟩ => ⟨by linarith, by linarith⟩⟩

/-- Below a power of two the interval ends earlier. -/
theorem Contains.le_of_power (hm : 0 < m) (hpower : m = 2 ^ (f.precision - 1))
    (he : f.minExponent < e) (h : (Interval.of f m e).Contains x) :
    (4 * m - 1) * 2 ^ (e - 2) ≤ x := by
  have hlow : (Interval.of f m e).low = 4 * m - 1 := by
    unfold Interval.of
    rw [Nat.pow_eq, if_pos ⟨hpower, he⟩]
  have h := h.low
  rw [hlow, Nat.cast_sub (by omega)] at h
  push_cast at h
  exact h

end Interval

theorem Rounds.lt (h : Rounds (x / 2 ^ e) m) {p : ℕ} (hm : m < 2 ^ p) : x < 2 ^ (p + e) := by
  have hle : (m + 1 : ℚ) ≤ 2 ^ p := by exact_mod_cast hm
  rw [← div_two_zpow_lt_iff]
  linarith [h.high]

theorem Rounds.le_of_lt (h : Rounds (x / 2 ^ e) m) {p : ℕ} (hx : x < 2 ^ (p + e)) : m ≤ 2 ^ p := by
  rw [← div_two_zpow_lt_iff] at hx
  have hlt : (2 * m : ℚ) < 2 * 2 ^ p + 1 := by linarith [h.low]
  have hnat : 2 * m < 2 * 2 ^ p + 1 := by exact_mod_cast hlt
  omega

theorem Rounds.le_of_ge (h : Rounds (x / 2 ^ e) m) {p : ℕ} (hx : 2 ^ (p + e) ≤ x) : 2 ^ p ≤ m := by
  have hle : (2 : ℚ) ^ p ≤ x / 2 ^ e := not_lt.mp (div_two_zpow_lt_iff.not.mpr (not_lt.mpr hx))
  have hlt : (2 * 2 ^ p : ℚ) < 2 * m + 2 := by linarith [h.high]
  have hnat : 2 * 2 ^ p < 2 * m + 2 := by exact_mod_cast hlt
  omega

theorem Rounds.ge (h : Rounds (x / 2 ^ e) m) (hm : 0 < m) : 2 ^ (e - 1) ≤ x := by
  have hpos : (0 : ℚ) < 2 ^ e := by positivity
  have hone : (1 : ℚ) ≤ m := by exact_mod_cast hm
  have hhalf : (1 / 2 : ℚ) ≤ x / 2 ^ e := by linarith [h.low]
  rw [le_div_iff₀ hpos] at hhalf
  rw [two_zpow_sub_one]
  linarith

section Below

variable (hpower : m = 2 ^ (f.precision - 1)) (hle : (4 * m - 1) * 2 ^ (e - 2) ≤ x)
include hpower hle

/-- Just below a power of two the exponent is one less. -/
theorem ge_of_power (hm : 0 < m) : 2 ^ ((f.precision - 1 : ℕ) + (e - 1)) ≤ x := by
  have hone : (1 : ℚ) ≤ m := by exact_mod_cast hm
  have hpos : (0 : ℚ) < 2 ^ (e - 1) := by positivity
  have hmantissa : (2 : ℚ) ^ (f.precision - 1) = m := by exact_mod_cast hpower.symm
  rw [show e - 2 = e - 1 - 1 by omega, two_zpow_sub_one] at hle
  rw [zpow_add₀ (by norm_num), zpow_natCast, hmantissa]
  nlinarith

/-- With that exponent, a number just below a power of two is rounded up to it. -/
theorem rounds_two_pow (hf : f.Balanced) (hlt : x < 2 ^ (f.precision + (e - 1))) :
    Rounds (x / 2 ^ (e - 1)) (2 ^ f.precision) := by
  have hpos : (0 : ℚ) < 2 ^ (e - 1) := by positivity
  have htwice : (2 : ℚ) ^ f.precision = 2 * m := by
    have hnat : 2 ^ f.precision = 2 * m := by rw [hf.two_pow_precision, hpower]
    exact_mod_cast hnat
  have hlow : (2 * m - 1 / 2 : ℚ) ≤ x / 2 ^ (e - 1) := by
    rw [show e - 2 = e - 1 - 1 by omega, two_zpow_sub_one] at hle
    rw [le_div_iff₀ hpos]
    linarith
  have hhigh : x / 2 ^ (e - 1) < 2 * m := htwice ▸ div_two_zpow_lt_iff.mpr hlt
  refine ⟨?_, ?_, .inl ?_⟩
  · push_cast
    linarith
  · push_cast
    linarith
  · rw [hf.two_pow_precision, Nat.mul_mod_right]

end Below

/-- **What lies in the interval of a number is rounded to it.** -/
theorem encode_nearest (hf : f.Balanced) (h : f.Canonical m e) (hm : 0 < m) (hnum : 0 < num)
    (hden : 0 < den) (hx : (Interval.of f m e).Contains (num / den)) :
    (nearest f negative num den).encode f = (Binary.finite negative m e).encode f := by
  obtain ⟨n, d, e', hnearest, hd, hquotient, hle, hlt, hfull⟩ :=
    exists_nearest f negative hnum hden
  have hrounds := hx.rounds hm
  have hleast := h.le
  have hpos := hf.precision_pos
  have hmono {a b : ℤ} (hab : a ≤ b) : (2 : ℚ) ^ a ≤ 2 ^ b :=
    zpow_le_zpow_right₀ (by norm_num) hab
  rw [hnearest]
  generalize (num : ℚ) / den = x at *
  obtain hless | rfl | hgreater := lt_trichotomy e' e
  · -- The number is a power of two, and the decimal is below it.
    have hpower : m = 2 ^ (f.precision - 1) := by
      refine le_antisymm (hrounds.le_of_lt (hlt.trans_le (hmono (by omega)))) ?_
      exact h.full.resolve_right (by omega)
    have hbelow := hx.le_of_power hm hpower (by omega)
    obtain rfl : e' = e - 1 := by
      by_contra hne
      have hsmall : x < 2 ^ ((f.precision - 1 : ℕ) + (e - 1)) := hlt.trans_le (hmono (by omega))
      exact absurd (ge_of_power hpower hbelow hm) (not_le.mpr hsmall)
    rw [divNearestEven_eq hd (hquotient ▸ rounds_two_pow hpower hbelow hf hlt),
      Binary.encode_carry hf, sub_add_cancel, hpower]
  · rw [divNearestEven_eq hd (hquotient ▸ hrounds)]
  · have hgreat := hfull.resolve_right (by omega)
    exact absurd (hrounds.lt h.lt) (not_lt.mpr ((hmono (by omega)).trans hgreat))

/-! ## Decimals -/

/-- A natural number is between two powers of ten. -/
theorem digits_between {digits : ℕ} (hdigits : 0 < digits) :
    10 ^ ((Nat.toDigits 10 digits).length - 1) ≤ digits ∧
      digits < 10 ^ (Nat.toDigits 10 digits).length := by
  have hpos : 0 < (Nat.toDigits 10 digits).length := Nat.length_toDigits_pos
  refine ⟨?_, (Nat.length_toDigits_le_iff (by decide) hpos).mp (Nat.le_refl _)⟩
  by_contra hlt
  by_cases hone : (Nat.toDigits 10 digits).length = 1
  · rw [hone] at hlt
    omega
  · have hle := (Nat.length_toDigits_le_iff (b := 10) (n := digits)
      (k := (Nat.toDigits 10 digits).length - 1) (by decide) (by omega)).mpr (Nat.lt_of_not_le hlt)
    omega

theorem decimal_between {digits : ℕ} (hdigits : 0 < digits) (exponent : ℤ) :
    (10 : ℚ) ^ ((Nat.toDigits 10 digits).length + exponent - 1) ≤ digits * 10 ^ exponent ∧
      (digits : ℚ) * 10 ^ exponent < 10 ^ ((Nat.toDigits 10 digits).length + exponent) := by
  obtain ⟨hfirst, hlast⟩ := digits_between hdigits
  have hlength : 0 < (Nat.toDigits 10 digits).length := Nat.length_toDigits_pos
  have hten : (0 : ℚ) < 10 ^ exponent := by positivity
  generalize (Nat.toDigits 10 digits).length = length at *
  constructor
  · rw [show (length : ℤ) + exponent - 1 = (length - 1 : ℕ) + exponent by omega,
      zpow_add₀ (by norm_num), zpow_natCast]
    refine mul_le_mul_of_nonneg_right ?_ hten.le
    exact_mod_cast hfirst
  · rw [zpow_add₀ (by norm_num), zpow_natCast]
    refine mul_lt_mul_of_pos_right ?_ hten
    exact_mod_cast hlast

/-- A number with more digits before the point than a power of two has bits is greater. -/
theorem width_le {width k : ℤ} (hpos : 0 < width) (hx : 10 ^ (width - 1) ≤ x) (hlt : x < 2 ^ k) :
    width ≤ k := by
  have hbase : (2 : ℚ) ^ (width - 1) ≤ 10 ^ (width - 1) :=
    zpow_le_zpow_left₀ (by omega) (by norm_num) (by norm_num)
  have hless : (2 : ℚ) ^ (width - 1) < 2 ^ k := hbase.trans_lt (hx.trans_lt hlt)
  have := (zpow_lt_zpow_iff_right₀ (by norm_num)).mp hless
  omega

/-- A number with more zeros after the point than a power of two has bits is smaller. -/
theorem lt_width {width k : ℤ} (hneg : width ≤ 0) (hx : x < 10 ^ width) (hle : 2 ^ k ≤ x) :
    k < width := by
  have hbase : (10 : ℚ) ^ width ≤ 2 ^ width := zpow_anti_base (by norm_num) (by norm_num) hneg
  have hless : (2 : ℚ) ^ k < 2 ^ width := (hle.trans_lt hx).trans_le hbase
  exact (zpow_lt_zpow_iff_right₀ (by norm_num)).mp hless

/-- **A decimal in the interval of a number reads back as it.** -/
theorem encode_nearestDecimal (hf : f.Balanced) (h : f.Canonical m e) (hm : 0 < m)
    (hgreatest : e + f.precision ≤ f.reach) {digits : ℕ} {exponent : ℤ}
    (hx : (Interval.of f m e).Contains (digits * 10 ^ exponent)) :
    (nearestDecimal f negative digits exponent).encode f =
      (Binary.finite negative m e).encode f := by
  have hlow := (hx.rounds hm).ge hm
  have hhigh := (hx.rounds hm).lt h.lt
  have hdigits : 0 < digits := by
    by_contra hzero
    have hpos : (0 : ℚ) < 2 ^ (e - 1) := by positivity
    rw [Nat.eq_zero_of_not_pos hzero, Nat.cast_zero, zero_mul] at hlow
    linarith
  obtain ⟨hfirst, hlast⟩ := decimal_between hdigits exponent
  have hleast := h.le
  have hmin := f.minExponent_eq
  have hprecision := hf.precision_le
  unfold nearestDecimal
  simp only [Nat.pow_eq]
  rw [if_neg hdigits.ne', hf.two_pow_exponentBits]
  generalize ((Nat.toDigits 10 digits).length : ℤ) + exponent = width at *
  -- No number of the format is so far from one that the power of ten is not computed.
  have hgreat : ¬((2 * f.reach : ℕ) : ℤ) < width := fun hwidth => by
    have := width_le (by omega) hfirst hhigh
    omega
  have hsmall : ¬width < -((2 * f.reach : ℕ) : ℤ) := fun hwidth => by
    have := lt_width (by omega) hlast hlow
    omega
  rw [if_neg hgreat, if_neg hsmall]
  refine encode_nearest hf h hm (by positivity) (by positivity) ?_
  have hvalue : ((digits * 10 ^ exponent.toNat : ℕ) : ℚ) / ((10 ^ (-exponent).toNat : ℕ) : ℚ) =
      digits * 10 ^ exponent := by
    push_cast
    rw [mul_div_assoc, pow_toNat_div (by norm_num)]
  rw [hvalue]
  exact hx

end MotionWatch.Decimal
