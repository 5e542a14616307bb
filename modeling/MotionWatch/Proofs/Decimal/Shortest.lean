import MotionWatch.Proofs.Decimal.Nearest

/-!
# Shortest numerals

The shortest numeral of a number lies in the interval of the decimals that read back as it.

* `Numeral.value`: the number that a numeral denotes.
* `Interval.inside_iff`: the test of a grid point. `gridPoint?_spec`: what is found on a grid, and
  what it means that nothing is found.
* `Interval.contains_search`: what the search finds, if it goes far enough. `finest`: it does.
* `contains_shortest`: the shortest numeral of a number.
-/

namespace MotionWatch.Decimal

/-- The number that a numeral denotes. -/
def Numeral.value (n : Numeral) : ℚ := n.digits * 10 ^ n.exponent

theorem value_trimZeros (fuel digits : ℕ) (exponent : ℤ) :
    (trimZeros fuel digits exponent).value = digits * 10 ^ exponent := by
  fun_induction trimZeros fuel digits exponent with
  | case1 => rfl
  | case2 fuel digits exponent h ih =>
    have hdigits : (digits : ℚ) = (digits / 10 : ℕ) * 10 := by
      exact_mod_cast (Nat.div_mul_cancel (Nat.dvd_of_mod_eq_zero h.2)).symm
    rw [ih, hdigits, zpow_add_one₀ (by norm_num)]
    ring
  | case3 => rfl

/-- Zeros at the end make no difference. -/
theorem Numeral.value_normalize (n : Numeral) : n.normalize.value = n.value :=
  value_trimZeros ..

namespace Interval

variable {i : Interval} {e : ℤ} {c fuel : ℕ}

/-- The unit of an interval and the spacing of a grid, as integral multiples of the same number. -/
theorem exists_scale (a e : ℤ) : ∃ s : ℚ, 0 < s ∧
    ((2 ^ a.toNat * 10 ^ (-e).toNat : ℕ) : ℚ) = 2 ^ a * s ∧
    ((10 ^ e.toNat * 2 ^ (-a).toNat : ℕ) : ℚ) = 10 ^ e * s := by
  refine ⟨2 ^ (-a).toNat * 10 ^ (-e).toNat, by positivity, ?_, ?_⟩
  · rw [← pow_toNat_div (by norm_num : (2 : ℚ) ≠ 0) a]
    push_cast
    field_simp
  · rw [← pow_toNat_div (by norm_num : (10 : ℚ) ≠ 0) e]
    push_cast
    field_simp

/-- What is tested of a point of a grid. -/
def inside (i : Interval) (p q c : ℕ) : Bool :=
  if i.closed then decide (i.low * p ≤ c * q ∧ c * q ≤ i.high * p)
  else decide (i.low * p < c * q ∧ c * q < i.high * p)

theorem gridPoint?_eq (i : Interval) (e : ℤ) : i.gridPoint? e =
    let p := 2 ^ i.exponent.toNat * 10 ^ (-e).toNat
    let q := 10 ^ e.toNat * 2 ^ (-i.exponent).toNat
    let below := i.value * p / q
    if i.inside p q below && i.inside p q (below + 1) then
      some (if (2 * below + 1) * q ≤ 2 * (i.value * p) then below + 1 else below)
    else if i.inside p q below then some below
    else if i.inside p q (below + 1) then some (below + 1)
    else none := rfl

/-- The test decides whether the point lies in the interval. -/
theorem inside_iff {p q : ℕ} {s : ℚ} (hs : 0 < s) (hp : (p : ℚ) = 2 ^ i.exponent * s)
    (hq : (q : ℚ) = 10 ^ e * s) (c : ℕ) : i.inside p q c = true ↔ i.Contains (c * 10 ^ e) := by
  have hle (a b : ℕ) (x y : ℚ) : a * (x * s) ≤ b * (y * s) ↔ a * x ≤ b * y := by
    rw [← mul_assoc, ← mul_assoc, mul_le_mul_iff_left₀ hs]
  have hlt (a b : ℕ) (x y : ℚ) : a * (x * s) < b * (y * s) ↔ a * x < b * y := by
    rw [← mul_assoc, ← mul_assoc, mul_lt_mul_iff_left₀ hs]
  unfold inside
  split
  · next hclosed =>
    rw [decide_eq_true_iff, ← Nat.cast_le (α := ℚ), ← Nat.cast_le (α := ℚ)]
    push_cast
    rw [hp, hq, hle, hle]
    exact ⟨fun ⟨hl, hh⟩ => ⟨hl, hh, .inl hclosed⟩, fun h => ⟨h.low, h.high⟩⟩
  · next hopen =>
    rw [decide_eq_true_iff, ← Nat.cast_lt (α := ℚ), ← Nat.cast_lt (α := ℚ)]
    push_cast
    rw [hp, hq, hlt, hlt]
    exact ⟨fun ⟨hl, hh⟩ => ⟨hl.le, hh.le, .inr ⟨hl, hh⟩⟩, fun h => h.strict.resolve_left hopen⟩

/-- Of two neighbours one that passes a test is picked, if there is one. -/
theorem pick_spec {test : ℕ → Bool} {below : ℕ} {nearer : Prop} [Decidable nearer]
    {picked : Option ℕ} (h : (if test below && test (below + 1) then
        some (if nearer then below + 1 else below)
      else if test below then some below
      else if test (below + 1) then some (below + 1) else none) = picked) :
    (picked = none → test (below + 1) = false) ∧ ∀ c, picked = some c → test c = true := by
  subst h
  cases hbelow : test below with
  | false =>
    cases hafter : test (below + 1) with
    | false => exact ⟨fun _ => rfl, nofun⟩
    | true => exact ⟨nofun, fun c hc => Option.some.inj hc ▸ hafter⟩
  | true =>
    cases hafter : test (below + 1) with
    | false => exact ⟨fun _ => rfl, fun c hc => Option.some.inj hc ▸ hbelow⟩
    | true =>
      refine ⟨nofun, fun c hc => ?_⟩
      obtain rfl := Option.some.inj hc
      split
      · exact hafter
      · exact hbelow

/-- The grid point after the number, which is in the interval if the grid is fine enough. What is
found on a grid is in the interval. -/
theorem gridPoint?_spec (i : Interval) (e : ℤ) : ∃ after : ℕ,
    (i.value * 2 ^ i.exponent : ℚ) < after * 10 ^ e ∧
    (after * 10 ^ e : ℚ) ≤ i.value * 2 ^ i.exponent + 10 ^ e ∧
    (i.gridPoint? e = none → ¬i.Contains (after * 10 ^ e)) ∧
    ∀ c, i.gridPoint? e = some c → i.Contains (c * 10 ^ e) := by
  obtain ⟨s, hs, hp, hq⟩ := exists_scale i.exponent e
  obtain ⟨hnone, hsome⟩ := pick_spec (i.gridPoint?_eq e).symm
  have hinside := inside_iff hs hp hq
  generalize 2 ^ i.exponent.toNat * 10 ^ (-e).toNat = p at *
  generalize 10 ^ e.toNat * 2 ^ (-i.exponent).toNat = q at *
  have hqpos : 0 < q := by
    have : (0 : ℚ) < q := hq ▸ by positivity
    exact_mod_cast this
  have hbelow : i.value * p / q * q ≤ i.value * p := Nat.div_mul_le_self ..
  have hafter : i.value * p < (i.value * p / q + 1) * q :=
    (Nat.lt_mul_div_succ _ hqpos).trans_eq (Nat.mul_comm ..)
  have hscale (n : ℕ) : (n : ℚ) * q = n * 10 ^ e * s := by rw [hq, mul_assoc]
  have hvalue : ((i.value * p : ℕ) : ℚ) = i.value * 2 ^ i.exponent * s := by
    rw [Nat.cast_mul, hp, mul_assoc]
  rw [← Nat.cast_le (α := ℚ), hvalue, Nat.cast_mul, hscale, mul_le_mul_iff_left₀ hs] at hbelow
  rw [← Nat.cast_lt (α := ℚ), hvalue, Nat.cast_mul, hscale, mul_lt_mul_iff_left₀ hs] at hafter
  refine ⟨i.value * p / q + 1, hafter, ?_, fun h hcontains => ?_,
    fun c hc => (hinside c).mp (hsome c hc)⟩
  · push_cast
    linarith
  · exact Bool.false_ne_true ((hnone h).symm.trans ((hinside _).mpr hcontains))

theorem contains_of_gridPoint? (h : i.gridPoint? e = some c) : i.Contains (c * 10 ^ e) := by
  obtain ⟨_, -, -, -, hsome⟩ := i.gridPoint?_spec e
  exact hsome c h

/-- A fine grid has a point in the interval. -/
theorem exists_gridPoint? (hlow : i.low ≤ i.value) (hhigh : i.value + 2 ≤ i.high)
    (hfine : (10 : ℚ) ^ e < 2 * 2 ^ i.exponent) : ∃ c, i.gridPoint? e = some c := by
  obtain ⟨after, hgt, hle, hnone, -⟩ := i.gridPoint?_spec e
  have hpos : (0 : ℚ) < 2 ^ i.exponent := by positivity
  have hl : (i.low * 2 ^ i.exponent : ℚ) ≤ i.value * 2 ^ i.exponent :=
    mul_le_mul_of_nonneg_right (by exact_mod_cast hlow) hpos.le
  have hh : ((i.value + 2) * 2 ^ i.exponent : ℚ) ≤ i.high * 2 ^ i.exponent :=
    mul_le_mul_of_nonneg_right (by exact_mod_cast hhigh) hpos.le
  have hinside : i.Contains (after * 10 ^ e) :=
    ⟨by linarith, by linarith, .inr ⟨by linarith, by linarith⟩⟩
  cases h : i.gridPoint? e with
  | some c => exact ⟨c, rfl⟩
  | none => exact absurd hinside (hnone h)

/-- **What the search finds is in the interval**, if the finest grid is fine enough for it. -/
theorem contains_search (hlow : i.low ≤ i.value) (hhigh : i.value + 2 ≤ i.high)
    (hfine : (10 : ℚ) ^ (e - fuel) < 2 * 2 ^ i.exponent) :
    i.Contains (i.search (fuel + 1) e).value := by
  induction fuel generalizing e with
  | zero =>
    rw [Nat.cast_zero, sub_zero] at hfine
    obtain ⟨c, hc⟩ := exists_gridPoint? hlow hhigh hfine
    rw [search, hc]
    exact contains_of_gridPoint? hc
  | succ fuel ih =>
    rw [search]
    cases hc : i.gridPoint? e with
    | some c => exact contains_of_gridPoint? hc
    | none =>
      refine ih ?_
      rwa [show e - 1 - (fuel : ℤ) = e - (fuel + 1 : ℕ) by omega]

end Interval

/-! ## How far the search goes -/

theorem ten_zpow_le_of {n r : ℕ} {k j : ℤ} (hn : n ≠ 0) (hk : n * k ≤ r * j)
    (hbase : ((10 : ℚ) ^ r) ^ j ≤ (2 ^ n) ^ j) : (10 : ℚ) ^ k ≤ 2 ^ j := by
  refine (pow_le_pow_iff_left₀ (by positivity) (by positivity) hn).mp ?_
  calc ((10 : ℚ) ^ k) ^ n = 10 ^ (n * k : ℤ) := by rw [mul_comm, zpow_mul, zpow_natCast]
    _ ≤ 10 ^ (r * j : ℤ) := zpow_le_zpow_right₀ (by norm_num) hk
    _ = ((10 : ℚ) ^ r) ^ j := by rw [zpow_mul, zpow_natCast]
    _ ≤ (2 ^ n) ^ j := hbase
    _ = (2 ^ j) ^ n := by rw [← zpow_natCast, ← zpow_natCast, zpow_comm]

/-- The exponent of a power of ten that is at most a power of two: three tenths of the exponent of
that one, or four thirteenths if it is negative. -/
theorem ten_zpow_le {k j : ℤ} (hpos : 0 ≤ j → 10 * k ≤ 3 * j) (hneg : j ≤ 0 → 13 * k ≤ 4 * j) :
    (10 : ℚ) ^ k ≤ 2 ^ j := by
  rcases Int.le_total 0 j with hj | hj
  · exact ten_zpow_le_of (n := 10) (r := 3) (by decide) (hpos hj)
      (zpow_le_zpow_left₀ hj (by norm_num) (by norm_num))
  · exact ten_zpow_le_of (n := 13) (r := 4) (by decide) (hneg hj)
      (zpow_anti_base (by norm_num) (by norm_num) hj)

section Shortest

variable {f : BinaryFormat} {m : ℕ} {e : ℤ}

theorem log2_mul_four (hm : 0 < m) : (4 * m).log2 = m.log2 + 2 := by
  refine (Nat.log2_eq_iff (by omega)).mpr ?_
  have hle := Nat.log2_self_le hm.ne'
  have hlt : m < 2 ^ (m.log2 + 1) := Nat.lt_log2_self
  rw [Nat.pow_add] at hlt
  rw [Nat.pow_add, Nat.add_assoc, Nat.pow_add]
  omega

/-- The last grid that is searched is fine enough. -/
theorem finest (hf : f.Balanced) (h : f.Canonical m e) (hm : 0 < m)
    (hgreatest : e + f.precision ≤ f.reach) :
    (10 : ℚ) ^ ((Interval.of f m e).coarsest - (f.precision + 2 : ℕ)) <
      2 * 2 ^ (Interval.of f m e).exponent := by
  have hlog : m.log2 < f.precision := (Nat.log2_lt hm.ne').mpr h.lt
  have hcoarsest : (Interval.of f m e).coarsest =
      ((4 * m).log2 + (e - 2)) * 30103 / 100000 + 2 := rfl
  have hleast := h.le
  have hmin := f.minExponent_eq
  have hreach := hf.reach_le
  have hprecision := hf.precision_pos
  rw [hcoarsest, log2_mul_four hm]
  calc (10 : ℚ) ^ ((((m.log2 + 2 : ℕ) : ℤ) + (e - 2)) * 30103 / 100000 + 2 - (f.precision + 2 : ℕ))
      ≤ 2 ^ (e - 2) := ten_zpow_le (by omega) (by omega)
    _ < 2 * 2 ^ (e - 2) := by linarith [zpow_pos (by norm_num : (0 : ℚ) < 2) (e - 2)]

/-- **The shortest numeral of a number is in its interval.** -/
theorem contains_shortest (hf : f.Balanced) (h : f.Canonical m e) (hm : 0 < m)
    (hgreatest : e + f.precision ≤ f.reach) :
    (Interval.of f m e).Contains (shortest f m e).value := by
  have hlow : (Interval.of f m e).low ≤ (Interval.of f m e).value := Nat.sub_le ..
  unfold shortest
  rw [if_neg hm.ne']
  dsimp only
  rw [Numeral.value_normalize]
  exact Interval.contains_search hlow (Nat.le_refl _) (finest hf h hm hgreatest)

end Shortest

end MotionWatch.Decimal
