import Mathlib.Algebra.BigOperators.Ring.List
import Mathlib.Algebra.Order.BigOperators.Group.List
import Mathlib.Algebra.Order.Field.Basic
import Mathlib.Algebra.Order.Group.Unbundled.Abs
import Mathlib.Data.Rat.Cast.Order
import Mathlib.Order.Interval.Set.UnorderedInterval
import Mathlib.Tactic.Linarith
import Mathlib.Tactic.Ring
import MotionWatch.Detection.Position

/-!
# Turning a camera part of the way

A camera is turned a part of the way towards the changes, and that part depends on where they are
and how far they are spread. Read in exact numbers, it is a part only if the near side of the
changes lies in the first half of the picture. If it lies in the last half, the camera is turned
beyond the changes, and if they are spread farther than they are away from the first edge, it is
turned away from them.

* `aim`: the angles that a camera is turned to when pixels have changed.
* `mean`, `deviation`: the mean of positions on one axis, and their mean distance from it.
  `centroid_eq`, `spread_eq`: those of pixels.
* `deviation_mul_le`: how far positions can be spread. `damping_mem_Ico`: which parts there are.
* `blend_mem_uIcc_iff`: a part of the way ends between the two angles if it is no less than nothing
  and no more than all.
* `mem_uIcc_aim_iff`: where the camera is turned not too far and not the wrong way.
-/

namespace MotionWatch

/-- The angles that a camera is turned to when pixels have changed. -/
def aim {α : Type} [Scalar α] (ps : List (Nat × Nat)) (dim : Nat × Nat) (current : α × α) : α × α :=
  let c : Point α := centroid ps
  let s : Point α := spread ps
  steer c dim current (damping c.x s.x dim.1, damping c.y s.y dim.2)

/-- Exact numbers are an arithmetic. -/
instance exactScalar {K : Type} [Field K] [LinearOrder K] : Scalar K where
  ofNat := Nat.cast
  abs := abs

variable {K : Type} [Field K] [LinearOrder K]

@[simp] theorem exactScalar_ofNat (n : Nat) : (Scalar.ofNat n : K) = n := rfl

@[simp] theorem exactScalar_abs (x : K) : Scalar.abs x = |x| := rfl

/-! ## Means -/

/-- The mean of positions on one axis. -/
def mean (xs : List K) : K := xs.sum / xs.length

/-- The mean distance of positions from their mean. -/
def deviation (xs : List K) : K := mean (xs.map fun x => |x - mean xs|)

theorem foldl_add (f : Nat × Nat → Point K) (ps : List (Nat × Nat)) (s : Point K) :
    ps.foldl (fun s p => s.add (f p)) s =
      ⟨s.x + (ps.map fun p => (f p).x).sum, s.y + (ps.map fun p => (f p).y).sum⟩ := by
  induction ps generalizing s with
  | nil => rw [List.map_nil, List.map_nil, List.sum_nil, add_zero, add_zero]; rfl
  | cons p ps ih =>
    rw [List.foldl_cons, ih, List.map_cons, List.map_cons, List.sum_cons, List.sum_cons,
      ← add_assoc, ← add_assoc]
    rfl

/-- The positions of pixels on one axis. -/
def positions (axis : Nat × Nat → Nat) (ps : List (Nat × Nat)) : List K := ps.map fun p => axis p

theorem centroid_eq (ps : List (Nat × Nat)) :
    (centroid ps : Point K) = ⟨mean (positions Prod.fst ps), mean (positions Prod.snd ps)⟩ := by
  unfold centroid mean positions
  rw [foldl_add, List.length_map, List.length_map]
  simp [Point.divide, Point.zero, Point.ofPixel]

theorem spread_eq (ps : List (Nat × Nat)) : (spread ps : Point K) =
    ⟨deviation (positions Prod.fst ps), deviation (positions Prod.snd ps)⟩ := by
  unfold spread
  dsimp only
  rw [centroid_eq, foldl_add]
  simp [deviation, mean, positions, Point.divide, Point.zero, Point.ofPixel, Point.distance,
    Function.comp_def]

variable [IsStrictOrderedRing K] {xs : List K} {size : K}

theorem length_pos_of_ne_nil (hne : xs ≠ []) : (0 : K) < xs.length :=
  Nat.cast_pos.mpr (List.length_pos_iff.mpr hne)

theorem mean_le (hne : xs ≠ []) (h : ∀ x ∈ xs, x ≤ size) : mean xs ≤ size := by
  rw [mean, div_le_iff₀ (length_pos_of_ne_nil hne), mul_comm, ← nsmul_eq_mul]
  exact List.sum_le_card_nsmul xs size h

theorem mean_nonneg (h : ∀ x ∈ xs, 0 ≤ x) : 0 ≤ mean xs :=
  div_nonneg (List.sum_nonneg h) (Nat.cast_nonneg _)

theorem deviation_nonneg (xs : List K) : 0 ≤ deviation xs :=
  mean_nonneg fun _ hx => by
    obtain ⟨x, -, rfl⟩ := List.mem_map.mp hx
    exact abs_nonneg _

/-- **How far positions can be spread.** The bound is that of positions at both edges. -/
theorem deviation_mul_le (hne : xs ≠ []) (h : ∀ x ∈ xs, 0 ≤ x ∧ x ≤ size) :
    deviation xs * size ≤ 2 * mean xs * (size - mean xs) := by
  have hc : 0 ≤ mean xs := mean_nonneg fun x hx => (h x hx).1
  have hc' : mean xs ≤ size := mean_le hne fun x hx => (h x hx).2
  have hn := length_pos_of_ne_nil hne
  have hsum : xs.sum = xs.length * mean xs := (mul_div_cancel₀ _ hn.ne').symm
  -- The distance is convex, and so it lies below the line through its values at the edges.
  have hchord : (xs.map fun x => |x - mean xs| * size).sum ≤
      (xs.map fun x => mean xs * size + x * (size - 2 * mean xs)).sum := by
    refine List.sum_le_sum fun x hx => ?_
    obtain ⟨hx, hx'⟩ := h x hx
    rcases abs_cases (x - mean xs) with ⟨habs, -⟩ | ⟨habs, -⟩
    · rw [habs]
      nlinarith [mul_nonneg hc (sub_nonneg.mpr hx')]
    · rw [habs]
      nlinarith [mul_nonneg hx (sub_nonneg.mpr hc')]
  simp only [List.sum_map_mul_right, List.sum_map_add, List.map_const', List.sum_replicate,
    nsmul_eq_mul, List.map_id', hsum] at hchord
  rw [deviation, mean, List.length_map, div_mul_eq_mul_div, div_le_iff₀ hn]
  linarith

/-! ## Parts of the way -/

/-- **Which part of the way a camera can be turned.** It is less than twice the way, and at most a
quarter of the way back. -/
theorem damping_mem_Ico {size : Nat} (hne : xs ≠ []) (h : ∀ x ∈ xs, 0 ≤ x ∧ x ≤ size - 1) :
    damping (mean xs) (deviation xs) size ∈ Set.Ico (-1 / 4 : K) 2 := by
  have hc : 0 ≤ mean xs := mean_nonneg fun x hx => (h x hx).1
  have hc' : mean xs ≤ size - 1 := mean_le hne fun x hx => (h x hx).2
  have hsize : (0 : K) < size := by linarith
  have hbound : deviation xs * size ≤ 2 * mean xs * (size - mean xs) := deviation_mul_le hne
    fun x hx => ⟨(h x hx).1, (h x hx).2.trans (sub_le_self _ zero_le_one)⟩
  have hspread := deviation_nonneg xs
  unfold damping
  rw [exactScalar_ofNat, exactScalar_ofNat, Set.mem_Ico, le_div_iff₀ hsize, div_lt_iff₀ hsize]
  push_cast
  constructor
  · nlinarith [sq_nonneg (mean xs - size / 4)]
  · linarith

section Blend

variable {current target part : K}

omit [IsStrictOrderedRing K] in
/-- A part of the way there is the rest of the way back. -/
theorem blend_comm (current target part : K) :
    blend current target part = blend target current (1 - part) := by
  unfold blend
  ring

theorem blend_mem_Icc_iff (h : current < target) :
    blend current target part ∈ Set.Icc current target ↔ 0 ≤ part ∧ part ≤ 1 := by
  have hpos : 0 < target - current := sub_pos.mpr h
  rw [blend, Set.mem_Icc, le_add_iff_nonneg_left, mul_nonneg_iff_of_pos_left hpos,
    ← le_sub_iff_add_le, mul_le_iff_le_one_right hpos]

/-- Turning by a part of the way ends between the two angles if the part is no less than nothing
and no more than all. -/
theorem blend_mem_uIcc_iff : blend current target part ∈ Set.uIcc current target ↔
    current = target ∨ 0 ≤ part ∧ part ≤ 1 := by
  rcases lt_trichotomy current target with hlt | rfl | hlt
  · rw [Set.uIcc_of_le hlt.le, blend_mem_Icc_iff hlt, or_iff_right hlt.ne]
  · rw [blend, sub_self, zero_mul, zero_add]
    exact iff_of_true Set.left_mem_uIcc (.inl rfl)
  · rw [Set.uIcc_of_ge hlt.le, blend_comm, blend_mem_Icc_iff hlt, sub_nonneg, sub_le_self_iff,
      and_comm, or_iff_right hlt.ne']

omit [IsStrictOrderedRing K] in
theorem blend_one (current target : K) : blend current target 1 = target := by
  rw [blend, mul_one, sub_add_cancel]

end Blend

/-- The part of the way is one if the near side of the changes lies in the first half of the
picture. -/
theorem damping_mem_Icc_iff {c s : K} {size : Nat} (hsize : 0 < size) :
    0 ≤ damping c s size ∧ damping c s size ≤ 1 ↔ s ≤ c ∧ (c - s) * 2 ≤ size := by
  have hpos : (0 : K) < size := Nat.cast_pos.mpr hsize
  unfold damping
  rw [exactScalar_ofNat, exactScalar_ofNat, le_div_iff₀ hpos, zero_mul, div_le_one hpos,
    Nat.cast_ofNat, mul_nonneg_iff_of_pos_right zero_lt_two, sub_nonneg]

/-! ## Angles -/

section Aim

variable {ps : List (Nat × Nat)} {dim : Nat × Nat}

/-- Positions lie in the picture. -/
theorem positions_mem_Icc {axis : Nat × Nat → Nat} {size : Nat} (hps : ∀ p ∈ ps, axis p < size) :
    ∀ x ∈ (positions axis ps : List K), 0 ≤ x ∧ x ≤ size - 1 := by
  intro x hx
  obtain ⟨p, hp, rfl⟩ := List.mem_map.mp hx
  refine ⟨Nat.cast_nonneg _, le_sub_iff_add_le.mpr ?_⟩
  exact_mod_cast hps p hp

omit [LinearOrder K] [IsStrictOrderedRing K] in
theorem positions_ne_nil {axis : Nat × Nat → Nat} (hne : ps ≠ []) :
    (positions axis ps : List K) ≠ [] := List.map_eq_nil_iff.not.mpr hne

/-- **Which parts of the way a camera is turned.** -/
theorem damping_centroid_mem_Ico (hne : ps ≠ []) (hps : ∀ p ∈ ps, p.1 < dim.1 ∧ p.2 < dim.2) :
    damping (centroid ps : Point K).x (spread ps : Point K).x dim.1 ∈ Set.Ico (-1 / 4 : K) 2 ∧
      damping (centroid ps : Point K).y (spread ps : Point K).y dim.2 ∈ Set.Ico (-1 / 4 : K) 2 := by
  rw [centroid_eq, spread_eq]
  exact ⟨damping_mem_Ico (positions_ne_nil hne) (positions_mem_Icc fun p hp => (hps p hp).1),
    damping_mem_Ico (positions_ne_nil hne) (positions_mem_Icc fun p hp => (hps p hp).2)⟩

/-- **Where a camera is turned not too far and not the wrong way.** On each axis that is where the
camera points at the changes already, or where these are spread no farther than they are away from
the first edge, and their near side lies in the first half of the picture. -/
theorem mem_uIcc_aim_iff (hne : ps ≠ []) (hps : ∀ p ∈ ps, p.1 < dim.1 ∧ p.2 < dim.2)
    (current : K × K) :
    let c : Point K := centroid ps
    let s : Point K := spread ps
    let target := steer c dim current (1, 1)
    ((aim ps dim current).1 ∈ Set.uIcc current.1 target.1 ↔
        current.1 = target.1 ∨ s.x ≤ c.x ∧ (c.x - s.x) * 2 ≤ dim.1) ∧
      ((aim ps dim current).2 ∈ Set.uIcc current.2 target.2 ↔
        current.2 = target.2 ∨ s.y ≤ c.y ∧ (c.y - s.y) * 2 ≤ dim.2) := by
  obtain ⟨p, hp⟩ := List.exists_mem_of_ne_nil ps hne
  obtain ⟨hx, hy⟩ := hps p hp
  intro c s target
  have htarget : target = (angleTowards c.x dim.1, angleTowards c.y dim.2) :=
    Prod.ext (blend_one ..) (blend_one ..)
  rw [htarget, ← damping_mem_Icc_iff (Nat.zero_lt_of_lt hx),
    ← damping_mem_Icc_iff (Nat.zero_lt_of_lt hy)]
  exact ⟨blend_mem_uIcc_iff, blend_mem_uIcc_iff⟩

/-- Changes at the left edge, and a single one far away from them: they are on the left, and the
camera is turned to the right. -/
example :
    (steer (centroid [(0, 0), (0, 1), (0, 2), (7, 0)]) (8, 3) ((0 : ℚ), 0) (1, 1)).1 < 0 ∧
      0 < (aim [(0, 0), (0, 1), (0, 2), (7, 0)] (8, 3) ((0 : ℚ), 0)).1 := by
  decide +kernel

end Aim

end MotionWatch
