import Mathlib.Data.List.Basic
import Mathlib.Data.Nat.Dist
import MotionWatch.Proofs.Despeckle.Basic

/-!
# How far despeckling looks

What despeckling makes of a pixel depends on the pixels around it, and on no others.

* `chebyshev`: the distance of two pixels. `Near`: the pixels within a distance of some pixels.
* `reach`: how far the passes of a pattern look, all together.
* `AgreeNear`: two maps that have the same values near some pixels.
* `AgreeNear.apply`: a pass makes the distance shorter by its radius; `AgreeNear.foldl_apply`: so
  do several passes, one after the other. `AgreeNear.despeckle`: after all of them, the maps still
  have the same values at these pixels.
-/

namespace MotionWatch

/-! ## Distances -/

/-- The distance of two pixels: the greater of the distances of their columns and their rows. -/
def chebyshev (p q : Nat × Nat) : Nat := max (Nat.dist p.1 q.1) (Nat.dist p.2 q.2)

theorem chebyshev_self (p : Nat × Nat) : chebyshev p p = 0 := by
  rw [chebyshev, Nat.dist_self, Nat.dist_self, Nat.max_self]

theorem eq_of_chebyshev_eq_zero {p q : Nat × Nat} (h : chebyshev p q = 0) : p = q := by
  obtain ⟨hx, hy⟩ := Nat.max_eq_zero_iff.mp h
  exact Prod.ext (Nat.eq_of_dist_eq_zero hx) (Nat.eq_of_dist_eq_zero hy)

theorem chebyshev_triangle (p q r : Nat × Nat) :
    chebyshev p r ≤ chebyshev p q + chebyshev q r := by
  have hx := Nat.dist.triangle_inequality p.1 q.1 r.1
  have hy := Nat.dist.triangle_inequality p.2 q.2 r.2
  unfold chebyshev
  omega

/-- The pixels at most `r` away from some pixel of `S`. -/
def Near (S : Nat × Nat → Prop) (r : Nat) (p : Nat × Nat) : Prop := ∃ q, S q ∧ chebyshev p q ≤ r

theorem near_zero_iff {S : Nat × Nat → Prop} {p : Nat × Nat} : Near S 0 p ↔ S p := by
  constructor
  · rintro ⟨q, hq, hpq⟩
    rwa [eq_of_chebyshev_eq_zero (Nat.le_zero.mp hpq)]
  · intro hp
    exact ⟨p, hp, Nat.le_of_eq (chebyshev_self p)⟩

theorem Near.of_chebyshev {S : Nat × Nat → Prop} {r n : Nat} {p q : Nat × Nat} (h : Near S r q)
    (hpq : chebyshev p q ≤ n) : Near S (r + n) p := by
  obtain ⟨s, hs, hqs⟩ := h
  have htriangle := chebyshev_triangle p q s
  exact ⟨s, hs, by omega⟩

/-! ## Reach -/

/-- How far the pass of a letter looks. -/
def letterReach : Char → Nat
  | 'd' | 'e' => 2
  | 'D' | 'E' => 4
  | _ => 0

/-- How far the passes of a pattern look, all together. -/
def reach (pattern : String) : Nat := (pattern.toList.map letterReach).sum

theorem letterReach_eq (c : Char) : letterReach c = ((Pass.ofChar? c).map Pass.radius).getD 0 := by
  unfold letterReach Pass.ofChar?
  split <;> simp_all [Pass.radius]

theorem reach_eq (pattern : String) : reach pattern = ((passes pattern).map Pass.radius).sum := by
  unfold reach passes
  induction pattern.toList with
  | nil => rfl
  | cons c cs ih =>
    rw [List.map_cons, List.sum_cons, ih, letterReach_eq]
    cases hc : Pass.ofChar? c with
    | none => simp [hc]
    | some p => simp [hc]

/-! ## Agreement -/

/-- Two maps of one size that have the same values at the pixels at most `r` away from some pixel
of `S`. -/
structure AgreeNear (S : Nat × Nat → Prop) (r : Nat) (m m' : Raster UInt8) : Prop where
  width : m'.width = m.width
  height : m'.height = m.height
  get_eq : ∀ x < m.width, ∀ y < m.height, Near S r (x, y) → m.get x y = m'.get x y

namespace Pass

theorem mem_window {r n i j : Nat} (hi : i < n) :
    j ∈ window r n i ↔ j < n ∧ Nat.dist j i ≤ r := by
  rw [window, List.mem_range'_1]
  unfold Nat.dist
  omega

/-- Along a line a pass only looks at the values within its radius. -/
theorem best_congr {p : Pass} {n i : Nat} {f g : Nat → UInt8} (hi : i < n)
    (h : ∀ j < n, Nat.dist j i ≤ p.radius → f j = g j) : p.best n f i = p.best n g i := by
  have hself : f i = g i := h i hi (by rw [Nat.dist_self]; exact Nat.zero_le _)
  unfold best
  rw [hself]
  refine List.foldl_ext _ _ _ fun v j hj => ?_
  obtain ⟨hj, hdist⟩ := (mem_window hi).mp hj
  rw [h j hj hdist]

variable {m m' : Raster UInt8} {x y : Nat}

theorem get_apply (p : Pass) (hx : x < m.width) (hy : y < m.height) :
    (p.apply m).get x y =
      p.best m.height (fun j => p.best m.width (fun i => m.get i j) x) y := by
  refine (Raster.get_ofFn _ hx hy).trans ?_
  exact best_congr hy fun j hj _ => Raster.get_ofFn _ hx hj

end Pass

namespace AgreeNear

variable {S : Nat × Nat → Prop} {r : Nat} {m m' : Raster UInt8}

/-- A pass makes the distance shorter by its radius. -/
theorem apply {p : Pass} (h : AgreeNear S (r + p.radius) m m') :
    AgreeNear S r (p.apply m) (p.apply m') := by
  refine ⟨h.width, h.height, fun x hx y hy hnear => ?_⟩
  change x < m.width at hx
  change y < m.height at hy
  rw [p.get_apply hx hy, p.get_apply (h.width.symm ▸ hx) (h.height.symm ▸ hy), h.width, h.height]
  refine Pass.best_congr hy fun j hj hjy => Pass.best_congr hx fun i hi hix => ?_
  exact h.get_eq i hi j hj (hnear.of_chebyshev (Nat.max_le.mpr ⟨hix, hjy⟩))

/-- Several passes make it shorter by the sum of their radii. -/
theorem foldl_apply (ps : List Pass) (h : AgreeNear S (r + (ps.map Pass.radius).sum) m m') :
    AgreeNear S r (ps.foldl (fun m p => p.apply m) m) (ps.foldl (fun m p => p.apply m) m') := by
  induction ps generalizing m m' with
  | nil => exact h
  | cons p ps ih =>
    refine ih (apply ?_)
    rwa [List.map_cons, List.sum_cons, Nat.add_comm p.radius, ← Nat.add_assoc] at h

theorem clearBorder (h : AgreeNear S r m m') :
    AgreeNear S r (clearBorder m) (MotionWatch.clearBorder m') := by
  refine ⟨h.width, h.height, fun x hx y hy hnear => ?_⟩
  change x < m.width at hx
  change y < m.height at hy
  rw [get_clearBorder hx hy, get_clearBorder (h.width.symm ▸ hx) (h.height.symm ▸ hy), h.width,
    h.height, h.get_eq x hx y hy hnear]

/-- **What despeckling makes of some pixels depends on those within its reach**, and on no
others. -/
theorem despeckle {pattern : String} (h : AgreeNear S (reach pattern) m m') :
    AgreeNear S 0 (despeckle m pattern) (MotionWatch.despeckle m' pattern) := by
  rw [reach_eq, ← Nat.zero_add (List.sum _)] at h
  unfold MotionWatch.despeckle
  split
  · next hempty =>
    obtain rfl := String.isEmpty_iff.mp hempty
    exact h
  · exact (foldl_apply _ h).clearBorder

end AgreeNear

end MotionWatch
