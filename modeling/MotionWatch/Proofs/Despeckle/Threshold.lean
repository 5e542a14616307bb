import MotionWatch.Proofs.Despeckle.Window

/-!
# Despeckling and thresholds

Whether a pixel has changed is decided by a threshold after the map was despeckled. It might as well
be decided before, because the order of values is all that despeckling looks at.

* `Raster.map`: a function on all values of a map.
* `Pass.Turns`: a function on values turns one pass into another one.
* `Pass.choose_map`, `Pass.apply_map`: a pass commutes with a function that keeps the order.
* `despeckle_map`: so does the whole of despeckling, if zero stays as it is.
* `threshold`: a map of two values; `map_threshold_despeckle`: it can be made at any time.
-/

namespace MotionWatch

/-! ## Maps of rasters -/

namespace Raster

variable {α β : Type} {f : α → β}

/-- A function on all values of a raster. -/
def map (f : α → β) (m : Raster α) : Raster β := ⟨m.width, m.height, m.cells.map f⟩

@[simp] theorem width_map (f : α → β) (m : Raster α) : (m.map f).width = m.width := rfl

@[simp] theorem height_map (f : α → β) (m : Raster α) : (m.map f).height = m.height := rfl

theorem toList_map (f : α → β) (m : Raster α) : (m.map f).toList = m.toList.map f :=
  Array.toList_map

theorem wellSized_map {m : Raster α} (hm : m.WellSized) : (m.map f).WellSized := by
  show (m.cells.map f).size = m.width * m.height
  rw [Array.size_map]
  exact hm

theorem get_map [Inhabited α] [Inhabited β] (hf : f default = default) (m : Raster α) (x y : Nat) :
    (m.map f).get x y = f (m.get x y) := by
  show (if x < m.width then (m.cells.map f).getD (y * m.width + x) default else default) = _
  unfold get
  split
  · rw [Array.getD_eq_getD_getElem?, Array.getD_eq_getD_getElem?, Array.getElem?_map]
    cases m.cells[y * m.width + x]? with
    | none => exact hf.symm
    | some v => rfl
  · exact hf.symm

theorem get_map_of_lt [Inhabited α] [Inhabited β] {m : Raster α} (hm : m.WellSized) {x y : Nat}
    (hx : x < m.width) (hy : y < m.height) : (m.map f).get x y = f (m.get x y) := by
  have h := getElem?_toList (wellSized_map hm (f := f)) (x := x) (y := y) hx hy
  rw [toList_map, List.getElem?_map, width_map, getElem?_toList hm hx hy] at h
  exact (Option.some.inj h).symm

end Raster

/-! ## Functions on values -/

namespace Pass

/-- A function takes the values that one pass chooses to those that another one chooses. -/
structure Turns (f : UInt8 → UInt8) (p q : Pass) : Prop where
  radius : q.radius = p.radius
  choose : ∀ a b, q.choose (f a) (f b) = f (p.choose a b)

namespace Turns

variable {f : UInt8 → UInt8} {p q : Pass} {m : Raster UInt8}

theorem best_eq (h : Turns f p q) (n : Nat) (g : Nat → UInt8) (i : Nat) :
    q.best n (fun j => f (g j)) i = f (p.best n g i) := by
  unfold best
  rw [h.radius]
  exact List.foldl_hom f fun v j => h.choose v (g j)

/-- **A function on all values turns the one pass into the other one.** -/
theorem apply_eq (h : Turns f p q)
    (hget : ∀ x < m.width, ∀ y < m.height, (m.map f).get x y = f (m.get x y)) :
    q.apply (m.map f) = (p.apply m).map f := by
  have hsized : ((p.apply m).map f).WellSized := Raster.wellSized_map (wellSized_apply ..)
  refine Raster.ext_get (wellSized_apply ..) hsized rfl rfl ?_
  intro x (hx : x < m.width) y (hy : y < m.height)
  rw [Raster.get_map_of_lt (wellSized_apply p m) hx hy, get_apply p hx hy,
    get_apply (m := m.map f) q hx hy, ← h.best_eq]
  refine best_congr hy fun j hj _ => ?_
  rw [← h.best_eq]
  exact best_congr hx fun i hi _ => hget i hi j hj

end Turns

end Pass

/-! ## Functions that keep the order -/

section Order

variable {f : UInt8 → UInt8} (hf : ∀ a b : UInt8, a ≤ b → f a ≤ f b)
include hf

namespace Pass

theorem prefers_map {p : Pass} {v w : UInt8} (h : p.Prefers v w) : p.Prefers (f v) (f w) := by
  cases p with
  | dilate r => exact hf w v h
  | erode r => exact hf v w h

theorem choose_map (p : Pass) (a b : UInt8) : p.choose (f a) (f b) = f (p.choose a b) := by
  have hboth := prefers_choose_iff.mp (prefers_refl p (p.choose a b))
  have hboth' := prefers_choose_iff.mp (prefers_refl p (p.choose (f a) (f b)))
  refine prefers_antisymm (p := p) ?_ ?_
  · rcases choose_eq_or p a b with h | h
    · rw [h]
      exact hboth'.1
    · rw [h]
      exact hboth'.2
  · exact prefers_choose_iff.mpr ⟨prefers_map hf hboth.1, prefers_map hf hboth.2⟩

theorem turns_self (p : Pass) : Turns f p p := ⟨rfl, choose_map hf p⟩

variable (hzero : f 0 = 0)
include hzero

/-- **A pass commutes with a function that keeps the order.** -/
theorem apply_map (p : Pass) (m : Raster UInt8) : p.apply (m.map f) = (p.apply m).map f :=
  (turns_self hf p).apply_eq fun x _ y _ => Raster.get_map hzero m x y

theorem foldl_apply_map (ps : List Pass) (m : Raster UInt8) :
    ps.foldl (fun m p => p.apply m) (m.map f) = (ps.foldl (fun m p => p.apply m) m).map f :=
  List.foldl_hom (Raster.map f) fun m p => apply_map hf hzero p m

end Pass

omit hf in
theorem clearBorder_map (hzero : f 0 = 0) (m : Raster UInt8) :
    clearBorder (m.map f) = (clearBorder m).map f := by
  refine Raster.ext_get (Raster.wellSized_ofFn ..)
    (Raster.wellSized_map (Raster.wellSized_ofFn ..)) rfl rfl ?_
  intro x (hx : x < m.width) y (hy : y < m.height)
  rw [Raster.get_map hzero, get_clearBorder (m := m.map f) hx hy, get_clearBorder hx hy,
    Raster.width_map, Raster.height_map, apply_ite f, hzero]
  exact ite_congr rfl (fun _ => Raster.get_map hzero m x y) fun _ => rfl

/-- **Despeckling commutes with a function that keeps the order and zero.** -/
theorem despeckle_map (hzero : f 0 = 0) (m : Raster UInt8) (pattern : String) :
    despeckle (m.map f) pattern = (despeckle m pattern).map f := by
  unfold despeckle
  split
  · rfl
  · rw [Pass.foldl_apply_map hf hzero, clearBorder_map hzero]

theorem despeckleValues_map (hzero : f 0 = 0) (width height : Nat) (values : List UInt8)
    (pattern : String) : despeckleValues width height (values.map f) pattern =
      (despeckleValues width height values pattern).map (List.map f) := by
  have hraster : (⟨width, height, (values.map f).toArray⟩ : Raster UInt8) =
      (⟨width, height, values.toArray⟩ : Raster UInt8).map f := by
    rw [Raster.map, List.map_toArray]
  rw [despeckleValues_eq, despeckleValues_eq, List.length_map, hraster, despeckle_map hf hzero,
    Raster.toList_map]
  split <;> rfl

end Order

/-! ## Thresholds -/

/-- The greatest value for a value that reaches the threshold, and zero for all others. -/
def threshold (t v : UInt8) : UInt8 := if t ≤ v then 255 else 0

theorem threshold_le_threshold (t : UInt8) {a b : UInt8} (h : a ≤ b) :
    threshold t a ≤ threshold t b := by
  unfold threshold
  split
  · next ha =>
    rw [if_pos (UInt8.le_trans ha h)]
    exact UInt8.le_refl _
  · exact UInt8.zero_le

theorem threshold_zero {t : UInt8} (ht : 1 ≤ t) : threshold t 0 = 0 := by
  refine if_neg fun hle => ?_
  rw [UInt8.le_iff_toNat_le] at ht hle
  exact absurd (Nat.le_trans ht hle) (by decide)

/-- **A threshold can be applied before despeckling as well as afterwards**, on maps of any size,
with any pattern: what comes out is the same map, and the program stops in both cases or in none. A
map comes out if the passes keep all of its pixels. -/
theorem map_threshold_despeckle (width height : Nat) (values : List UInt8) (pattern : String)
    (t : UInt8) (ht : 1 ≤ t) :
    (despeckleValues width height values pattern).map (List.map (threshold t)) =
      despeckleValues width height (values.map (threshold t)) pattern ∧
    ((despeckleValues width height values pattern).isSome = true ↔
      values.length = width * height ∧ Keeps width height pattern) := by
  refine ⟨?_, isSome_despeckleValues_iff⟩
  exact (despeckleValues_map (fun _ _ => threshold_le_threshold t) (threshold_zero ht) width height
    values pattern).symm

/-- A map with a bright spot, and one next to the middle that is less bright. -/
def twoSpots : List UInt8 := ((List.replicate 81 0).set 50 40).set 41 20

/-- The bright spot reaches the middle, which is no border. -/
theorem map_threshold_twoSpots :
    let middle : List UInt8 := (List.replicate 81 0).set 40 255
    (1 : UInt8) ≤ 30 ∧
      (despeckleValues 9 9 twoSpots "d").map (List.map (threshold 30)) = some middle ∧
      despeckleValues 9 9 (twoSpots.map (threshold 30)) "d" = some middle := by
  intro middle
  have hafter : (despeckleValues 9 9 twoSpots "d").map (List.map (threshold 30)) = some middle := by
    decide +kernel
  exact ⟨by decide, hafter,
    (map_threshold_despeckle 9 9 twoSpots "d" 30 (by decide)).1.symm.trans hafter⟩

end MotionWatch
