/-!
# Rasters

A raster holds one value per pixel, in rows from the top, each from the left.

* `Raster.ofFn`, `Raster.get`: a raster from a function on columns and rows, and back.
* `get_ofFn`: the one undoes the other.
-/

namespace MotionWatch

/-- One value per pixel, in rows. -/
structure Raster (α : Type) where
  width : Nat
  height : Nat
  cells : Array α
  deriving DecidableEq, Repr

namespace Raster

variable {α β : Type}

/-- The value at column `x` and row `y`, or the default outside of the raster. -/
def get [Inhabited α] (m : Raster α) (x y : Nat) : α :=
  if x < m.width then m.cells.getD (y * m.width + x) default else default

/-- The raster with value `f x y` at column `x` and row `y`. -/
def ofFn (width height : Nat) (f : Nat → Nat → α) : Raster α :=
  ⟨width, height, .ofFn fun i : Fin (width * height) => f (i % width) (i / width)⟩

/-- The values in rows. -/
def toList (m : Raster α) : List α := m.cells.toList

/-- Every pixel has a value, and there are no more values. -/
def WellSized (m : Raster α) : Prop := m.cells.size = m.width * m.height

@[simp] theorem width_ofFn (w h : Nat) (f : Nat → Nat → α) : (ofFn w h f).width = w := rfl

@[simp] theorem height_ofFn (w h : Nat) (f : Nat → Nat → α) : (ofFn w h f).height = h := rfl

theorem wellSized_ofFn (w h : Nat) (f : Nat → Nat → α) : (ofFn w h f).WellSized := by
  simp [WellSized, ofFn]

theorem get_ofFn [Inhabited α] {w h x y : Nat} (f : Nat → Nat → α) (hx : x < w) (hy : y < h) :
    (ofFn w h f).get x y = f x y := by
  have hi : y * w + x < w * h := by
    calc y * w + x < y * w + w := by omega
      _ = (y + 1) * w := by rw [Nat.add_mul, Nat.one_mul]
      _ ≤ h * w := Nat.mul_le_mul_right w hy
      _ = w * h := Nat.mul_comm h w
  have hm : (y * w + x) % w = x := by
    rw [Nat.add_comm, Nat.add_mul_mod_self_right, Nat.mod_eq_of_lt hx]
  have hd : (y * w + x) / w = y := by
    rw [Nat.add_comm, Nat.add_mul_div_right _ _ (by omega), Nat.div_eq_of_lt hx, Nat.zero_add]
  simp [get, ofFn, hx, hi, hm, hd]

end Raster

end MotionWatch
