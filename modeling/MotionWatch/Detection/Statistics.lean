import MotionWatch.Detection.Position

/-!
# How much of a picture changed

* `lumaDistances`: the absolute difference of grey values, pixel by pixel.
* `changedPixels`: the selected pixels that changed by more than noise.
* `ChangeStatistics`: how many they are, and where.
-/

namespace MotionWatch

/-- The absolute difference of two grey values. -/
def lumaDistance (a b : UInt8) : UInt8 := if a ≤ b then b - a else a - b

/-- The absolute differences of grey values. -/
def lumaDistances (cur prev : List UInt8) : List UInt8 := List.zipWith lumaDistance cur prev

/-- How much of a picture changed. -/
structure ChangeStatistics where
  /-- Changed and selected pixels. -/
  changed : Nat
  /-- All pixels. -/
  pixels : Nat
  percent : Float
  /-- The mean position of the changed pixels, if it was looked for. -/
  centroid : Option (Point Float)
  /-- Their mean distance from it. -/
  spread : Option (Point Float)

/-- A part in percent; nothing is no part of nothing. -/
def percentage (part whole : Nat) : Float :=
  if whole = 0 then 0.0 else Float.ofNat part * 100.0 / Float.ofNat whole

/-- Whether a mask selects pixel `i`. Pixels outside of the mask are not selected. -/
def selects (mask : Option (Array Bool)) (i : Nat) : Bool :=
  match mask with
  | none => true
  | some m => m.getD i false

/-- The positions of the selected pixels whose difference is at least the noise. -/
def changedPixels (width : Nat) (noise : Int) (mask : Option (Array Bool))
    (distances : List UInt8) : List (Nat × Nat) :=
  (distances.zipIdx.filter fun (d, i) => selects mask i && noise ≤ d.toNat).map fun (_, i) =>
    (i % width, i / width)

namespace ChangeStatistics

/-- The statistics of a mere count. -/
def ofCount (changed pixels : Nat) : ChangeStatistics :=
  ⟨changed, pixels, percentage changed pixels, none, none⟩

/-- The statistics of a map of differences. -/
def ofDistances (width : Nat) (noise : Int) (mask : Option (Array Bool))
    (distances : List UInt8) : ChangeStatistics :=
  let ps := changedPixels width noise mask distances
  let counted := ofCount ps.length distances.length
  if ps.isEmpty then counted
  else
    { counted with
      centroid := some (MotionWatch.centroid ps)
      spread := some (MotionWatch.spread ps) }

end ChangeStatistics

end MotionWatch
