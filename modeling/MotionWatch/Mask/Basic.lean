import MotionWatch.Count
import MotionWatch.Raster

/-!
# Selection masks

A mask selects the pixels that are looked at. It is drawn once, at a resolution of its own, and
resampled to the resolution of the frames; the last resampled copy is kept.

* `SelectionMask.ofBits`: a mask from its pixels, or a `MaskError`.
* `SelectionMask.get`: the mask at a resolution, and the mask with the copy kept.
* `sampleIndex`, `resample`: which native pixel a pixel of another resolution shows.
-/

namespace MotionWatch

/-- Why there is no mask. -/
inductive MaskError where
  | zeroDimension
  | wrongLength (width height got : Nat)
  | unreadable (path : String)
  /-- The pixels cannot be counted. The program stops at the product. -/
  | overflow
  deriving DecidableEq, Repr

/-- What is said about a missing mask. -/
def MaskError.message : MaskError → String
  | zeroDimension => "selection mask dimensions must be non-zero"
  | wrongLength w h got => s!"selection mask of {w}x{h} needs {w * h} pixels, got {got}"
  | unreadable path => s!"cannot load selection mask {path}"
  | overflow => "attempt to multiply with overflow"

/-- A copy of a bitmap at another resolution. -/
structure ResampledMask where
  width : Nat
  height : Nat
  bits : Array Bool
  deriving DecidableEq, Repr

/-- A bitmap at its native resolution, and a copy at the last other resolution. -/
structure SelectionMask where
  width : Nat
  height : Nat
  bits : Array Bool
  cache : Option ResampledMask
  deriving DecidableEq, Repr

/-- The native column or row, of `native` many, that is shown at position `i` of `wanted` many:
the one under the middle of the pixel. The positions are computed in single precision. -/
def sampleIndex (native wanted i : Nat) : Nat :=
  let ratio := Float32.ofNat native / Float32.ofNat wanted
  min (native - 1) ((Float32.ofNat i + 0.5) * ratio).toUInt64.toNat

/-- The bitmap at another resolution; columns and rows are sampled independently. -/
def resample (m : Raster Bool) (width height : Nat) : Raster Bool :=
  .ofFn width height fun x y => m.get (sampleIndex m.width width x) (sampleIndex m.height height y)

namespace SelectionMask

/-- A mask of row-major bits. -/
def ofBits (width height : Nat) (bits : List Bool) : Except MaskError SelectionMask :=
  if width = 0 ∨ height = 0 then .error .zeroDimension
  else if maxCount < width * height then .error .overflow
  else if bits.length ≠ width * height then .error (.wrongLength width height bits.length)
  else .ok ⟨width, height, bits.toArray, none⟩

/-- The native resolution. -/
def dim (m : SelectionMask) : Nat × Nat := (m.width, m.height)

/-- The native bitmap as a picture. It has no more pixels than its sides make room for. -/
def picture (m : SelectionMask) : Raster Bool :=
  let width := Count.wrapSide m.width
  let height := Count.wrapSide m.height
  ⟨width, height, m.bits.extract 0 (width * height)⟩

/-- The mask drawn anew at a resolution. A native bitmap that is no picture selects nothing. -/
def draw (m : SelectionMask) (width height : Nat) : Array Bool :=
  if width = 0 ∨ height = 0 then #[]
  else if m.bits.size < m.picture.width * m.picture.height then
    .replicate (width * height) false
  else (resample m.picture (Count.wrapSide width) (Count.wrapSide height)).cells

/-- The mask at a resolution. A resampled copy is kept for the next request. -/
def get (m : SelectionMask) (width height : Nat) : Array Bool × SelectionMask :=
  if (width, height) = m.dim then (m.bits, m)
  else
    match m.cache.filter fun copy => (copy.width, copy.height) = (width, height) with
    | some copy => (copy.bits, m)
    | none =>
      let bits := m.draw width height
      (bits, { m with cache := some ⟨width, height, bits⟩ })

end SelectionMask

end MotionWatch
