import MotionWatch.Count
import MotionWatch.Frame.Pixel

/-!
# Decoded pictures

* `Picture`: pixels in rows from the top, each from the left. A picture is complete, and small
  enough to be held in memory.
* `Picture.ofPixels?`: the picture with the given pixels.
* `bigEndian`: the number in bytes that start with the most significant one.
-/

namespace MotionWatch

/-- A picture as its pixels in rows. -/
structure Picture where
  width : Nat
  height : Nat
  pixels : List Rgb
  /-- There is a pixel for every place. -/
  complete : pixels.length = width * height
  /-- The sides are measured in 32 bits. -/
  narrow : width < sideLimit ∧ height < sideLimit
  /-- The bytes of the pixels can be counted. -/
  countable : pixels.length * 3 ≤ maxCount
  deriving DecidableEq, Repr

/-- The picture with the given pixels, if they make one. -/
def Picture.ofPixels? (width height : Nat) (pixels : List Rgb) : Option Picture :=
  if h : pixels.length = width * height ∧ (width < sideLimit ∧ height < sideLimit) ∧
      pixels.length * 3 ≤ maxCount then
    some ⟨width, height, pixels, h.1, h.2.1, h.2.2⟩
  else none

/-- The number in a row of bytes, the most significant one first. -/
def bigEndian (bytes : List UInt8) : Nat := bytes.foldl (fun n b => 256 * n + b.toNat) 0

/-- The first `n` bytes and the rest, if there are as many. -/
def splitBytes (n : Nat) (bytes : List UInt8) : Option (List UInt8 × List UInt8) :=
  if n ≤ bytes.length then some (bytes.take n, bytes.drop n) else none

end MotionWatch
