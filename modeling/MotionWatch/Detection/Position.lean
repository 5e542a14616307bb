/-!
# Positions in a picture

Where in a picture something changed, and where to turn a camera. The formulas are stated for any
arithmetic, so that they can be computed in doubles and read in exact numbers.

* `Scalar`: an arithmetic; doubles are one.
* `centroid`, `spread`: the mean of positions, and their mean distance from it.
* `damping`: how far to turn towards the changes.
* `steer`: the angles that point a camera towards a position.
-/

namespace MotionWatch

/-- An arithmetic to compute positions in. -/
class Scalar (α : Type) extends Add α, Sub α, Mul α, Div α where
  /-- A natural number. -/
  ofNat : Nat → α
  /-- The absolute value. -/
  abs : α → α

instance : Scalar Float where
  ofNat := Float.ofNat
  abs := Float.abs

/-- A position, or one value for each axis. -/
structure Point (α : Type) where
  x : α
  y : α

namespace Point

variable {α : Type} [Scalar α]

/-- The position of a pixel. -/
def ofPixel (p : Nat × Nat) : Point α := ⟨Scalar.ofNat p.1, Scalar.ofNat p.2⟩

/-- No distance on either axis. -/
def zero : Point α := ofPixel (0, 0)

/-- Adds on each axis. -/
def add (p q : Point α) : Point α := ⟨p.x + q.x, p.y + q.y⟩

/-- The absolute difference on each axis. -/
def distance (p q : Point α) : Point α := ⟨Scalar.abs (p.x - q.x), Scalar.abs (p.y - q.y)⟩

/-- Divides on each axis. -/
def divide (p : Point α) (n : Nat) : Point α := ⟨p.x / Scalar.ofNat n, p.y / Scalar.ofNat n⟩

end Point

variable {α : Type} [Scalar α]

/-- The mean of positions. -/
def centroid (ps : List (Nat × Nat)) : Point α :=
  (ps.foldl (fun s p => s.add (.ofPixel p)) Point.zero).divide ps.length

/-- The mean absolute distance of positions from their mean, on each axis. -/
def spread (ps : List (Nat × Nat)) : Point α :=
  let c : Point α := centroid ps
  (ps.foldl (fun s p => s.add ((Point.ofPixel p).distance c)) Point.zero).divide ps.length

/-- The part of the way towards the centroid that a camera is turned at once: the near side of
the changes, relative to half of the picture. -/
def damping (c s : α) (size : Nat) : α := (c - s) * Scalar.ofNat 2 / Scalar.ofNat size

/-- The angle that points towards a position on an axis of the given size. The middle is at 0 and
the edge at 180 degrees. -/
def angleTowards (position : α) (size : Nat) : α :=
  let half : α := Scalar.ofNat (max (size / 2) 1)
  (position - half) * Scalar.ofNat 180 / half

/-- The angle between the current one and another, by the given part of the way. -/
def blend (current target part : α) : α := (target - current) * part + current

/-- The angles that turn a camera towards a position, by the given part of the way on each
axis. -/
def steer (target : Point α) (dim : Nat × Nat) (current part : α × α) : α × α :=
  (blend current.1 (angleTowards target.x dim.1) part.1,
    blend current.2 (angleTowards target.y dim.2) part.2)

end MotionWatch
