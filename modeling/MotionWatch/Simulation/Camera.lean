import MotionWatch.Frame.Basic
import MotionWatch.Log
import MotionWatch.Simulation.Noise
import MotionWatch.Simulation.Scene

/-!
# Simulated cameras

A simulated camera looks at a grey wall with a little noise. While something moves in its scene, a
bright square goes from the left to the right.

* `SimulatedCamera.start`, `stop`: counting the users of a camera.
* `SimulatedCamera.capture`: the next frame.
-/

namespace MotionWatch

/-- A camera that looks at a scene. -/
structure SimulatedCamera where
  id : String
  width : Nat
  height : Nat
  /-- Frames per second. -/
  fps : Float
  scene : Scene
  /-- The number of frames so far. -/
  frames : Nat
  users : Nat

namespace SimulatedCamera

/-- A camera that was not used yet. -/
def create (id : String) (dim : Nat × Nat) (fps : Float) (scene : Scene) : SimulatedCamera :=
  ⟨id, dim.1, dim.2, fps, scene, 0, 0⟩

/-- The record of a text about this camera. -/
def say (c : SimulatedCamera) (level : Level) (text : String) : LogRecord :=
  ⟨level, s!"{c.id}: {text}"⟩

/-! ## Users -/

/-- Another user begins. -/
def start (c : SimulatedCamera) : SimulatedCamera × LogRecord :=
  let c := { c with users := c.users + 1 }
  (c, c.say .debug s!"started ({c.users} users)")

/-- A user ends. -/
def stop (c : SimulatedCamera) : SimulatedCamera × LogRecord :=
  let c := { c with users := c.users - 1 }
  (c, c.say .debug s!"stopped ({c.users} users)")

/-! ## Pictures -/

/-- The brightness of the wall. -/
def wall : Nat := 100

/-- The brightness of the square. -/
def square : Nat := 220

/-- What noise adds at most. -/
def noiseLimit : Nat := 8

/-- The side of the square. -/
def side (c : SimulatedCamera) : Nat := max (min c.width c.height / 4) 1

/-- The left upper corner of the square at a part of its way. -/
def corner (c : SimulatedCamera) (progress : Float) : Nat × Nat :=
  ((progress * Float.ofNat (c.width - c.side)).toUInt64.toNat, (c.height - c.side) / 2)

/-- Whether a pixel lies in the square with a given corner. -/
def inSquare (c : SimulatedCamera) (x y : Nat) (corner : Nat × Nat) : Bool :=
  corner.1 ≤ x && x < corner.1 + c.side && corner.2 ≤ y && y < corner.2 + c.side

/-- A pixel of the current frame. -/
def pixel (c : SimulatedCamera) (corner : Option (Nat × Nat)) (x y : Nat) : Rgb :=
  let base := if corner.any (c.inSquare x y) then square else wall
  .grey (.ofNat (base + noise noiseLimit ((c.frames * c.height + y) * c.width + x)))

/-- The picture of the scene at a time. -/
def render (c : SimulatedCamera) (time : Nat) : Except FrameError Frame :=
  Frame.paint (time / 1000) c.width c.height (c.pixel ((c.scene.objectAt time).map c.corner))

/-! ## Frames -/

/-- No clock goes on for so many nanoseconds. -/
def endOfTime : Nat := Nat.pow 2 63 * nanosPerSecond

/-- When the current frame is due, if that can be expressed. -/
def due? (c : SimulatedCamera) : Option Nat :=
  (nanosecondsOf (Decimal.ofFloat (Float.ofNat c.frames / c.fps))).filter (· < endOfTime)

/-- The next frame, or why there is none, and when that is. -/
def capture (c : SimulatedCamera) : Option (Nat × Except FrameError Frame) × SimulatedCamera :=
  let c := { c with frames := c.frames + 1 }
  (c.due?.map fun time => (time, c.render time), c)

/-- What is said about a missing frame. -/
def complain (c : SimulatedCamera) (e : FrameError) : LogRecord := c.say .warn e.message

end SimulatedCamera

end MotionWatch
