import MotionWatch.Simulation.Noise
import MotionWatch.Simulation.Scene

/-!
# Simulated microphones

A simulated microphone hears quiet hiss, and a bang at the beginning of every cycle of its scene.

* `SimulatedMicrophone.read`: the next samples.
-/

namespace MotionWatch

/-- A microphone in a scene. -/
structure SimulatedMicrophone where
  /-- Samples per second. -/
  rate : Nat
  scene : Scene
  /-- The nanoseconds since it was switched on. -/
  elapsed : Nat
  deriving DecidableEq, Repr

namespace SimulatedMicrophone

/-- A microphone that is switched on now. -/
def create (rate : Nat) (scene : Scene) : SimulatedMicrophone := ⟨rate, scene, 0⟩

/-- The loudness of hiss. -/
def hiss : Nat := 200

/-- The loudness of a bang. -/
def bang : Nat := 20000

/-- How long it takes to read so many samples, if that can be expressed. -/
def blockTime? (m : SimulatedMicrophone) (n : Nat) : Option Nat :=
  nanosecondsOf (Decimal.ofFloat (Float.ofNat n / Float.ofNat m.rate))

/-- Whether there was a bang in the last nanoseconds. -/
def hearsBang (m : SimulatedMicrophone) (length : Nat) : Bool :=
  m.scene.phaseAt m.elapsed < secondsOf length

/-- A sample that is not louder than a limit. -/
def sample (m : SimulatedMicrophone) (loudness i : Nat) : Int :=
  (noise (2 * loudness) (m.elapsed + i) : Int) - loudness

/-- The next samples, if the time that they take can be expressed. -/
def read (m : SimulatedMicrophone) (n : Nat) : Option (List Int × SimulatedMicrophone) :=
  (m.blockTime? n).map fun length =>
    let m := { m with elapsed := m.elapsed + length }
    let loudness := if m.hearsBang length then bang else hiss
    ((List.range n).map (m.sample loudness), m)

end SimulatedMicrophone

end MotionWatch
