import MotionWatch.Decimal.Remainder
import MotionWatch.Worker.Pace

/-!
# Scenes

What a simulated camera looks at repeats itself: for a while nothing happens, and then something
moves from one side to the other. All times are in nanoseconds from the start.

* `Scene.objectAt`: where the thing is that moves.
-/

namespace MotionWatch

/-- A scene that repeats itself. -/
structure Scene where
  /-- How long a cycle lasts. -/
  period : Nat
  /-- How long something moves at the end of a cycle. -/
  active : Nat
  deriving DecidableEq, Repr

namespace Scene

/-- The seconds since the last cycle began. -/
def phaseAt (s : Scene) (time : Nat) : Float :=
  Decimal.remainder (secondsOf time) (secondsOf s.period)

/-- The part of its way that the moving thing has covered, while there is one. -/
def objectAt (s : Scene) (time : Nat) : Option Float :=
  let phase := s.phaseAt time
  let quiet := secondsOf s.period - secondsOf s.active
  if quiet ≤ phase then some ((phase - quiet) / secondsOf s.active) else none

end Scene

end MotionWatch
