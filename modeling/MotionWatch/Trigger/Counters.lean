/-!
# When to record

Motion has to be seen on several frames in a row before a recording begins, a recording stops
after several quiet frames, and after that some frames are ignored.

* `Counters.advance`: counts a frame, and gives the `Verdict` on it.
* `Counters.mode`: what the counters amount to.
-/

namespace MotionWatch

/-- What a trigger is doing. -/
inductive Mode where
  /-- Waiting for motion. -/
  | armed
  /-- Seeing motion, but not on enough frames yet. -/
  | accumulating
  | recording
  /-- Recording, but without motion. -/
  | stopping
  /-- Ignoring motion after a recording. -/
  | muted
  deriving DecidableEq, Repr

/-- The name of a mode. -/
def Mode.name : Mode → String
  | armed => "Armed"
  | accumulating => "Accumulating"
  | recording => "Recording"
  | stopping => "Stopping"
  | muted => "Muted"

/-- The limits that a frame is counted against. -/
structure Limits where
  /-- Frames with motion that are needed to record. -/
  minFrames : Int
  /-- Quiet frames that a recording survives. -/
  minDuration : Int
  /-- Frames to ignore after a recording. -/
  muteDuration : Int
  deriving DecidableEq, Repr

/-- The counters of a trigger. -/
structure Counters where
  recording : Bool
  /-- Frames with motion in a row. -/
  active : Int
  /-- Quiet frames in a row while recording. -/
  quiet : Int
  /-- Frames that are still to be ignored. -/
  mute : Int
  deriving DecidableEq, Repr

/-- What a frame means. -/
inductive Verdict where
  /-- It is ignored, perhaps as the last one. -/
  | muted (last : Bool)
  /-- There is motion, but not on enough frames yet. -/
  | gathering (seen needed : Int)
  /-- There is motion, which perhaps starts a recording. -/
  | motion (starts : Bool)
  /-- A recording sees no motion, and perhaps stops. -/
  | quiet (seen : Int) (stops : Bool)
  /-- Nothing happens. -/
  | idle
  deriving DecidableEq, Repr

namespace Counters

/-- Before the first frame. -/
def zero : Counters := ⟨false, 0, 0, 0⟩

/-- What the counters amount to. -/
def mode (c : Counters) : Mode :=
  if 0 < c.mute then .muted
  else if c.recording then (if 0 < c.quiet then .stopping else .recording)
  else if 0 < c.active then .accumulating
  else .armed

/-- Counts a frame with motion. -/
def countActive (c : Counters) (minFrames : Int) : Counters × Verdict :=
  let c := { c with active := c.active + 1, quiet := 0 }
  if c.active < minFrames then (c, .gathering c.active minFrames)
  else ({ c with recording := true }, .motion (!c.recording))

/-- Counts a quiet frame of a recording. -/
def countQuiet (c : Counters) (minDuration muteDuration : Int) : Counters × Verdict :=
  let c := { c with active := 0, quiet := c.quiet + 1 }
  if minDuration < c.quiet then
    ({ c with recording := false, mute := max muteDuration 0 }, .quiet c.quiet true)
  else (c, .quiet c.quiet false)

/-- Counts a frame, and says what it means. -/
def advance (c : Counters) (active : Bool) (limits : Limits) : Counters × Verdict :=
  if 0 < c.mute then ({ c with mute := c.mute - 1 }, .muted (c.mute - 1 = 0))
  else if active then c.countActive limits.minFrames
  else if c.recording then c.countQuiet limits.minDuration limits.muteDuration
  else ({ c with active := 0 }, .idle)

end Counters

end MotionWatch
