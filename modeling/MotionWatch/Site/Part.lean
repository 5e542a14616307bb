import MotionWatch.Script.Hook
import MotionWatch.Trigger.Audio
import MotionWatch.Trigger.Cascade
import MotionWatch.Trigger.Motion

/-!
# The parts of a site

A site is a number of triggers that are wired together. Each of them has surroundings of its own,
which follow a script: every time a camera, a microphone or a schedule is asked, the next cue says
what it answers, and what happens meanwhile.

* `Cue`: an answer, and what happens before.
* `Part`: a trigger with its surroundings.
-/

namespace MotionWatch

/-- An answer, and what happens before it is given, in this order. -/
structure Cue where
  /-- A subject is published through a link. -/
  notify : Option (Nat × String)
  /-- The motion flag of a link changes. -/
  motion : Option (Nat × Bool)
  /-- The administrator writes a parameter. -/
  set : Option (String × Value)
  /-- The trigger is asked to stop. -/
  stops : Bool
  frame : Option Frame
  samples : Except String (List Int)
  isOn : Bool

/-- What runs the scripts of a trigger. -/
inductive ScriptRunner where
  /-- Only notes the scripts; some paths are no scripts. -/
  | noting (missing : List String)
  | shell
  deriving DecidableEq, Repr

/-- Which calls to the log of events fail. -/
inductive EventFault where
  | register
  | finish
  deriving DecidableEq, Repr

/-- A trigger of a site. -/
inductive PartTrigger where
  | motion (t : MotionTrigger)
  | cascade (t : CascadingTrigger)
  | audio (t : AudioTrigger)
  /-- It was dropped. -/
  | gone

/-- What surrounds a trigger. -/
structure Surroundings where
  params : ParameterSet
  /-- What the camera or the microphone is going to answer. -/
  feed : List Cue
  /-- What the schedule is going to answer, if there is one. -/
  schedule : Option (List Cue)
  /-- Where the camera points to. -/
  angle : Float × Float
  runner : ScriptRunner
  fault : Option EventFault

/-- A trigger with its surroundings. -/
structure Part where
  name : String
  trigger : PartTrigger
  around : Surroundings
  /-- The hub that it publishes through. -/
  hub : Nat
  /-- Its signal, if it listens to others. -/
  signal : Option Nat
  /-- What keeps its registrations up. -/
  guards : List Nat
  /-- The hubs of the triggers that it follows. -/
  upstream : List Nat
  /-- What the scripts that are running will have logged when they are joined. -/
  running : List (Hook × LogRecord)

namespace PartTrigger

/-- The name of a trigger. -/
def id? : PartTrigger → Option String
  | motion t => some t.id
  | cascade t => some t.id
  | audio t => some t.id
  | gone => none

/-- The script of a hook. -/
def script : PartTrigger → Hook → String
  | motion t, .start => t.onStart.path
  | motion t, .stop => t.onStop.path
  | _, _ => ""

end PartTrigger

namespace Surroundings

/-- What becomes of an attempt to run a script. -/
def launch (a : Surroundings) (path : String) : Launch :=
  match a.runner with
  | .noting missing => if missing.contains path then .refused "no such script" else .running false
  | .shell => .running false

end Surroundings

namespace Part

/-- A round of asking more than there are cues left, and what is done besides. -/
def enoughRounds (p : Part) : Nat :=
  p.around.feed.length + (p.around.schedule.getD []).length + 8

end Part

end MotionWatch
