import MotionWatch.Trigger.Host
import MotionWatch.Trigger.Motion
import MotionWatch.Worker.Pace

/-!
# Running a motion trigger

A run begins with the warm-up, in which frames are read and dropped; the last of them becomes the
reference of the detector. Then every frame is processed, at no more than the wanted rate.
Whatever ends the run, everything is stopped.

* `MotionTrigger.warmUpRun`: the start of a warm-up.
* `MotionTrigger.startRun`: the start of a run.
* `MotionTrigger.step`: one round.
-/

namespace MotionWatch.MotionTrigger

/-- How far a motion trigger is. -/
inductive Phase where
  /-- It has read so many frames, and keeps the last one. -/
  | warmingUp (seen : Nat) (last : Option Frame)
  | watching

/-- Why a motion trigger gives up. -/
inductive Failure where
  | frame (cause : FrameError)
  | resized (cause : Resized)
  deriving DecidableEq, Repr

/-- What is said about a trigger that gave up. -/
def Failure.message : Failure → String
  | frame cause => cause.message
  | resized cause => cause.message

/-- A motion trigger while it runs. -/
abbrev Running (σ : Type) := Run MotionTrigger Phase Failure σ

variable {σ : Type}

/-- The number of frames that a warm-up reads. At least one is needed to learn the size. -/
def neededFrames (t : MotionTrigger) : Nat := max t.warmUp 1

/-- The start of a warm-up. -/
def warmUpRun (h : Host σ) (t : MotionTrigger) (world : σ) : Running σ :=
  ({ trigger := t, stage := .going (.warmingUp 0 none), world, trace := [] } : Running σ).act h
    [t.say .info s!"warming up ({t.neededFrames} frames)"]

/-- The start of a run. -/
def startRun (h : Host σ) (t : MotionTrigger) (world : σ) : Running σ :=
  ({ trigger := t, stage := .going (.warmingUp 0 none), world, trace := [] } : Running σ).act h
    [.startSource, t.say .info s!"warming up ({t.neededFrames} frames)"]

/-- What is said when a trigger is ready. -/
def ready (t : MotionTrigger) : List Action :=
  match t.detector.dim with
  | some (w, h) => [t.say .info s!"{w}x{h}, go!"]
  | none => []

/-- Makes the last frame of the warm-up the reference. -/
def finishWarmUp (h : Host σ) (last : Option Frame) (r : Running σ) : Running σ :=
  match last with
  | none => (r.act h r.trigger.ready).goTo (.going .watching)
  | some f =>
    match r.trigger.detector.prime f with
    | .error e => r.goTo (.ending (.failed (.frame e)))
    | .ok detector =>
      let t := { r.trigger with detector }
      (r.proceed h (t, t.ready)).goTo (.going .watching)

/-- A round of the warm-up. Only a stop ends it early. -/
def warmUpRound (h : Host σ) (seen : Nat) (last : Option Frame) (r : Running σ) : Running σ :=
  if r.trigger.neededFrames ≤ seen then finishWarmUp h last r
  else if (h.control r.world).stopped then r.goTo (.ending .completed)
  else
    let (frame, r) := r.fetch h true r.trigger.lastTs
    match frame with
    | none => r
    | some f =>
      ({ r with trigger := { r.trigger with lastTs := f.ts } } : Running σ).goTo
        (.going (.warmingUp (seen + 1) (some f)))

/-- Waits until the round has lasted long enough. -/
def pace (h : Host σ) (r : Running σ) : Running σ :=
  match (h.answers r.world).params.getDouble ParameterName.maxFps with
  | .error e => r.goTo (.returned (.crashed (some e)))
  | .ok rate =>
    match periodOf rate with
    | .unlimited => r
    | .nanoseconds n => r.act h [.sleep n]
    | .unbounded => r.goTo (.returned (.crashed none))

/-- Processes a frame in a run. -/
def watchFrame (h : Host σ) (allow : Bool) (f : Frame) (r : Running σ) : Running σ :=
  match r.trigger.processFrame (h.answers r.world) f allow with
  | .ok step => pace h (r.proceed h step)
  | .error (.failed e) => r.goTo (.ending (.failed (.resized e)))
  | .error (.crashed cause) => r.goTo (.returned (.crashed cause))

/-- The body of the loop. -/
def watch (h : Host σ) (r : Running σ) : Running σ :=
  let (allow, r) := r.askSchedule h
  let (frame, r) := r.fetch h false r.trigger.lastTs
  match frame with
  | none => r
  | some f => watchFrame h allow f { r with trigger := { r.trigger with lastTs := f.ts } }

/-- One round of a run. -/
def step (h : Host σ) (r : Running σ) : Running σ :=
  match r.stage with
  | .going (.warmingUp seen last) => warmUpRound h seen last r
  | .going .watching => r.round h (watch h)
  | .ending o => (r.proceed h (r.trigger.shutdown (h.answers r.world))).goTo (.returned o)
  | .returned _ => r

/-- The result of a warm-up, when it is over: whether the trigger is ready. -/
def warmUpResult? (r : Running σ) : Option (Except Failure Bool) :=
  match r.stage with
  | .going (.warmingUp _ _) => none
  | .going .watching => some (.ok true)
  | .ending (.failed e) => some (.error e)
  | _ => some (.ok false)

/-- One round of a warm-up that is not followed by a run. -/
def warmUpStep (h : Host σ) (r : Running σ) : Running σ :=
  match r.stage with
  | .going (.warmingUp seen last) => warmUpRound h seen last r
  | _ => r

end MotionWatch.MotionTrigger
