import MotionWatch.Parameter.Presets
import MotionWatch.Record.PreRecord
import MotionWatch.Trigger.Host

/-!
# Cascading triggers

A cascading trigger records from its own camera while one of the triggers that it follows is
recording. It is woken up by their notifications. With frames from before the recording it reads
its camera all the time, else it only waits.

* `CascadingTrigger.respond`: what is to be done in a round.
* `CascadingTrigger.startRun`, `step`: running it.
-/

namespace MotionWatch

/-- A trigger that follows other triggers. -/
structure CascadingTrigger where
  id : String
  /-- The name of the camera. -/
  source : String
  /-- The number of targets. -/
  targets : Nat
  /-- Whether frames are kept from before a recording. -/
  keepsFrames : Bool
  recording : Bool
  prerecord : PreRecord Frame
  /-- The time of the last frame. -/
  lastTs : Nat

namespace CascadingTrigger

/-- A trigger without targets. Whether it keeps frames is decided now, for good. -/
def create (id source : String) (params : ParameterSet) : Except Misuse CascadingTrigger := do
  let duration ← params.getInt ParameterName.preRecordDuration
  return ⟨id, source, 0, 0 < duration, false, .empty, 0⟩

/-- The record of a text about this trigger. -/
def say (t : CascadingTrigger) (level : Level) (text : String) : Action :=
  .log ⟨level, s!"{t.id}: {text}"⟩

/-- Starts a recording with the frames from before. -/
def start (t : CascadingTrigger) (frames : List Frame) : CascadingTrigger × List Action :=
  ({ t with recording := true },
    t.say .info s!"starting ({frames.length} pre-record frames)" ::
      startTargets t.targets frames none ++ [.setMotion true, .notify t.source])

/-- Whether a recording is to be started. -/
def wakes (t : CascadingTrigger) (a : Answers) (allow : Bool) : Bool :=
  a.signalled && !t.recording && allow

/-- Takes the notification, and starts a recording if that is to be done. -/
def wakeUp (t : CascadingTrigger) (a : Answers) (allow : Bool) : CascadingTrigger × List Action :=
  if t.wakes a allow then
    let (frames, prerecord) := t.prerecord.take
    let (t, started) := { t with prerecord }.start frames
    (t, .takeSignal :: started)
  else (t, [.takeSignal])

/-- Looks for a reason to start a recording. Without a frame the notification is left for the next
round, if frames are kept. -/
def listen (t : CascadingTrigger) (a : Answers) (frame : Option Frame) (allow : Bool) :
    Except Misuse (CascadingTrigger × List Action) := do
  if t.keepsFrames then
    match frame with
    | none => return (t, [])
    | some f =>
      let capacity := (← a.params.getInt ParameterName.preRecordDuration).toNat
      return { t with prerecord := t.prerecord.push f capacity }.wakeUp a allow
  else return t.wakeUp a allow

/-- Stops the recording when no other trigger is recording any more. -/
def stopWhenQuiet (t : CascadingTrigger) (a : Answers) : CascadingTrigger × List Action :=
  if t.recording && !a.upstream then
    ({ t with recording := false },
      t.say .info "stopping recording" :: stopTargets t.targets ++ [.setMotion false])
  else (t, [])

/-- What is to be done in a round. -/
def respond (t : CascadingTrigger) (a : Answers) (frame : Option Frame) (allow : Bool) :
    Except Misuse (CascadingTrigger × List Action) := do
  let (t, started) ← t.listen a frame allow
  let (t, stopped) := t.stopWhenQuiet a
  return (t, started ++ stopped)

/-- Stops everything: the frames that were kept are dropped, the targets are stopped and the
camera is released. -/
def shutdown (t : CascadingTrigger) : CascadingTrigger × List Action :=
  ({ t with prerecord := .empty, recording := false },
    (if t.recording then stopTargets t.targets ++ [.setMotion false] else []) ++ [.stopSource])

/-! ## Running -/

/-- A cascading trigger while it runs. -/
abbrev Running (σ : Type) := Run CascadingTrigger Unit Empty σ

variable {σ : Type}

/-- How long a notification is waited for. -/
def patience : Nat := 100000000

/-- Waits for a frame if frames are kept, and else for a notification. -/
def await (h : Host σ) (r : Running σ) : Option Frame × Running σ :=
  if r.trigger.keepsFrames then r.fetch h true r.trigger.lastTs
  else (none, r.act h [.await patience])

/-- The body of the loop. -/
def follow (h : Host σ) (r : Running σ) : Running σ :=
  let (allow, r) := r.askSchedule h
  let (frame, r) := await h r
  let trigger := match frame with
    | some f => { r.trigger with lastTs := f.ts }
    | none => r.trigger
  match trigger.respond (h.answers r.world) frame allow with
  | .ok step => r.proceed h step
  | .error e => r.goTo (.returned (.crashed (some e)))

/-- A trigger that is going to run. -/
def stepRun (t : CascadingTrigger) (world : σ) : Running σ :=
  { trigger := t, stage := .going (), world, trace := [] }

/-- The start of a run. -/
def startRun (h : Host σ) (t : CascadingTrigger) (world : σ) : Running σ :=
  (t.stepRun world).act h [.startSource]

/-- One round of a run. -/
def step (h : Host σ) (r : Running σ) : Running σ :=
  match r.stage with
  | .going () => r.round h (follow h)
  | .ending o => (r.proceed h r.trigger.shutdown).goTo (.returned o)
  | .returned _ => r

end CascadingTrigger

end MotionWatch
