import MotionWatch.Detection.Detector
import MotionWatch.Record.PreRecord
import MotionWatch.Trigger.Action
import MotionWatch.Trigger.Counters

/-!
# Motion triggers

A motion trigger watches a camera. It shows each frame to its detector, counts the frames with
motion, and starts and stops its targets accordingly. A notification of its signal counts as
motion.

* `MotionTrigger.processFrame`: what is to be done about a frame.
* `MotionTrigger.shutdown`: what is to be done when nobody watches any more.
-/

namespace MotionWatch

/-- The parameters that are looked up for each frame. -/
structure MotionParameters where
  limits : Limits
  panTilt : Bool
  /-- Frames to keep from before a recording. -/
  capacity : Nat
  /-- The name to publish the first frame of a recording under, if it is not empty. -/
  remember : String

/-- Looks up the parameters. -/
def MotionParameters.read (s : ParameterSet) : Except Misuse MotionParameters := do
  return {
    limits := {
      minFrames := ← s.getInt ParameterName.minFrames
      minDuration := ← s.getInt ParameterName.minDuration
      muteDuration := ← s.getInt ParameterName.muteDuration }
    panTilt := ← s.getBool ParameterName.panTilt
    capacity := (← s.getInt ParameterName.preRecordDuration).toNat
    remember := ← s.getString ParameterName.rememberTrigger }

/-- A frame of another size than the ones before it. -/
structure Resized where
  width : Nat
  height : Nat
  newWidth : Nat
  newHeight : Nat
  deriving DecidableEq, Repr

/-- What is said about a frame of another size. -/
def Resized.message (r : Resized) : String :=
  s!"camera resized from {r.width}x{r.height} to {r.newWidth}x{r.newHeight}, aborting"

/-- A trigger that watches a camera. -/
structure MotionTrigger where
  id : String
  /-- The name of the camera. -/
  source : String
  /-- Whether the camera can be turned. -/
  steerable : Bool
  /-- The number of targets. -/
  targets : Nat
  /-- The number of frames to skip at first. -/
  warmUp : Nat
  detector : MotionDetector
  counters : Counters
  /-- The event of the recording. -/
  event : Option Nat
  prerecord : PreRecord Frame
  onStart : ScriptSlot
  onStop : ScriptSlot
  /-- The time of the last frame. -/
  lastTs : Nat

/-- How an event is shown to a programmer. -/
def describeEvent : Option Nat → String
  | some id => s!"Some({id})"
  | none => "None"

namespace MotionTrigger

/-- The number of frames that are skipped unless it is said otherwise. -/
def standardWarmUp : Nat := 10

/-- A trigger without targets and scripts. -/
def create (id source : String) (detector : MotionDetector) : MotionTrigger :=
  ⟨id, source, false, 0, standardWarmUp, detector, .zero, none, .empty, .disabled, .disabled, 0⟩

/-- The record of a text about this trigger. -/
def say (t : MotionTrigger) (level : Level) (text : String) : Action :=
  .log ⟨level, s!"{t.id}: {text}"⟩

/-! ## Hooks -/

/-- Runs the script for the start of a recording. -/
def fireStart (t : MotionTrigger) (a : Answers) : MotionTrigger × List Action :=
  let (slot, calls) := t.onStart.fire "" (a.launch .start)
  ({ t with onStart := slot }, calls.map (.ofScript .start))

/-- Runs the script for the end of a recording. -/
def fireStop (t : MotionTrigger) (a : Answers) : MotionTrigger × List Action :=
  let (slot, calls) := t.onStop.fire "" (a.launch .stop)
  ({ t with onStop := slot }, calls.map (.ofScript .stop))

/-- Waits for both scripts. -/
def joinScripts (t : MotionTrigger) : MotionTrigger × List Action :=
  let (onStart, started) := t.onStart.join
  let (onStop, stopped) := t.onStop.join
  ({ t with onStart, onStop }, started.map (.ofScript .start) ++ stopped.map (.ofScript .stop))

/-! ## Recordings -/

/-- Turns the camera towards the motion, if it is known where that is. -/
def steering (t : MotionTrigger) (a : Answers) (f : Frame) (d : Detection) (panTilt : Bool) :
    List Action :=
  match d.stats.centroid with
  | some c =>
    if panTilt && d.triggered then
      let (pan, tilt) := steer c f.dim a.angle d.factors
      [t.say .info (s!"pan to {Decimal.fixedFloat 1 pan} ({Decimal.fixedFloat 2 d.factors.1}), " ++
        s!"tilt to {Decimal.fixedFloat 1 tilt} ({Decimal.fixedFloat 2 d.factors.2})"),
        .turn pan tilt]
    else []
  | none => []

/-- Publishes the first frame of a recording, if it is to be remembered. -/
def remembering (f : Frame) (key : String) : List Action :=
  if key.isEmpty then [] else [.publish ⟨key, .unlimited, .bitmap f⟩]

/-- Begins the event of a recording. What the detector saw decides about its kind. -/
def beginEvent (t : MotionTrigger) (a : Answers) (f : Frame) (d : Detection) (panTilt : Bool)
    (remember : String) : MotionTrigger × List Action :=
  let begin : Action :=
    .beginEvent t.id (if d.triggered then .motion else .audio) "motion start"
  let (event, failure) : Option Nat × List Action :=
    match a.newEvent with
    | .ok id => (some id, [])
    | .error e => (none, [t.say .warn s!"cannot register event: {e}"])
  ({ t with event },
    begin :: failure ++ [t.say .info s!"starting recording (event {describeEvent event})"] ++
      t.steering a f d panTilt ++ remembering f remember)

/-- Ends the event of a recording. -/
def endEvent (t : MotionTrigger) (a : Answers) : MotionTrigger × List Action :=
  match t.event with
  | none => (t, [])
  | some id =>
    ({ t with event := none }, .endEvent id ::
      match a.eventEnd id with
      | .ok () => []
      | .error e => [t.say .warn s!"cannot end event {id}: {e}"])

/-- Stops a recording: its event ends and its targets stop. -/
def stopRecording (t : MotionTrigger) (a : Answers) : MotionTrigger × List Action :=
  let announcement := t.say .info s!"stopping (event {describeEvent t.event})"
  let (t, ended) := t.endEvent a
  let (t, fired) := t.fireStop a
  ({ t with counters := { t.counters with recording := false } },
    announcement :: ended ++ stopTargets t.targets ++ fired ++ [.setMotion false])

/-! ## Frames -/

/-- How much changed, as it is logged. -/
def changeText (d : Detection) : String :=
  s!"motion detected ({Decimal.fixedFloat 2 d.stats.percent}% of the pixels changed)"

/-- What is to be done about a frame with motion. Dependents are told when they can already see
that the trigger is recording. -/
def onMotion (t : MotionTrigger) (a : Answers) (f : Frame) (d : Detection) (panTilt : Bool)
    (remember : String) (starts : Bool) : MotionTrigger × List Action :=
  let (t, fired) := t.fireStart a
  let told := [t.say .info (changeText d), .setMotion true, .notify t.source] ++ fired
  if starts then
    let (t, begun) := t.beginEvent a f d panTilt remember
    (t, told ++ begun)
  else (t, told)

/-- Follows a verdict. -/
def follow (t : MotionTrigger) (a : Answers) (f : Frame) (d : Detection) (panTilt : Bool)
    (remember : String) : Verdict → MotionTrigger × List Action
  | .muted last =>
    (t, t.say .debug "mute" :: if last && panTilt then [.turn 0.0 0.0] else [])
  | .gathering seen needed => (t, [t.say .debug s!"{seen}/{needed} {changeText d}"])
  | .motion starts => t.onMotion a f d panTilt remember starts
  | .quiet seen stops =>
    let told := t.say .debug s!"quiet frame {seen}"
    if stops then
      let (t, stopped) := t.stopRecording a
      (t, told :: stopped)
    else (t, [told])
  | .idle => (t, [])

/-- Whether a verdict starts the targets. -/
def startsTargets : Verdict → Bool
  | .motion starts => starts
  | _ => false

/-- Starts the targets with the frames that were kept. -/
def handOver (t : MotionTrigger) : MotionTrigger × List Action :=
  let (frames, prerecord) := t.prerecord.take
  ({ t with prerecord }, startTargets t.targets frames t.event)

/-- Counts a frame that the detector has seen, keeps it, and follows the verdict on it. The
targets are started last, so that they get this frame too. -/
def countFrame (t : MotionTrigger) (a : Answers) (p : MotionParameters) (f : Frame)
    (d : Detection) (allow : Bool) : MotionTrigger × List Action :=
  let (counters, verdict) := t.counters.advance ((d.triggered || a.signalled) && allow) p.limits
  let (t, followed) :=
    { t with counters }.follow a f d (p.panTilt && t.steerable) p.remember verdict
  let t := { t with prerecord := t.prerecord.push f p.capacity }
  if startsTargets verdict then
    let (t, started) := t.handOver
    (t, followed ++ started)
  else (t, followed)

/-- Shows a frame to the detector and counts it. A frame that cannot be compared is skipped, as if
it had never come; what stops the detector stops the program. -/
def examine (t : MotionTrigger) (a : Answers) (f : Frame) (allow : Bool) :
    Except (Option Misuse) (MotionTrigger × List Action) :=
  match t.detector.process a.params f with
  | .error (.crashed cause) => .error cause
  | .error (.failed e) => .ok (t, [t.say .warn s!"skipping frame: {e.message}"])
  | .ok (detector, d, writes) => do
    let p ← (MotionParameters.read a.params).mapError some
    let (t, counted) := { t with detector }.countFrame a p f d allow
    return (t, writes.map .publish ++ .takeSignal :: counted)

/-- Whether a frame is of another size than the ones before it. -/
def resized? (t : MotionTrigger) (f : Frame) : Option Resized :=
  match t.detector.dim with
  | some (w, h) => if f.dim = (w, h) then none else some ⟨w, h, f.width, f.height⟩
  | none => none

/-- Handles a frame. All frames have to be of the same size. -/
def processFrame (t : MotionTrigger) (a : Answers) (f : Frame) (allow : Bool) :
    Except (Fault Resized) (MotionTrigger × List Action) :=
  match t.resized? f with
  | some r => .error (.failed r)
  | none => (t.examine a f allow).mapError .crashed

/-- Stops everything: the frames that were kept are dropped, a recording is stopped, the scripts
are joined and the camera is released. -/
def shutdown (t : MotionTrigger) (a : Answers) : MotionTrigger × List Action :=
  let t := { t with prerecord := .empty }
  let (t, stopped) := if t.counters.recording then t.stopRecording a else (t, [])
  let (t, joined) := t.joinScripts
  (t, stopped ++ joined ++ [.stopSource])

end MotionTrigger

end MotionWatch
