import MotionWatch.Simulation.Config
import MotionWatch.Simulation.Schedule

/-!
# Simulations

In a simulation a motion trigger watches a small camera and a cascading trigger records from a
large one, in the same scene. With a microphone, an audio trigger can wake up the motion trigger.

* `SimulationConfig.prepare`: the studio and its workers, or a `SimulationError`.
* `SimulationConfig.simulate`: a whole simulation.
* `Studio.report`: what is said about a simulation in the end.
-/

namespace MotionWatch

/-- Why there is no simulation. -/
inductive SimulationError where
  | cannotOpen (path : String)
  | cannotParse (path : String)
  | timing (fps period active : Float)
  | trigger (cause : ConfigError)
  /-- A time or a name cannot be expressed. -/
  | crashed

/-- What is said about a simulation that cannot be done, outermost cause first. -/
def SimulationError.causes : SimulationError → List String
  | cannotOpen path => [s!"cannot open {path}"]
  | cannotParse path => [s!"cannot parse {path}"]
  | timing fps period active =>
    [s!"invalid scene timing: fps={Decimal.plainFloat fps}, " ++
      s!"period={Decimal.plainFloat period}, active={Decimal.plainFloat active}"]
  | trigger cause => cause.causes
  | crashed => []

namespace SimulationConfig

/-- A time of the configuration in nanoseconds. -/
def nanoseconds (seconds : Float) : Except SimulationError Nat :=
  match nanosecondsOf (Decimal.ofFloat seconds) with
  | some n => .ok n
  | none => .error .crashed

/-- The scene, whose quiet and active times both have to last for a while. -/
def scene (c : SimulationConfig) : Except SimulationError Scene := do
  if c.fps ≤ 0.0 ∨ c.period ≤ c.active ∨ c.active ≤ 0.0 then
    throw (.timing c.fps c.period c.active)
  return ⟨← nanoseconds c.period, ← nanoseconds c.active⟩

/-- Samples per second of the microphone. -/
def audioRate : Nat := 8000

/-- The time at which everything stops. -/
def closing (c : SimulationConfig) : Except SimulationError Nat :=
  nanoseconds (if 0.0 < c.seconds then c.seconds else 0.0)

/-- The name of a worker cannot hold the character that ends texts. -/
def nameWorker (id : String) : Except SimulationError Unit :=
  if isHandedOver id then .ok () else .error .crashed

/-- A studio with a desk for each trigger. The first trigger listens to the microphone, and the
second one follows the first. -/
def furnish (c : SimulationConfig) (scene : Scene) (closing : Nat)
    (motionParams cascadeParams : ParameterSet) : Studio :=
  let lores := .camera (.create "lores-cam" c.lores c.fps scene)
  let hires := .camera (.create "hires-cam" c.hires c.fps scene)
  let s := (Studio.ofClosing closing).addDesk lores (.create "lores-recorder") motionParams []
  let s := s.addDesk hires (.create "hires-recorder") cascadeParams [0]
  if c.audio.isSome then
    (s.addDesk (.microphone (.create audioRate scene)) (.create "") .empty []).listen 0 2
  else s

/-- Starts the workers at all desks. -/
def staff (s : Studio) (motion : MotionTrigger) (cascade : CascadingTrigger)
    (audio : Option AudioTrigger) : Studio × List Worker :=
  let (motion, s) := Worker.ofMotion ({ motion with targets := 1 }.startRun (Studio.host 0) s)
  let (cascade, s) := Worker.ofCascade ({ cascade with targets := 1 }.startRun (Studio.host 1) s)
  match audio with
  | none => (s, [motion, cascade])
  | some a =>
    let (audio, s) := Worker.ofAudio (a.startRun (Studio.host 2) s)
    (s, [motion, cascade, audio])

/-- The studio, and the workers at its desks. -/
def prepare (c : SimulationConfig) (files : Files) (decoder : Decoder) :
    Except SimulationError (Studio × List Worker) := do
  let scene ← c.scene
  let (motion, motionParams) ← (c.motion.build files decoder "lores-cam").mapError .trigger
  let (cascade, cascadeParams) ← (c.cascade.build "hires-cam" 1).mapError .trigger
  for id in [motion.id, cascade.id] ++ c.audio.toList.map AudioConfig.id do
    nameWorker id
  let s := c.furnish scene (← c.closing) motionParams cascadeParams
  return staff s motion cascade (c.audio.map fun a => a.build audioRate)

/-- A whole simulation. -/
def simulate (c : SimulationConfig) (files : Files) (decoder : Decoder) :
    Except SimulationError Studio := do
  let (s, workers) ← c.prepare files decoder
  return s.run workers

end SimulationConfig

namespace Studio

/-- The recordings at a desk. -/
def recordings (s : Studio) (i : Nat) : Nat := (s.desks[i]?).elim 0 fun d => d.recorder.recordings

/-- How long an event lasted. -/
def durationText : Nat × Option Nat → String
  | (_, none) => "open"
  | (began, some ended) =>
    s!"{Decimal.fixedFloat 2 (Float.ofNat (ended / 1000 - began / 1000) / 1.0e6)}s"

/-- A line about an event. -/
def eventLine (e : EventRecord) (time : Nat × Option Nat) : String :=
  s!"event {e.id}: {e.trigger} {e.kind.name} ({e.note}, {durationText time})"

/-- What is said about a simulation in the end, line by line. -/
def report (s : Studio) : List String :=
  ((s.board.getDouble 1 MetaKey.pixelsChanged).toList.map fun x =>
    s!"last frame: {Decimal.fixedFloat 2 x}% of the pixels changed") ++
  [s!"{s.recordings 0} low resolution and {s.recordings 1} high resolution recordings"] ++
  (s.events.events.zip s.times).map fun (e, time) => eventLine e time

end Studio

end MotionWatch
