import MotionWatch.Notify.Exchange
import MotionWatch.Record.MetaBoard
import MotionWatch.Script.Hook
import MotionWatch.Simulation.Camera
import MotionWatch.Simulation.Microphone
import MotionWatch.Simulation.Recorder
import MotionWatch.Trigger.Host

/-!
# Studios

A studio holds the simulated devices of some triggers, and everything that the triggers share. Each
trigger has a desk with a clock of its own, which goes on when the trigger waits for something.

* `Studio`: all desks, and what they share.
* `Studio.addDesk`: one more desk.
* `Studio.perform`, `answers`, `host`: the studio as the surroundings of a trigger.
-/

namespace MotionWatch

/-- What a trigger listens to. -/
inductive Device where
  | camera (c : SimulatedCamera)
  | microphone (m : SimulatedMicrophone)

/-- The devices of a trigger. -/
structure Desk where
  device : Device
  recorder : SimulatedRecorder
  params : ParameterSet
  /-- The hub that the trigger publishes through. -/
  hub : Nat
  /-- Its signal. -/
  signal : Nat
  /-- The hubs of the triggers that it follows. -/
  upstream : List Nat
  /-- The nanoseconds that have passed here. -/
  clock : Nat
  /-- The time at which the current round began. -/
  roundStart : Nat
  /-- What the scripts that are running will have logged when they are joined. -/
  running : List (Hook × LogRecord)

/-- All desks, and what they share. -/
structure Studio where
  exchange : Exchange
  events : EventLog
  /-- When each event began and when it was over, in nanoseconds. -/
  times : List (Nat × Option Nat)
  board : MetaBoard
  desks : List Desk
  /-- The time at which all triggers are asked to stop. -/
  closing : Nat
  log : List LogRecord

namespace Studio

/-- A studio without desks. -/
def ofClosing (closing : Nat) : Studio := ⟨.empty, .empty, [], .empty, [], closing, []⟩

/-- One more desk, whose trigger follows the triggers of some hubs. -/
def addDesk (s : Studio) (device : Device) (recorder : SimulatedRecorder) (params : ParameterSet)
    (upstream : List Nat) : Studio :=
  let (e, hub) := s.exchange.addHub
  let (e, signal) := e.addSignal
  let (e, _) := e.subscribe signal upstream
  { s with
    exchange := e
    desks := s.desks ++ [⟨device, recorder, params, hub, signal, upstream, 0, 0, []⟩] }

/-- The trigger of a desk listens to the one of another desk as well. -/
def listen (s : Studio) (listener speaker : Nat) : Studio :=
  match s.desks[listener]?, s.desks[speaker]? with
  | some d, some d₁ => { s with exchange := (s.exchange.register d₁.hub d.signal).1 }
  | _, _ => s

/-- Changes a desk. -/
def modifyDesk (s : Studio) (i : Nat) (f : Desk → Desk) : Studio :=
  { s with desks := s.desks.modify i f }

/-- Changes the device of a desk. -/
def setDevice (s : Studio) (i : Nat) (device : Device) : Studio :=
  s.modifyDesk i fun d => { d with device }

/-- Logs records. -/
def tell (s : Studio) (records : List LogRecord) : Studio := { s with log := s.log ++ records }

/-- The time at a desk. -/
def clock (s : Studio) (i : Nat) : Nat := (s.desks[i]?).elim s.closing Desk.clock

/-- The clock of a desk goes on to some time, if it is not later there already. -/
def waitUntil (s : Studio) (i time : Nat) : Studio :=
  s.modifyDesk i fun d => { d with clock := max d.clock time }

/-! ## What is done for a trigger -/

/-- Does something with the camera of a desk. -/
def withCamera (s : Studio) (i : Nat) (d : Desk)
    (f : SimulatedCamera → SimulatedCamera × LogRecord) : Studio :=
  match d.device with
  | .camera c =>
    let (c, record) := f c
    (s.setDevice i (.camera c)).tell [record]
  | .microphone _ => s

/-- Begins a recording at a desk. -/
def startRecorder (s : Studio) (i : Nat) (d : Desk) (frames : List Frame) (event : Option Nat) :
    Studio :=
  let (recorder, record) := d.recorder.start frames.length event
  (s.modifyDesk i fun d => { d with recorder }).tell [record]

/-- Runs a script at a desk. -/
def runScript (s : Studio) (i : Nat) (hook : Hook) (path arguments : String) : Studio :=
  let command := hookCommand path arguments
  let record := hookRecord command (runHook .empty command).2
  s.modifyDesk i fun d => { d with running := d.running ++ [(hook, record)] }

/-- Waits for a script of a desk. -/
def joinScript (s : Studio) (i : Nat) (d : Desk) (hook : Hook) : Studio :=
  (s.tell ((d.running.filter fun r => r.1 = hook).map Prod.snd)).modifyDesk i fun d =>
    { d with running := d.running.filter fun r => r.1 ≠ hook }

/-- Ends an event, and notes the time. -/
def endEvent (s : Studio) (d : Desk) (id : Nat) : Studio :=
  match s.events.endEvent id with
  | .ok events =>
    { s with events, times := s.times.modify (id - 1) fun t => (t.1, some d.clock) }
  | .error _ => s

/-- Does something for the trigger of a desk. -/
def performAt (s : Studio) (i : Nat) (d : Desk) : Action → Studio
  | .log record => s.tell [record]
  | .startSource => s.withCamera i d SimulatedCamera.start
  | .stopSource => s.withCamera i d SimulatedCamera.stop
  | .takeSignal => { s with exchange := s.exchange.take d.signal }
  | .setMotion on => { s with exchange := s.exchange.setMotion d.hub on }
  | .notify subject =>
    let (exchange, records) := s.exchange.notify d.hub subject
    { s with exchange }.tell records
  | .publish w => { s with board := s.board.set w.key 0 w.value }
  | .beginEvent trigger kind note =>
    { s with
      events := s.events.register trigger kind note
      times := s.times ++ [(d.clock, none)] }
  | .endEvent id => s.endEvent d id
  | .runScript hook path arguments => s.runScript i hook path arguments
  | .joinScript hook => s.joinScript i d hook
  | .startTarget _ frames event => s.startRecorder i d frames event
  | .stopTarget _ => s.tell [d.recorder.stop]
  | .sleep nanoseconds => s.waitUntil i (d.roundStart + nanoseconds)
  | .fetch .. | .listen .. | .turn .. | .await .. | .demand .. => s

/-- Does something for the trigger of a desk. -/
def perform (i : Nat) (a : Action) (s : Studio) : Studio :=
  match s.desks[i]? with
  | some d => s.performAt i d a
  | none => s

/-! ## What a trigger is told -/

/-- What the trigger of a desk is told. -/
def answers (i : Nat) (s : Studio) : Answers where
  params := (s.desks[i]?).elim .empty Desk.params
  signalled := (s.desks[i]?).any fun d => s.exchange.isPending d.signal
  upstream := (s.desks[i]?).any fun d => d.upstream.any s.exchange.motion
  angle := (0.0, 0.0)
  newEvent := .ok s.events.nextId
  eventEnd id :=
    match s.events.endEvent id with
    | .ok _ => .ok ()
    | .error e => .error e.message
  launch _ := .running false

/-- What the trigger of a desk was asked to do. -/
def control (i : Nat) (s : Studio) : Control := ⟨s.closing ≤ s.clock i, false⟩

/-- The next frame of a desk. A frame that is never due is waited for until everything stops. -/
def nextFrame (i : Nat) (s : Studio) : Option Frame × Studio :=
  match (s.desks[i]?).map Desk.device with
  | some (.camera c) =>
    match c.capture with
    | (none, c) => (none, (s.setDevice i (.camera c)).waitUntil i s.closing)
    | (some (due, shot), c) =>
      let s := (s.setDevice i (.camera c)).waitUntil i due
      match shot with
      | .ok f => (some f, s)
      | .error e => (none, s.tell [c.complain e])
  | _ => (none, s)

/-- The next samples of a desk. -/
def nextSamples (i n : Nat) (s : Studio) : Except String (List Int) × Studio :=
  match (s.desks[i]?).map Desk.device with
  | some (.microphone m) =>
    match m.read n with
    | none => (.ok [], s.waitUntil i s.closing)
    | some (samples, m) =>
      (.ok samples,
        (s.setDevice i (.microphone m)).waitUntil i m.elapsed)
  | _ => (.ok [], s)

/-- The studio as the surroundings of one of its triggers. There is no schedule. -/
def host (i : Nat) : Host Studio where
  control := control i
  idle s := s
  isAllowed s := (true, s)
  nextFrame _ _ := nextFrame i
  nextSamples := nextSamples i
  answers := answers i
  perform := perform i

end Studio

end MotionWatch
