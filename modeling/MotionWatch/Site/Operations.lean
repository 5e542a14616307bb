import MotionWatch.Site.Basic
import MotionWatch.Trigger.MotionRun

/-!
# Operating a site

What can be done with a site from outside: parts are added, triggers are shown frames or samples,
or run until their scripts end, and watchers see what is published.

* `Site.addMotion`, `addCascade`, `addAudio`: more parts.
* `Site.processFrame`, `warmUp`, `stepCascade`, `processSamples`: single operations.
* `Site.run`, `runWorker`: whole runs.
* `Site.watch`, `takeNotice`, `drop`: the rest.
-/

namespace MotionWatch.Site

/-- How an operation on a site ends. -/
inductive Result (α : Type) where
  | done (value : α)
  | failed (cause : MotionTrigger.Failure)
  | crashed (cause : Option Misuse)
  /-- There is no such trigger any more. -/
  | absent
  deriving DecidableEq, Repr

/-! ## Parts -/

/-- Adds a part that listens to some hubs. -/
def addListening (s : Site) (name : String) (t : PartTrigger) (around : Surroundings)
    (hubs upstream : List Nat) : Site :=
  let (e, hub) := s.exchange.addHub
  let (e, signal) := e.addSignal
  let (e, guards) := e.subscribe signal hubs
  { s with
    exchange := e
    parts := s.parts ++ [⟨name, t, around, hub, some signal, guards, upstream, []⟩] }

/-- Adds a motion trigger that listens to some hubs. -/
def addMotion (s : Site) (name : String) (t : MotionTrigger) (around : Surroundings)
    (hubs : List Nat) : Site :=
  s.addListening name (.motion t) around hubs []

/-- Adds a cascading trigger that follows the triggers of some hubs. -/
def addCascade (s : Site) (name : String) (t : CascadingTrigger) (around : Surroundings)
    (upstream : List Nat) : Site :=
  s.addListening name (.cascade t) around upstream upstream

/-- Adds an audio trigger. -/
def addAudio (s : Site) (name : String) (t : AudioTrigger) (around : Surroundings) : Site :=
  let (e, hub) := s.exchange.addHub
  { s with exchange := e, parts := s.parts ++ [⟨name, .audio t, around, hub, none, [], [], []⟩] }

/-- The number of the part of a name. -/
def partOf? (s : Site) (name : String) : Option Nat := s.parts.findIdx? fun p => p.name = name

/-- The trigger of a part. -/
def trigger (s : Site) (i : Nat) : PartTrigger := (s.parts[i]?).elim .gone Part.trigger

/-! ## Single operations -/

/-- Has actions done for a part. -/
def act (s : Site) (i : Nat) (actions : List Action) : Site :=
  actions.foldl (fun s a => perform i a s) s

/-- Shows a frame to a motion trigger. -/
def processFrame (s : Site) (i : Nat) (f : Frame) (allow : Bool) : Result Unit × Site :=
  match s.trigger i with
  | .motion t =>
    match t.processFrame (answers i s) f allow with
    | .ok (t, actions) => (.done (), (s.act i actions).setTrigger i (.motion t))
    | .error (.failed e) => (.failed (.resized e), s)
    | .error (.crashed cause) => (.crashed cause, s)
  | _ => (.absent, s)

/-- Warms a motion trigger up. -/
def warmUp (s : Site) (i : Nat) : Result Bool × Site :=
  match s.trigger i, s.parts[i]? with
  | .motion t, some p =>
    let h := host i
    let r := (MotionTrigger.warmUpRun h t { s with control := .fresh }).rounds
      (MotionTrigger.warmUpStep h) p.enoughRounds
    (match MotionTrigger.warmUpResult? r with
      | some (.ok ready) => .done ready
      | some (.error e) => .failed e
      | none => .absent,
      r.world.setTrigger i (.motion r.trigger))
  | _, _ => (.absent, s)

/-- Has a cascading trigger go through one round. -/
def stepCascade (s : Site) (i : Nat) : Result Unit × Site :=
  match s.trigger i with
  | .cascade t =>
    let r := CascadingTrigger.follow (host i) (t.stepRun { s with control := .fresh })
    (match r.outcome? with
      | some (.crashed e) => .crashed e
      | _ => .done (),
      r.world.setTrigger i (.cascade r.trigger))
  | _ => (.absent, s)

/-- Gives samples to an audio trigger. -/
def processSamples (s : Site) (i : Nat) (samples : List Int) : Result Bool × Site :=
  match s.trigger i with
  | .audio t => (.done (t.hears samples), s.act i (t.process samples))
  | _ => (.absent, s)

/-! ## Runs -/

/-- The result of a run that failed in some way. -/
def resultOf {ε : Type} (cause : ε → MotionTrigger.Failure) : Option (Outcome ε) → Result Unit
  | some .completed => .done ()
  | some (.failed e) => .failed (cause e)
  | some (.crashed e) => .crashed e
  | none => .absent

/-- Runs a trigger under a control until its script ends. -/
def run (s : Site) (i : Nat) (control : Control) (endsWithSchedule : Bool) : Result Unit × Site :=
  let h := host i
  let s := { s with control, endsWithSchedule }
  let n := (s.parts[i]?).elim 0 Part.enoughRounds
  match s.trigger i with
  | .motion t =>
    let r := (t.startRun h s).rounds (MotionTrigger.step h) n
    (resultOf id r.outcome?, r.world.setTrigger i (.motion r.trigger))
  | .cascade t =>
    let r := (t.startRun h s).rounds (CascadingTrigger.step h) n
    (resultOf Empty.elim r.outcome?, r.world.setTrigger i (.cascade r.trigger))
  | .audio t =>
    let r := (t.startRun h s).rounds (AudioTrigger.step h) n
    (resultOf Empty.elim r.outcome?, r.world.setTrigger i (.audio r.trigger))
  | .gone => (.absent, s)

/-- Drops guards. -/
def dropGuards (s : Site) (guards : List Nat) : Site :=
  guards.foldl
    (fun s g =>
      let (exchange, records) := s.exchange.dropGuard g
      { s with exchange }.tell records)
    s

/-- Drops the trigger of a part: its scripts are joined and its registrations end. -/
def drop (s : Site) (i : Nat) : Bool × Site :=
  match s.trigger i, s.parts[i]? with
  | .gone, _ => (false, s)
  | t, some p =>
    let s := match t with
      | .motion t => s.act i t.joinScripts.2
      | _ => s
    let s := s.dropGuards p.guards
    let s := { s with exchange := p.signal.elim s.exchange s.exchange.dropSignal }
    (true, s.setTrigger i .gone)
  | _, none => (false, s)

/-- What a worker says about the end of its run. -/
def farewell (id : String) : Result Unit → LogRecord
  | .failed e => ⟨.error, s!"{id}: {e.message}"⟩
  | .crashed _ => ⟨.error, s!"{id}: thread panicked"⟩
  | _ => ⟨.info, s!"{id}: thread stopped"⟩

/-- Whether a run ends before it is asked to. -/
def endsAlone : Result Unit → Bool
  | .failed _ => true
  | .crashed _ => true
  | _ => false

/-- Moves a trigger into a worker, which runs it and drops it, and is stopped when the script has
ended. Returns the name of the trigger, and whether it ended before. The worker has the name of the
trigger. -/
def runWorker (s : Site) (i : Nat) : Result (String × Bool) × Site :=
  match (s.trigger i).id? with
  | none => (.absent, s)
  | some id =>
    if isHandedOver id then
      let (result, s) := (s.tell [⟨.info, s!"{id}: thread started"⟩]).run i .fresh false
      let told := farewell id result
      let s := match result with
        | .crashed _ => (s.drop i).2.tell [told]
        | _ => ((s.tell [told]).drop i).2
      (.done (id, endsAlone result), s)
    else (.crashed none, (s.drop i).2)

/-! ## Watchers -/

/-- Registers a new watcher with a hub, and returns its number. -/
def watch (s : Site) (hub : Nat) : Nat × Site :=
  let (e, signal) := s.exchange.addSignal
  let (e, guard) := e.register hub signal
  (s.watchers.length,
    { s with exchange := e, watchers := s.watchers ++ [guard.map fun g => (signal, g)] })

/-- Drops a watcher. -/
def unwatch (s : Site) (i : Nat) : Bool × Site :=
  match (s.watchers[i]?).join with
  | none => (false, s)
  | some (signal, guard) =>
    let s := s.dropGuards [guard]
    (true, { s with
      exchange := s.exchange.dropSignal signal
      watchers := s.watchers.set i none })

/-- Takes the notification of a watcher, and returns it with the latest subject. -/
def takeNotice (s : Site) (i : Nat) : Option (Bool × Option String) × Site :=
  match (s.watchers[i]?).join with
  | none => (none, s)
  | some (signal, _) =>
    (some (s.exchange.isPending signal, (s.exchange.signal? signal).bind Signal.lastSubject),
      { s with exchange := s.exchange.take signal })

end MotionWatch.Site
