import MotionWatch.Notify.Exchange
import MotionWatch.Site.Part

/-!
# Sites

A site is the state of everything around its triggers: the hubs and signals that connect them, the
log of events that they share, and a journal of everything that they had done.

* `Site.perform`: does something for a trigger.
* `Site.answers`: what a trigger is told.
* `Site.host`: the site as the surroundings of one of its triggers.
-/

namespace MotionWatch

/-- Triggers that are wired together. -/
structure Site where
  exchange : Exchange
  events : EventLog
  /-- Hubs that belong to no trigger. -/
  links : List Nat
  parts : List Part
  /-- The signals and guards of those who watch the site. -/
  watchers : List (Option (Nat × Nat))
  /-- What the running trigger was asked to do. -/
  control : Control
  /-- Whether the running trigger is stopped at the end of its schedule. -/
  endsWithSchedule : Bool
  /-- What was done for triggers, by the names of their parts. -/
  journal : List (String × Action)
  log : List LogRecord

namespace Site

/-- A site with links only. -/
def ofLinks (links : Nat) : Site where
  exchange := ⟨List.replicate links (some .fresh), [], []⟩
  events := .empty
  links := List.range links
  parts := []
  watchers := []
  control := .fresh
  endsWithSchedule := false
  journal := []
  log := []

/-- Changes a part. -/
def modifyPart (s : Site) (i : Nat) (f : Part → Part) : Site :=
  { s with parts := s.parts.modify i f }

/-- Changes the surroundings of a part. -/
def modifyAround (s : Site) (i : Nat) (f : Surroundings → Surroundings) : Site :=
  s.modifyPart i fun p => { p with around := f p.around }

/-- Changes the trigger of a part. -/
def setTrigger (s : Site) (i : Nat) (t : PartTrigger) : Site :=
  s.modifyPart i fun p => { p with trigger := t }

/-- Logs records. -/
def tell (s : Site) (records : List LogRecord) : Site := { s with log := s.log ++ records }

/-- Notes something that was done for a part. -/
def note (s : Site) (p : Part) (a : Action) : Site :=
  { s with journal := s.journal ++ [(p.name, a)] }

/-- Publishes a subject through a hub. -/
def notify (s : Site) (hub : Nat) (subject : String) : Site :=
  let (exchange, records) := s.exchange.notify hub subject
  { s with exchange }.tell records

/-! ## What is done for a trigger -/

/-- Runs a script of a part, which is only noted if it is not run by the shell. -/
def runScript (s : Site) (i : Nat) (p : Part) (hook : Hook) (path arguments : String) : Site :=
  match p.around.runner with
  | .noting _ => s.note p (.runScript hook path arguments)
  | .shell =>
    let command := hookCommand path arguments
    let record := hookRecord command (runHook .empty command).2
    s.modifyPart i fun p => { p with running := p.running ++ [(hook, record)] }

/-- Waits for a script of a part. -/
def joinScript (s : Site) (i : Nat) (p : Part) (hook : Hook) : Site :=
  (s.tell ((p.running.filter fun r => r.1 = hook).map Prod.snd)).modifyPart i fun p =>
    { p with running := p.running.filter fun r => r.1 ≠ hook }

/-- Begins an event of a part, if the log of events works. -/
def beginEvent (s : Site) (p : Part) (trigger : String) (kind : EventKind) (text : String) : Site :=
  let s := s.note p (.beginEvent trigger kind text)
  if p.around.fault = some .register then s
  else { s with events := s.events.register trigger kind text }

/-- Ends an event of a part, if the log of events works. -/
def endEvent (s : Site) (p : Part) (id : Nat) : Site :=
  let s := s.note p (.endEvent id)
  if p.around.fault = some .finish then s
  else
    match s.events.endEvent id with
    | .ok events => { s with events }
    | .error _ => s

/-- Does something for a part. -/
def performFor (s : Site) (i : Nat) (p : Part) : Action → Site
  | .log record => s.tell [record]
  | .takeSignal => { s with exchange := p.signal.elim s.exchange s.exchange.take }
  | .setMotion on => { s with exchange := s.exchange.setMotion p.hub on }
  | .notify subject => s.notify p.hub subject
  | .beginEvent trigger kind text => s.beginEvent p trigger kind text
  | .endEvent id => s.endEvent p id
  | .runScript hook path arguments => s.runScript i p hook path arguments
  | .joinScript hook => s.joinScript i p hook
  | .await _ | .sleep _ => s
  | .turn pan tilt =>
    (s.note p (.turn pan tilt)).modifyAround i fun a => { a with angle := (pan, tilt) }
  | a => s.note p a

/-- Does something for the trigger of a part. -/
def perform (i : Nat) (a : Action) (s : Site) : Site :=
  match s.parts[i]? with
  | some p => s.performFor i p a
  | none => s

/-! ## What a trigger is told -/

/-- What is said about a log of events that fails. -/
def faultText : String := "database is down"

/-- What the trigger of a part is told. -/
def answersFor (s : Site) (p : Part) : Answers where
  params := p.around.params
  signalled := p.signal.any s.exchange.isPending
  upstream := p.upstream.any s.exchange.motion
  angle := p.around.angle
  newEvent := if p.around.fault = some .register then .error faultText else .ok s.events.nextId
  eventEnd id :=
    if p.around.fault = some .finish then .error faultText
    else
      match s.events.endEvent id with
      | .ok _ => .ok ()
      | .error e => .error e.message
  launch hook := p.around.launch (p.trigger.script hook)

/-- What a trigger is told that is not there. -/
def noAnswers (s : Site) : Answers where
  params := .empty
  signalled := false
  upstream := false
  angle := (0.0, 0.0)
  newEvent := .ok s.events.nextId
  eventEnd _ := .ok ()
  launch _ := .refused ""

/-- What the trigger of a part is told. -/
def answers (i : Nat) (s : Site) : Answers :=
  match s.parts[i]? with
  | some p => s.answersFor p
  | none => s.noAnswers

/-! ## Cues -/

/-- What happens before an answer is given to a part. -/
def happen (s : Site) (i : Nat) (c : Cue) : Site :=
  let s := match c.notify with
    | some (link, subject) => s.notify (s.links.getD link 0) subject
    | none => s
  let s := match c.motion with
    | some (link, on) => { s with exchange := s.exchange.setMotion (s.links.getD link 0) on }
    | none => s
  let s := match c.set with
    | some (name, v) =>
      s.modifyAround i fun a =>
        match a.params.set name v with
        | .ok params => { a with params }
        | .error _ => a
    | none => s
  if c.stops then { s with control := s.control.stop } else s

/-- The next cue of the camera or microphone of a part. At the end, the trigger is stopped. -/
def nextCue (s : Site) (i : Nat) (a : Action) : Option Cue × Site :=
  match s.parts[i]? with
  | none => (none, { s with control := s.control.stop })
  | some p =>
    match p.around.feed with
    | [] => (none, { s with control := s.control.stop })
    | c :: rest =>
      (some c, ((s.note p a).modifyAround i fun a => { a with feed := rest }).happen i c)

/-- The next frame of a part. -/
def nextFrame (i : Nat) (block : Bool) (after : Nat) (s : Site) : Option Frame × Site :=
  match s.nextCue i (.fetch block after) with
  | (some c, s) => (c.frame, s)
  | (none, s) => (none, s)

/-- The next samples of a part. -/
def nextSamples (i n : Nat) (s : Site) : Except String (List Int) × Site :=
  match s.nextCue i (.listen n) with
  | (some c, s) => (c.samples, s)
  | (none, s) => (.ok [], s)

/-- Whether the schedule of a part is on. -/
def isAllowed (i : Nat) (s : Site) : Bool × Site :=
  match s.parts[i]? with
  | none => (true, s)
  | some p =>
    match p.around.schedule with
    | none => (true, s)
    | some [] => (true, if s.endsWithSchedule then { s with control := s.control.stop } else s)
    | some (c :: rest) =>
      (c.isOn, (s.modifyAround i fun a => { a with schedule := some rest }).happen i c)

/-- The site as the surroundings of one of its triggers. A pause lasts until the trigger is
stopped. -/
def host (i : Nat) : Host Site where
  control := control
  idle s := { s with control := s.control.stop }
  isAllowed := isAllowed i
  nextFrame := nextFrame i
  nextSamples := nextSamples i
  answers := answers i
  perform := perform i

end Site

end MotionWatch
