import MotionWatch.Proofs.Record.EventLog
import MotionWatch.Proofs.Trigger.HandOver
import MotionWatch.Proofs.Trigger.Post

/-!
# Motion triggers that share a log of events

Several motion triggers begin and end events in one log. They are called in any order, and the log
is all that they have in common.

* `EventLog.perform`: the effect of an action. `EventLog.events_performFor`,
  `Team.consult_answersFor`: this is what a site does, and what it tells its triggers.
* `Team`: the triggers and their log. `Team.move`: one call of a trigger; `Team.serve`: several.
* `EventCalls`: what a call does with the log, by what becomes of the event of the trigger.
* `Accounted`: every event in the log that has not been ended is the event of the trigger that began
  it. `accounted_move`: a call keeps that; `accounted_serve`: so it holds after any calls.
* `events_of_serve`: what is in the log after any calls, and what any further call does with it.
-/

namespace MotionWatch

namespace EventLog

variable {l : EventLog} {actions : List Action}

/-- The log after an action. An event that cannot be ended changes nothing. -/
def perform (l : EventLog) : Action → EventLog
  | .beginEvent trigger kind note => l.register trigger kind note
  | .endEvent id =>
    match l.endEvent id with
    | .ok l => l
    | .error _ => l
  | _ => l

/-- The log after some actions. -/
def performAll (l : EventLog) (actions : List Action) : EventLog := actions.foldl perform l

/-- A site does the same to its log, if the log works. -/
theorem events_performFor {p : Part} (h : p.around.fault = none) (s : Site) (i : Nat)
    (a : Action) : (s.performFor i p a).events = s.events.perform a := by
  cases a with
  | runScript hook path arguments =>
    show (s.runScript i p hook path arguments).events = s.events
    unfold Site.runScript
    split <;> rfl
  | beginEvent trigger kind note =>
    show (s.beginEvent p trigger kind note).events = s.events.register trigger kind note
    unfold Site.beginEvent
    rw [h]
    rfl
  | endEvent id =>
    show (s.endEvent p id).events = match s.events.endEvent id with
      | .ok l => l
      | .error _ => s.events
    unfold Site.endEvent
    rw [h]
    show Site.events (match s.events.endEvent id with
      | .ok events => { s.note p (.endEvent id) with events }
      | .error _ => s.note p (.endEvent id)) = _
    cases s.events.endEvent id <;> rfl
  | _ => rfl

theorem performAll_endEvent {l' : EventLog} {id : Nat} (h : l.endEvent id = .ok l') :
    l.performAll [.endEvent id] = l' := by
  show (match l.endEvent id with | .ok l => l | .error _ => l) = l'
  rw [h]

theorem perform_eq_self {a : Action} (h : a.concern ≠ .events) : l.perform a = l := by
  cases a <;> first | rfl | exact absurd rfl h

/-- Only what is done with events has an effect on the log. -/
theorem performAll_concerning :
    l.performAll (concerning .events actions) = l.performAll actions := by
  induction actions generalizing l with
  | nil => rfl
  | cons a actions ih =>
    rw [concerning_cons]
    split
    · exact ih
    · next h =>
      rw [ih, performAll, performAll, List.foldl_cons, perform_eq_self h]

end EventLog

/-! ## Calls -/

/-- What caused an event that begins with what a detector sees. -/
def Detection.kind (d : Detection) : EventKind := if d.triggered then .motion else .audio

/-- What a call does with events and what it hands over, while the trigger of the given name goes
from one event, or none, to another. The next event has the number `next`, and the kind that is
given if there is one. -/
inductive EventCalls (name : String) (next : Nat) (kind : Option EventKind) :
    Option Nat → Option Nat → List Action → List Handover → Prop
  | silent {event : Option Nat} : EventCalls name next kind event event [] []
  | begins {k : EventKind} {handed : List Handover} (known : kind = some k)
    (told : ∀ x ∈ handed, x.event = some next) :
    EventCalls name next kind none (some next) [.beginEvent name k "motion start"] handed
  | ends {id : Nat} : EventCalls name next kind (some id) none [.endEvent id] []

namespace MotionTrigger

variable {t t' : MotionTrigger} {a : Answers} {f : Frame} {allow : Bool} {actions : List Action}
  {next : Nat}

theorem concerning_events_closing :
    concerning .events t.closing = t.event.toList.map .endEvent := by
  rw [closing, concerning_append, concerning_append, concerning_stopTargets (by decide)]
  cases t.event <;> rfl

theorem eventCalls_closing {kind : Option EventKind} :
    EventCalls t.id next kind t.event none (concerning .events t.closing)
      (handovers t.closing) := by
  rw [concerning_events_closing, handovers_closing]
  cases t.event with
  | none => exact .silent
  | some id => exact .ends

/-- Without a recording there is no event. -/
theorem event_eq_none {recording : Bool} (hevent : t.event.isSome = true → recording = true)
    (hrec : recording = false) : t.event = none := by
  cases hsome : t.event with
  | none => rfl
  | some id =>
    rw [hsome, hrec] at hevent
    exact absurd (hevent rfl) Bool.false_ne_true

/-- What is done about a frame with the events. -/
theorem eventCalls_deeds {d : Detection} {frames : List Frame} {v : Verdict}
    {recording recording' : Bool} (hturns : v.Turns recording recording')
    (hnew : a.newEvent = .ok next) (hevent : t.event.isSome = true → recording = true) :
    EventCalls t.id next (some d.kind) t.event (t.eventAfter a v)
      (concerning .events (t.deeds a d frames v)) (handovers (t.deeds a d frames v)) := by
  cases hturns with
  | starts =>
    have hnone : t.event = none := event_eq_none hevent rfl
    have hcalls : concerning .events (t.deeds a d frames (.motion true)) =
        [.beginEvent t.id d.kind "motion start"] := by
      show .beginEvent t.id d.kind "motion start" :: concerning .events (startTargets _ _ _) = _
      rw [concerning_startTargets (by decide)]
    have hafter : t.eventAfter a (.motion true) = some next := by
      rw [eventAfter, hnew]
      rfl
    rw [hnone, hcalls, hafter, handovers_deeds]
    refine .begins rfl fun x hx => ?_
    obtain ⟨i, -, rfl⟩ := List.mem_map.mp hx
    rw [hnew]
    rfl
  | goesOn => exact .silent
  | stops seen => exact eventCalls_closing
  | stays silent =>
    rw [deeds_of_isSilent silent, eventAfter_of_isSilent silent]
    exact .silent

/-- What a frame does with the events. -/
theorem eventCalls_processFrame (h : t.processFrame a f allow = .ok (t', actions))
    (hnew : a.newEvent = .ok next)
    (hevent : t.event.isSome = true → t.counters.recording = true) :
    EventCalls t.id next ((t.detection? a f).map Detection.kind) t.event t'.event
      (concerning .events actions) (handovers actions) := by
  rw [← concerning_essentials rfl, ← handovers_essentials]
  obtain ⟨-, rfl, hnil⟩ | ⟨d, p, hc⟩ := processFrame_cases h
  · rw [hnil]
    exact .silent
  · rw [hc.done, hc.detection?_eq, hc.left]
    exact eventCalls_deeds (t.counters.turns (a.isActive d allow) p.limits) hnew hevent

/-- What the end of all does with the events. -/
theorem eventCalls_shutdown (hevent : t.event.isSome = true → t.counters.recording = true) :
    EventCalls t.id next none t.event none (concerning .events (t.shutdown a).2)
      (handovers (t.shutdown a).2) := by
  rw [← concerning_essentials rfl, ← handovers_essentials, essentials_shutdown_snd,
    concerning_append, handovers_append]
  cases hrec : t.counters.recording with
  | false =>
    rw [event_eq_none hevent hrec]
    exact .silent
  | true =>
    rw [if_pos rfl]
    exact (List.append_nil (handovers t.closing)).symm ▸
      (List.append_nil (concerning .events t.closing)).symm ▸ eventCalls_closing

theorem event_shutdown (hevent : t.event.isSome = true → t.counters.recording = true) :
    (t.shutdown a).1.event = none := by
  rw [shutdown_fst]
  cases hrec : t.counters.recording with
  | false => exact event_eq_none hevent hrec
  | true => rfl

end MotionTrigger

/-! ## Teams -/

/-- Motion triggers that share a log of events. -/
structure Team where
  triggers : List MotionTrigger
  log : EventLog

/-- A call of one of the triggers, with what it is told about other things than the log. -/
inductive Duty where
  | frame (trigger : Nat) (answers : Answers) (f : Frame) (allow : Bool)
  | shutdown (trigger : Nat) (answers : Answers)

/-- Whose call it is. -/
def Duty.trigger : Duty → Nat
  | frame trigger _ _ _ => trigger
  | shutdown trigger _ => trigger

/-- What a trigger has done in a call. -/
structure Handling where
  trigger : Nat
  actions : List Action

/-- Whose event is begun by an action of trigger `i`. -/
def Action.owner? (i : Nat) : Action → Option Nat
  | .beginEvent _ _ _ => some i
  | _ => none

/-- The number of the event that is ended. -/
def Action.finished? : Action → Option Nat
  | .endEvent id => some id
  | _ => none

/-- Which triggers have begun the events, in order. -/
def owners (past : List Handling) : List Nat :=
  past.flatMap fun x => x.actions.filterMap (Action.owner? x.trigger)

/-- The numbers of the events that were ended, in order. -/
def finished (past : List Handling) : List Nat :=
  past.flatMap fun x => x.actions.filterMap Action.finished?

namespace Team

/-- The event of a trigger. -/
def current (team : Team) (i : Nat) : Option Nat := team.triggers[i]?.bind MotionTrigger.event

/-- The answers with what the log says. -/
def consult (team : Team) (a : Answers) : Answers :=
  { a with
    newEvent := .ok team.log.nextId
    eventEnd := fun id =>
      match team.log.endEvent id with
      | .ok _ => .ok ()
      | .error e => .error e.message }

/-- A site tells its triggers the same about its log, if the log works. -/
theorem consult_answersFor {p : Part} (h : p.around.fault = none) (s : Site)
    (triggers : List MotionTrigger) :
    consult ⟨triggers, s.events⟩ (s.answersFor p) = s.answersFor p := by
  unfold consult Site.answersFor
  rw [h]
  rfl

/-- The team after trigger `i` has acted. -/
def proceed (team : Team) (i : Nat) (step : MotionTrigger × List Action) : Team :=
  ⟨team.triggers.set i step.1, team.log.performAll step.2⟩

/-- A call, unless the program crashes in it. A frame that is refused changes nothing. -/
def move (team : Team) : Duty → Option (Handling × Team)
  | .frame i a f allow =>
    match team.triggers[i]? with
    | none => some (⟨i, []⟩, team)
    | some t =>
      match t.processFrame (team.consult a) f allow with
      | .ok step => some (⟨i, step.2⟩, team.proceed i step)
      | .error (.failed _) => some (⟨i, []⟩, team)
      | .error (.crashed _) => none
  | .shutdown i a =>
    match team.triggers[i]? with
    | none => some (⟨i, []⟩, team)
    | some t =>
      let step := t.shutdown (team.consult a)
      some (⟨i, step.2⟩, team.proceed i step)

/-- Calls one after the other: all that was done, and the team at last. -/
def serve (team : Team) : List Duty → Option (List Handling × Team)
  | [] => some ([], team)
  | d :: ds =>
    (team.move d).bind fun (x, team) => (team.serve ds).map fun (xs, team) => (x :: xs, team)

/-- The kind of the event that trigger `t` would begin in a call. -/
def kind? (team : Team) (t : MotionTrigger) : Duty → Option EventKind
  | .frame _ a f _ => (t.detection? (team.consult a) f).map Detection.kind
  | .shutdown _ _ => none

/-- A trigger has an event only while it records, and the events in the log are those that the
triggers have begun, and have ended unless they still have them. -/
structure Accounted (team : Team) (past : List Handling) : Prop where
  running : ∀ t ∈ team.triggers, t.event.isSome = true → t.counters.recording = true
  balanced : team.log.Balanced (owners past) (finished past) team.current

variable {team team' : Team} {past : List Handling} {i : Nat} {t t' : MotionTrigger}
  {actions : List Action} {d : Duty} {x : Handling}

/-- What is read off the actions on events, after one more call. -/
theorem flatMap_concat {α : Type} {g : Nat → Action → Option α}
    (hg : ∀ i a, a.concern ≠ .events → g i a = none) :
    ((past ++ [x]).flatMap fun x => x.actions.filterMap (g x.trigger)) =
      (past.flatMap fun x => x.actions.filterMap (g x.trigger)) ++
        (concerning .events x.actions).filterMap (g x.trigger) := by
  rw [List.flatMap_append, List.flatMap_singleton, filterMap_concerning (hg x.trigger)]

theorem owners_concat : owners (past ++ [x]) =
    owners past ++ (concerning .events x.actions).filterMap (Action.owner? x.trigger) :=
  flatMap_concat fun i a ha => by cases a <;> first | rfl | exact absurd rfl ha

theorem finished_concat : finished (past ++ [x]) =
    finished past ++ (concerning .events x.actions).filterMap Action.finished? :=
  flatMap_concat (g := fun _ => Action.finished?) fun i a ha => by
    cases a <;> first | rfl | exact absurd rfl ha

theorem current_of_getElem? (ht : team.triggers[i]? = some t) : team.current i = t.event := by
  rw [current, ht]
  rfl

theorem current_proceed (ht : team.triggers[i]? = some t) :
    (team.proceed i (t', actions)).current = Function.update team.current i t'.event := by
  have hi : i < team.triggers.length := (List.getElem?_eq_some_iff.mp ht).1
  funext j
  unfold current proceed
  rw [List.getElem?_set]
  by_cases hji : j = i
  · rw [hji, Function.update_self, if_pos rfl, if_pos hi]
    rfl
  · rw [Function.update_of_ne hji, if_neg (Ne.symm hji)]

/-- A call of trigger `t` that returns, and what it does with the events. -/
structure Acted (team : Team) (d : Duty) (x : Handling) (team' : Team) (t t' : MotionTrigger) :
    Prop where
  called : team.triggers[d.trigger]? = some t
  left : team' = team.proceed d.trigger (t', x.actions)
  running : t'.event.isSome = true → t'.counters.recording = true
  calls : EventCalls t.id team.log.nextId (team.kind? t d) t.event t'.event
    (concerning .events x.actions) (handovers x.actions)

/-- A call that returns is a call of one of the triggers, or nothing is done. -/
theorem acted_of_move
    (hr : ∀ t ∈ team.triggers, t.event.isSome = true → t.counters.recording = true)
    (hm : team.move d = some (x, team')) :
    x.trigger = d.trigger ∧
      ((x.actions = [] ∧ team' = team) ∨ ∃ t t', Acted team d x team' t t') := by
  cases d with
  | frame i a f allow =>
    unfold move at hm
    dsimp only at hm
    split at hm
    · cases hm
      exact ⟨rfl, .inl ⟨rfl, rfl⟩⟩
    · next t ht =>
      have hrunning := hr t (List.mem_of_getElem? ht)
      split at hm
      · next step hstep =>
        cases hm
        refine ⟨rfl, .inr ⟨t, step.1, ht, rfl, ?_, ?_⟩⟩
        · exact MotionTrigger.event_processFrame hstep hrunning
        · exact MotionTrigger.eventCalls_processFrame hstep rfl hrunning
      · cases hm
        exact ⟨rfl, .inl ⟨rfl, rfl⟩⟩
      · cases hm
  | shutdown i a =>
    unfold move at hm
    dsimp only at hm
    split at hm
    · cases hm
      exact ⟨rfl, .inl ⟨rfl, rfl⟩⟩
    · next t ht =>
      have hrunning := hr t (List.mem_of_getElem? ht)
      have hnone := MotionTrigger.event_shutdown (a := team.consult a) hrunning
      cases hm
      refine ⟨rfl, .inr ⟨t, (t.shutdown (team.consult a)).1, ht, rfl, ?_, ?_⟩⟩
      · rw [hnone]
        nofun
      · rw [hnone]
        exact MotionTrigger.eventCalls_shutdown hrunning

/-- **A call leaves a team accounted for.** -/
theorem accounted_move (h : Accounted team past) (hm : team.move d = some (x, team')) :
    Accounted team' (past ++ [x]) := by
  obtain ⟨hx, ⟨hnil, rfl⟩ | ⟨t, t', hacted⟩⟩ := acted_of_move h.running hm
  · refine ⟨h.running, ?_⟩
    rw [owners_concat, finished_concat, hnil]
    simpa using h.balanced
  obtain ⟨ht, rfl, hrunning, hcalls⟩ := hacted
  constructor
  · intro t₀ ht₀
    rcases List.mem_or_eq_of_mem_set ht₀ with ht₀ | rfl
    · exact h.running t₀ ht₀
    · exact hrunning
  · rw [owners_concat, finished_concat, hx, current_proceed ht]
    show (team.log.performAll x.actions).Balanced _ _ _
    rw [← EventLog.performAll_concerning]
    have hcurrent := current_of_getElem? ht
    -- Only the actions on events are left: none, the beginning of one, or the end of one.
    generalize concerning .events x.actions = actions at hcalls ⊢
    generalize handovers x.actions = handed at hcalls
    generalize t.event = event at hcalls hcurrent
    generalize t'.event = event' at hcalls ⊢
    cases hcalls with
    | silent =>
      rw [← hcurrent, Function.update_eq_self]
      show team.log.Balanced (owners past ++ []) (finished past ++ []) team.current
      rw [List.append_nil, List.append_nil]
      exact h.balanced
    | @begins k handed known told =>
      show (team.log.register t.id k "motion start").Balanced (owners past ++ [d.trigger])
        (finished past ++ []) _
      rw [List.append_nil]
      exact h.balanced.register hcurrent t.id k "motion start"
    | @ends id =>
      show (team.log.performAll [.endEvent id]).Balanced (owners past ++ [])
        (finished past ++ [id]) _
      rw [List.append_nil, EventLog.performAll_endEvent (h.balanced.endEvent_eq hcurrent)]
      exact h.balanced.markEnded hcurrent

/-- The first call, and then the others. -/
theorem serve_cons_eq_some {ds : List Duty} {xs : List Handling}
    (hs : team.serve (d :: ds) = some (xs, team')) :
    ∃ x team₁ xs', team.move d = some (x, team₁) ∧ team₁.serve ds = some (xs', team') ∧
      xs = x :: xs' := by
  obtain ⟨⟨x, team₁⟩, hm, hrest⟩ := Option.bind_eq_some_iff.mp hs
  obtain ⟨⟨xs', team₂⟩, hserve, heq⟩ := Option.map_eq_some_iff.mp hrest
  obtain ⟨rfl, rfl⟩ := Prod.mk.inj heq
  exact ⟨x, team₁, xs', hm, hserve, rfl⟩

theorem accounted_serve {ds : List Duty} {xs : List Handling} (h : Accounted team past)
    (hs : team.serve ds = some (xs, team')) : Accounted team' (past ++ xs) := by
  induction ds generalizing team past xs with
  | nil =>
    obtain ⟨rfl, rfl⟩ := Prod.mk.inj (Option.some.inj hs)
    rw [List.append_nil]
    exact h
  | cons d ds ih =>
    obtain ⟨x, team₁, xs, hm, hrest, rfl⟩ := serve_cons_eq_some hs
    have hnext := ih (accounted_move h hm) hrest
    rwa [List.append_assoc] at hnext

/-! ## What a call does with the log -/

namespace Acted

theorem log_eq (ha : Acted team d x team' t t') :
    team'.log = team.log.performAll (concerning .events x.actions) := by
  rw [EventLog.performAll_concerning, ha.left]
  rfl

/-- The log after a call, by what the trigger has done with its event. -/
theorem log_cases (h : Accounted team past) (ha : Acted team d x team' t t') :
    (concerning .events x.actions = [] ∧ handovers x.actions = [] ∧ team'.log = team.log) ∨
    (∃ k, concerning .events x.actions = [.beginEvent t.id k "motion start"] ∧
      team.kind? t d = some k ∧ (∀ y ∈ handovers x.actions, y.event = some team.log.nextId) ∧
      team'.log = team.log.register t.id k "motion start") ∨
    ∃ id, concerning .events x.actions = [.endEvent id] ∧ handovers x.actions = [] ∧
      team.current d.trigger = some id ∧ team.log.endEvent id = .ok team'.log ∧
      team'.log = team.log.markEnded id := by
  have hlog := ha.log_eq
  have hcurrent := current_of_getElem? ha.called
  have hcalls := ha.calls
  generalize concerning .events x.actions = actions at hcalls hlog ⊢
  generalize handovers x.actions = handed at hcalls ⊢
  generalize t.event = event at hcalls hcurrent
  generalize t'.event = event' at hcalls
  cases hcalls with
  | silent => exact .inl ⟨rfl, rfl, hlog⟩
  | @begins k handed known told => exact .inr (.inl ⟨k, rfl, known, told, hlog⟩)
  | @ends id =>
    have hend := h.balanced.endEvent_eq hcurrent
    rw [EventLog.performAll_endEvent hend] at hlog
    exact .inr (.inr ⟨id, rfl, rfl, hcurrent, hlog ▸ hend, hlog⟩)

end Acted

/-- A trigger that is shut down has no event any more. -/
theorem current_shutdown {a : Answers} (h : Accounted team past)
    (hm : team.move (.shutdown i a) = some (x, team')) : team'.current i = none := by
  unfold move at hm
  dsimp only at hm
  split at hm
  · next hnone =>
    cases hm
    rw [current, hnone]
    rfl
  · next t ht =>
    cases hm
    rw [current_proceed ht, Function.update_self]
    exact MotionTrigger.event_shutdown (h.running t (List.mem_of_getElem? ht))

/-- Nobody else touches the event of a trigger. -/
theorem current_move_of_ne (h : Accounted team past) (hm : team.move d = some (x, team'))
    (hi : d.trigger ≠ i) : team'.current i = team.current i := by
  obtain ⟨-, ⟨-, rfl⟩ | ⟨t, t', hacted⟩⟩ := acted_of_move h.running hm
  · rfl
  · rw [hacted.left, current_proceed hacted.called, Function.update_of_ne (Ne.symm hi)]

theorem current_serve_of_ne {ds : List Duty} {xs : List Handling} (h : Accounted team past)
    (hs : team.serve ds = some (xs, team')) (hi : ∀ d ∈ ds, d.trigger ≠ i) :
    team'.current i = team.current i := by
  induction ds generalizing team past xs with
  | nil =>
    obtain ⟨rfl, rfl⟩ := Prod.mk.inj (Option.some.inj hs)
    rfl
  | cons d ds ih =>
    obtain ⟨x, team₁, xs, hm, hrest, rfl⟩ := serve_cons_eq_some hs
    rw [ih (accounted_move h hm) hrest fun d' hd' => hi d' (List.mem_cons_of_mem d hd')]
    exact current_move_of_ne h hm (hi d List.mem_cons_self)

/-- A trigger whose last call was a shutdown has no event. -/
theorem current_serve_of_shutdown {before after : List Duty} {a : Answers} {xs : List Handling}
    (h : Accounted team past)
    (hs : team.serve (before ++ .shutdown i a :: after) = some (xs, team'))
    (hi : ∀ d ∈ after, d.trigger ≠ i) : team'.current i = none := by
  induction before generalizing team past xs with
  | nil =>
    obtain ⟨x, team₁, xs, hm, hrest, rfl⟩ := serve_cons_eq_some hs
    rw [current_serve_of_ne (accounted_move h hm) hrest hi]
    exact current_shutdown h hm
  | cons d ds ih =>
    obtain ⟨x, team₁, xs, hm, hrest, rfl⟩ := serve_cons_eq_some hs
    exact ih (accounted_move h hm) hrest

/-- A new team has begun no events. -/
theorem accounted_start {triggers : List MotionTrigger}
    (hfresh : ∀ t ∈ triggers, t.event = none) : Accounted ⟨triggers, .empty⟩ [] := by
  refine ⟨fun t ht => ?_, EventLog.balanced_empty fun i => ?_⟩
  · rw [hfresh t ht]
    nofun
  · show triggers[i]?.bind MotionTrigger.event = none
    cases ht : triggers[i]? with
    | none => rfl
    | some t => exact hfresh t (List.mem_of_getElem? ht)

theorem length_triggers_serve {ds : List Duty} {xs : List Handling}
    (h : Accounted team past) (hs : team.serve ds = some (xs, team')) :
    team'.triggers.length = team.triggers.length := by
  induction ds generalizing team past xs with
  | nil =>
    obtain ⟨rfl, rfl⟩ := Prod.mk.inj (Option.some.inj hs)
    rfl
  | cons d ds ih =>
    obtain ⟨x, team₁, xs, hm, hrest, rfl⟩ := serve_cons_eq_some hs
    rw [ih (accounted_move h hm) hrest]
    obtain ⟨-, ⟨-, rfl⟩ | ⟨t, t', hacted⟩⟩ := acted_of_move h.running hm
    · rfl
    · rw [hacted.left]
      exact List.length_set

/-- Whose event is begun, and which: its kind says whether the detector saw motion, and all targets
that are started are told its number. -/
def Begins (team : Team) (d : Duty) (x : Handling) (team' : Team) : Prop :=
  ∃ i a f allow t seen, d = .frame i a f allow ∧ team.triggers[i]? = some t ∧
    t.detection? (team.consult a) f = some seen ∧
    team'.log = team.log.register t.id (if seen.triggered then .motion else .audio) "motion start" ∧
    ∀ y ∈ handovers x.actions, y.event = some team.log.nextId

/-- An event is only begun on a frame. -/
theorem Acted.begins {k : EventKind} (ha : Acted team d x team' t t')
    (hkind : team.kind? t d = some k)
    (hlog : team'.log = team.log.register t.id k "motion start")
    (htold : ∀ y ∈ handovers x.actions, y.event = some team.log.nextId) :
    team.Begins d x team' := by
  cases d with
  | frame i a f allow =>
    obtain ⟨seen, hseen, rfl⟩ := Option.map_eq_some_iff.mp hkind
    exact ⟨i, a, f, allow, t, seen, rfl, ha.called, hseen, hlog, htold⟩
  | shutdown i a => cases hkind

/-- **What any call does with the log.** -/
theorem move_spec (h : Accounted team past) (hm : team.move d = some (x, team')) :
    ((∃ name k note, .beginEvent name k note ∈ x.actions) ∨ handovers x.actions ≠ [] →
      team.Begins d x team') ∧
    (∀ id, .endEvent id ∈ x.actions →
      team.current d.trigger = some id ∧ team.log.endEvent id = .ok team'.log) ∧
    ∀ (k : Nat) (e : EventRecord), team.log.events[k]? = some e →
      team.current d.trigger ≠ some e.id → team'.log.events[k]? = some e := by
  obtain ⟨-, ⟨hnil, rfl⟩ | ⟨t, t', ha⟩⟩ := acted_of_move h.running hm
  · rw [hnil]
    refine ⟨?_, nofun, fun k e he _ => he⟩
    rintro (⟨name, k, note, hmem⟩ | hne)
    · cases hmem
    · exact absurd rfl hne
  have hmem : ∀ a ∈ x.actions, a.concern = .events → a ∈ concerning .events x.actions :=
    fun a ha hc => List.mem_filter.mpr ⟨ha, decide_eq_true hc⟩
  obtain ⟨hcalls, hhanded, hlog⟩ | ⟨k, hcalls, hkind, htold, hlog⟩ |
    ⟨id, hcalls, hhanded, hcurrent, hend, hlog⟩ := ha.log_cases h
  · rw [hcalls] at hmem
    refine ⟨?_, fun id hid => (List.not_mem_nil (hmem _ hid rfl)).elim, fun k e he _ => hlog ▸ he⟩
    rintro (⟨name, k, note, hbegin⟩ | hne)
    · exact (List.not_mem_nil (hmem _ hbegin rfl)).elim
    · exact absurd hhanded hne
  · rw [hcalls] at hmem
    refine ⟨fun _ => ha.begins hkind hlog htold, fun id hid => ?_, fun k e he _ => ?_⟩
    · cases List.mem_singleton.mp (hmem _ hid rfl)
    · rw [hlog, EventLog.register, List.getElem?_append_left (List.getElem?_eq_some_iff.mp he).1]
      exact he
  · rw [hcalls] at hmem
    refine ⟨?_, fun id' hid' => ?_, fun k e he hne => ?_⟩
    · rintro (⟨name, k, note, hbegin⟩ | hne)
      · cases List.mem_singleton.mp (hmem _ hbegin rfl)
      · exact absurd hhanded hne
    · cases List.mem_singleton.mp (hmem _ hid' rfl)
      exact ⟨hcurrent, hend⟩
    · rw [hlog, EventLog.getElem?_markEnded, he]
      refine congrArg some (EventLog.mark_of_ne fun heq => hne ?_)
      rw [heq]
      exact hcurrent

/-- **Triggers that share a log keep it in order**, whatever they are called for, and in whatever
order. The numbers of the events increase. A trigger has at most one event that goes on, and that is
the one that it says. In each call, the targets are told the number of the event that begins, whose
kind says whether the detector saw motion; what is ended is the event of the trigger itself, and can
be ended; and no other event changes. When all triggers have been shut down, all events have been
ended once. -/
theorem events_of_serve {triggers : List MotionTrigger} {ds : List Duty}
    (hfresh : ∀ t ∈ triggers, t.event = none)
    (hs : Team.serve ⟨triggers, .empty⟩ ds = some (past, team)) :
    let events := team.log.events
    (events.map EventRecord.id).Pairwise (· < ·) ∧
    (owners past).length = events.length ∧
    (∀ (k i : Nat) (e : EventRecord), events[k]? = some e → (owners past)[k]? = some i →
      (e.ended = false ↔ team.current i = some e.id)) ∧
    (∀ i id, team.current i = some id → ∃ (k : Nat) (e : EventRecord),
      events[k]? = some e ∧ (owners past)[k]? = some i ∧ e.id = id) ∧
    (∀ d x team', team.move d = some (x, team') →
      ((∃ name k note, .beginEvent name k note ∈ x.actions) ∨ handovers x.actions ≠ [] →
        team.Begins d x team') ∧
      (∀ id, .endEvent id ∈ x.actions →
        team.current d.trigger = some id ∧ team.log.endEvent id = .ok team'.log) ∧
      ∀ (k : Nat) (e : EventRecord), events[k]? = some e →
        team.current d.trigger ≠ some e.id → team'.log.events[k]? = some e) ∧
    ((∀ i < triggers.length, ∃ before a after,
        ds = before ++ .shutdown i a :: after ∧ ∀ d ∈ after, d.trigger ≠ i) →
      ∀ e ∈ events, e.ended = true ∧ (finished past).count e.id = 1) := by
  intro events
  have hstart := accounted_start hfresh
  have h : Accounted team past := accounted_serve hstart hs
  refine ⟨h.balanced.numbered.pairwise_id, h.balanced.owned, h.balanced.open_iff,
    h.balanced.logged, fun d x team' hm => move_spec h hm, fun hdown e he => ?_⟩
  have hnone : ∀ i, team.current i = none := by
    intro i
    by_cases hi : i < triggers.length
    · obtain ⟨before, a, after, rfl, hafter⟩ := hdown i hi
      exact current_serve_of_shutdown hstart hs hafter
    · have hlength : team.triggers.length = triggers.length := length_triggers_serve hstart hs
      rw [current, List.getElem?_eq_none (by omega)]
      rfl
  obtain ⟨k, hk⟩ := List.mem_iff_getElem?.mp he
  exact h.balanced.ended_once hnone hk

/-- Two triggers with a target each, which share an empty log. -/
def pair : List MotionTrigger :=
  [{ MotionTrigger.create "hall" "lens" (.builtin fun _ => none) with targets := 1 },
    { MotionTrigger.create "yard" "eye" (.builtin fun _ => none) with targets := 1 }]

/-- Both of them are notified, and then they are shut down. -/
def visit : List Duty :=
  let told : Answers := ⟨motionDefaults, true, false, (0.0, 0.0), .error "", fun _ => .ok (),
    fun _ => .refused ""⟩
  let f : Frame := .flat 0 Frame.paintable_one 0
  [.frame 0 told f true, .frame 1 told f true, .shutdown 0 told, .shutdown 1 told]

/-- A visit leaves two events, which were ended once. -/
theorem events_of_visit :
    ∃ past team, Team.serve ⟨pair, .empty⟩ visit = some (past, team) ∧
      team.log.events.map EventRecord.id = [1, 2] ∧ owners past = [0, 1] ∧
      ∀ e ∈ team.log.events, e.ended = true ∧ (finished past).count e.id = 1 := by
  have hfresh : ∀ t ∈ pair, t.event = none := by
    intro t ht
    simp only [pair, List.mem_cons, List.not_mem_nil, or_false] at ht
    rcases ht with rfl | rfl <;> rfl
  have hresult : (Team.serve ⟨pair, .empty⟩ visit).map
      (fun r => (r.2.log.events.map EventRecord.id, owners r.1)) = some ([1, 2], [0, 1]) := by
    decide
  obtain ⟨⟨past, team⟩, hs, heq⟩ := Option.map_eq_some_iff.mp hresult
  obtain ⟨hids, howners⟩ := Prod.mk.inj heq
  refine ⟨past, team, hs, hids, howners, ?_⟩
  refine (events_of_serve hfresh hs).2.2.2.2.2 fun i hi => ?_
  match i, hi with
  | 0, _ => exact ⟨[_, _], _, [_], rfl, by simp [Duty.trigger]⟩
  | 1, _ => exact ⟨[_, _, _], _, [], rfl, nofun⟩

end Team

end MotionWatch
