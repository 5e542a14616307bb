import MotionWatch.Proofs.Frame.Grey
import MotionWatch.Proofs.Trigger.Convoy

/-!
# A motion trigger at its post

A motion trigger has a hub of its own on an exchange, and is called again and again: it is shown
frames, and it is shut down. Between the calls others use the exchange.

* `Post`: a motion trigger on an exchange. `Post.meet`: what becomes of an occasion;
  `Post.meets`: of several.
* `HubCalls`: what a call does with the hub, by what it does with the recording.
* `Orderly`: the counters, the event and the motion flag fit together. `orderly_meet`: every
  occasion leaves it so.
* `orderly_of_install`: it is so after any occasions. Whoever is notified can already see that the
  trigger is recording.
-/

namespace MotionWatch

/-! ## Counters -/

namespace Counters

/-- Nothing is counted below zero, and nothing but frames to ignore while they are ignored. -/
structure Sane (c : Counters) : Prop where
  active : 0 ≤ c.active
  quiet : 0 ≤ c.quiet
  mute : 0 ≤ c.mute
  muted : 0 < c.mute → c.active = 0 ∧ c.recording = false

variable {c : Counters}

theorem sane_zero : zero.Sane := by
  refine ⟨Int.le_refl 0, Int.le_refl 0, Int.le_refl 0, ?_⟩
  intro h
  exact absurd h (Int.lt_irrefl 0)

/-- A recording is not muted. -/
theorem Sane.mute_of_recording (h : c.Sane) (hrec : c.recording = true) : c.mute = 0 := by
  rcases Int.lt_or_eq_of_le h.mute with hpos | hzero
  · rw [(h.muted hpos).2] at hrec
    cases hrec
  · exact hzero.symm

/-- A frame leaves the counters sane, whatever the limits are. -/
theorem sane_advance (h : c.Sane) (active : Bool) (limits : Limits) :
    (c.advance active limits).1.Sane := by
  have ha := c.advances active limits
  have hactive := h.active
  have hquiet := h.quiet
  have hmute := h.mute
  generalize c.advance active limits = r at ha
  obtain ⟨c', v⟩ := r
  cases ha with
  | muted hpos =>
    refine ⟨hactive, hquiet, ?_, fun _ => h.muted hpos⟩
    show 0 ≤ c.mute - 1
    omega
  | gathering hzero few =>
    refine ⟨?_, Int.le_refl 0, hmute, fun hpos => absurd hpos (Int.not_lt.mpr hzero)⟩
    show 0 ≤ c.active + 1
    omega
  | motion hzero enough =>
    refine ⟨?_, Int.le_refl 0, hmute, fun hpos => absurd hpos (Int.not_lt.mpr hzero)⟩
    show 0 ≤ c.active + 1
    omega
  | quiet hzero running few =>
    refine ⟨Int.le_refl 0, ?_, hmute, fun hpos => absurd hpos (Int.not_lt.mpr hzero)⟩
    show 0 ≤ c.quiet + 1
    omega
  | stop hzero running enough =>
    refine ⟨Int.le_refl 0, ?_, Int.le_max_right .., fun _ => ⟨rfl, rfl⟩⟩
    show 0 ≤ c.quiet + 1
    omega
  | idle hzero resting =>
    exact ⟨Int.le_refl 0, hquiet, hmute, fun hpos => absurd hpos (Int.not_lt.mpr hzero)⟩

theorem Sane.stopped (h : c.Sane) : { c with recording := false }.Sane :=
  ⟨h.active, h.quiet, h.mute, fun hpos => ⟨(h.muted hpos).1, rfl⟩⟩

end Counters

/-! ## The flag of a hub -/

namespace Exchange

variable {e : Exchange} {hub : Nat} {signal : Option Nat} {on : Bool} {l : List Action}

/-- The motion flag of a hub that there is. -/
def flag? (e : Exchange) (hub : Nat) : Option Bool := (e.hub? hub).map Hub.motion

theorem flag?_eq_some_iff :
    e.flag? hub = some on ↔ (e.hub? hub).isSome = true ∧ e.motion hub = on := by
  unfold flag? motion
  cases e.hub? hub with
  | none => simp
  | some h => simp

theorem flag?_addHub : e.addHub.1.flag? e.hubs.length = some false := by
  rw [flag?, hub?_addHub, if_pos rfl]
  rfl

theorem flag?_performAll (h : e.flag? hub = some on) :
    (e.performAll hub signal l).flag? hub = some (motionAfter on l) := by
  obtain ⟨hsome, hmotion⟩ := flag?_eq_some_iff.mp h
  rw [flag?_eq_some_iff, isSome_hub?_performAll, motion_performAll hsome, hmotion]
  exact ⟨hsome, rfl⟩

end Exchange

/-! ## What a call does with the hub -/

/-- What is done with the hub of a trigger that publishes under the given name, while it goes from
recording, or not, to recording, or not. -/
inductive HubCalls (source : String) : Bool → Bool → List Action → Prop
  | silent {recording : Bool} : HubCalls source recording recording []
  | motion {recording : Bool} :
    HubCalls source recording true [.setMotion true, .notify source]
  | stop : HubCalls source true false [.setMotion false]

namespace HubCalls

variable {source : String} {recording recording' : Bool} {l : List Action}

/-- The flag says afterwards whether there is a recording. -/
theorem motionAfter_eq (h : HubCalls source recording recording' (concerning .hub l)) :
    motionAfter recording l = recording' := by
  rw [← motionAfter_concerning]
  generalize concerning .hub l = calls at h
  cases h <;> rfl

/-- The flag is up when somebody is notified. -/
theorem motionAfter_of_notify (h : HubCalls source recording recording' (concerning .hub l))
    {before after : List Action} {subject : String} (hl : l = before ++ .notify subject :: after)
    (on : Bool) : motionAfter on before = true := by
  have hcalls : concerning .hub l =
      concerning .hub before ++ .notify subject :: concerning .hub after := by
    rw [hl, concerning_append, concerning_cons,
      if_pos (show (Action.notify subject).concern = .hub from rfl)]
  rw [hcalls] at h
  rw [← motionAfter_concerning]
  generalize concerning .hub before = earlier, concerning .hub after = later at h
  -- There is only one notification, right after the flag was raised.
  cases earlier with
  | nil => cases h
  | cons a earlier =>
    cases earlier with
    | nil =>
      cases h
      rfl
    | cons b earlier => cases earlier <;> cases h

end HubCalls

namespace MotionTrigger

variable {t t' : MotionTrigger} {a : Answers} {f : Frame} {allow : Bool} {actions : List Action}

theorem concerning_hub_closing : concerning .hub t.closing = [.setMotion false] := by
  rw [closing, concerning_append, concerning_append, concerning_stopTargets (by decide)]
  cases t.event <;> rfl

theorem hubCalls_deeds {d : Detection} {frames : List Frame} {v : Verdict}
    {recording recording' : Bool} (h : v.Turns recording recording') :
    HubCalls t.source recording recording' (concerning .hub (t.deeds a d frames v)) := by
  cases h with
  | starts =>
    have hnone : concerning .hub (startTargets t.targets frames a.newEvent.toOption) = [] :=
      concerning_startTargets (by decide) ..
    rw [show concerning .hub (t.deeds a d frames (.motion true)) =
        [.setMotion true, .notify t.source] ++
          concerning .hub (startTargets t.targets frames a.newEvent.toOption) from rfl, hnone]
    exact .motion
  | goesOn => exact .motion
  | stops seen =>
    rw [show t.deeds a d frames (.quiet seen true) = t.closing from rfl, concerning_hub_closing]
    exact .stop
  | stays silent =>
    rw [deeds_of_isSilent silent]
    exact .silent

/-- A frame changes the flag together with the recording. -/
theorem hubCalls_processFrame (h : t.processFrame a f allow = .ok (t', actions)) :
    HubCalls t.source t.counters.recording t'.counters.recording (concerning .hub actions) := by
  rw [← concerning_essentials rfl]
  obtain ⟨-, rfl, hnil⟩ | ⟨d, p, hc⟩ := processFrame_cases h
  · rw [hnil]
    exact .silent
  · rw [hc.done, hc.left]
    exact hubCalls_deeds (t.counters.turns (a.isActive d allow) p.limits)

theorem hubCalls_shutdown :
    HubCalls t.source t.counters.recording false (concerning .hub (t.shutdown a).2) := by
  rw [← concerning_essentials rfl, essentials_shutdown_snd, concerning_append]
  cases t.counters.recording with
  | false => exact .silent
  | true =>
    rw [if_pos rfl, concerning_hub_closing]
    exact .stop

/-- There is still no event without a recording. -/
theorem event_processFrame (h : t.processFrame a f allow = .ok (t', actions))
    (hevent : t.event.isSome = true → t.counters.recording = true)
    (hsome : t'.event.isSome = true) : t'.counters.recording = true := by
  obtain ⟨-, rfl, -⟩ | ⟨d, p, hc⟩ := processFrame_cases h
  · exact hevent hsome
  · have hturns := t.counters.turns (a.isActive d allow) p.limits
    rw [hc.left] at hsome ⊢
    change (t.eventAfter a (t.judge a p d allow).2).isSome = true at hsome
    change (t.judge a p d allow).1.recording = true
    change Verdict.Turns _ (t.judge a p d allow).1.recording (t.judge a p d allow).2 at hturns
    generalize t.judge a p d allow = r at hturns hsome ⊢
    obtain ⟨c, v⟩ := r
    generalize c.recording = recording' at hturns ⊢
    generalize t.counters.recording = recording at hturns hevent
    cases hturns with
    | starts | goesOn => rfl
    | stops seen => cases hsome
    | stays silent =>
      rw [eventAfter_of_isSilent silent] at hsome
      exact hevent hsome

end MotionTrigger

/-! ## Posts -/

/-- A motion trigger with its exchange. -/
structure Post extends Leader where
  exchange : Exchange

/-- Something that happens at a post. -/
inductive Occasion where
  /-- The trigger is shown a frame. Whether its signal is pending, it finds on the exchange. -/
  | frame (answers : Answers) (f : Frame) (allow : Bool)
  /-- The trigger stops everything. -/
  | shutdown (answers : Answers)
  /-- Others use the exchange. -/
  | meanwhile (change : Exchange → Exchange)

/-- What the trigger does on an occasion. -/
inductive Reply where
  | done (actions : List Action)
  /-- A frame has another size, and nothing is done. -/
  | refused (cause : Resized)

/-- Others leave the hub and its flag alone. -/
def Occasion.IsFair (hub : Nat) : Occasion → Prop
  | .frame _ _ _ | .shutdown _ => True
  | .meanwhile change => ∀ e : Exchange, (change e).flag? hub = e.flag? hub

namespace Post

/-- A trigger at a new post: it gets a hub. -/
def install (e : Exchange) (t : MotionTrigger) (signal : Option Nat) : Post :=
  { trigger := t, hub := e.hubs.length, signal, exchange := e.addHub.1 }

/-- The answers with what the trigger finds on the exchange. -/
def consult (p : Post) (a : Answers) : Answers :=
  { a with signalled := p.signal.any p.exchange.isPending }

/-- The post after the trigger has acted. -/
def proceed (p : Post) (step : MotionTrigger × List Action) : Post :=
  { p with trigger := step.1, exchange := p.exchange.performAll p.hub p.signal step.2 }

/-- What becomes of an occasion, unless the program crashes. -/
def meet (p : Post) : Occasion → Except (Option Misuse) (Reply × Post)
  | .frame a f allow =>
    match p.trigger.processFrame (p.consult a) f allow with
    | .ok step => .ok (.done step.2, p.proceed step)
    | .error (.failed r) => .ok (.refused r, p)
    | .error (.crashed cause) => .error cause
  | .shutdown a =>
    .ok (.done (p.trigger.shutdown (p.consult a)).2, p.proceed (p.trigger.shutdown (p.consult a)))
  | .meanwhile change => .ok (.done [], { p with exchange := change p.exchange })

/-- What becomes of occasions one after the other: all replies, and the post at last. -/
def meets (p : Post) : List Occasion → List Reply × Except (Option Misuse) Post
  | [] => ([], .ok p)
  | o :: os =>
    match p.meet o with
    | .error e => ([], .error e)
    | .ok (reply, p) => (reply :: (p.meets os).1, (p.meets os).2)

/-- The counters, the event and the motion flag fit together. -/
structure Orderly (p : Post) : Prop where
  counters : p.trigger.counters.Sane
  event : p.trigger.event.isSome = true → p.trigger.counters.recording = true
  flag : p.exchange.flag? p.hub = some p.trigger.counters.recording

variable {p p' : Post} {o : Occasion} {os : List Occasion} {reply : Reply}

theorem orderly_install {e : Exchange} {t : MotionTrigger} {signal : Option Nat}
    (hcounters : t.counters = .zero) (hevent : t.event = none) :
    (install e t signal).Orderly := by
  refine ⟨?_, ?_, ?_⟩
  · show t.counters.Sane
    rw [hcounters]
    exact Counters.sane_zero
  · show t.event.isSome = true → _
    rw [hevent]
    nofun
  · show e.addHub.1.flag? e.hubs.length = some t.counters.recording
    rw [hcounters]
    exact Exchange.flag?_addHub

namespace Orderly

/-- The flag follows the recording in what a trigger does. -/
theorem flag_proceed (h : p.Orderly) {step : MotionTrigger × List Action}
    (hcalls : HubCalls p.trigger.source p.trigger.counters.recording step.1.counters.recording
      (concerning .hub step.2)) :
    (p.proceed step).exchange.flag? p.hub = some step.1.counters.recording := by
  show (p.exchange.performAll p.hub p.signal step.2).flag? p.hub = _
  rw [Exchange.flag?_performAll h.flag, hcalls.motionAfter_eq]

theorem processFrame (h : p.Orderly) {a : Answers} {f : Frame} {allow : Bool}
    {t : MotionTrigger} {actions : List Action}
    (hp : p.trigger.processFrame a f allow = .ok (t, actions)) :
    (p.proceed (t, actions)).Orderly := by
  refine ⟨?_, ?_, h.flag_proceed (MotionTrigger.hubCalls_processFrame hp)⟩
  · show t.counters.Sane
    obtain ⟨-, rfl, -⟩ | ⟨d, q, hc⟩ := MotionTrigger.processFrame_cases hp
    · exact h.counters
    · rw [hc.left]
      exact Counters.sane_advance h.counters ..
  · exact MotionTrigger.event_processFrame hp h.event

theorem shutdown (h : p.Orderly) (a : Answers) :
    (p.proceed (p.trigger.shutdown a)).Orderly := by
  have hcounters : (p.trigger.shutdown a).1.counters =
      { p.trigger.counters with recording := false } := by
    rw [MotionTrigger.shutdown_fst]
  have hrec : (p.trigger.shutdown a).1.counters.recording = false := by rw [hcounters]
  refine ⟨?_, ?_, ?_⟩
  · show (p.trigger.shutdown a).1.counters.Sane
    rw [hcounters]
    exact h.counters.stopped
  · show (p.trigger.shutdown a).1.event.isSome = true → _
    rw [MotionTrigger.shutdown_fst]
    intro hsome
    change (if p.trigger.counters.recording then none else p.trigger.event).isSome = true at hsome
    split at hsome
    · cases hsome
    · next hnot => exact absurd (h.event hsome) hnot
  · refine h.flag_proceed ?_
    rw [hrec]
    exact MotionTrigger.hubCalls_shutdown

end Orderly

/-- **Every occasion leaves a post in order.** -/
theorem orderly_meet (h : p.Orderly) (hfair : o.IsFair p.hub) (ho : p.meet o = .ok (reply, p')) :
    p'.Orderly ∧ p'.hub = p.hub := by
  cases o with
  | frame a f allow =>
    unfold meet at ho
    dsimp only at ho
    split at ho
    · next step hstep =>
      cases ho
      exact ⟨h.processFrame hstep, rfl⟩
    · cases ho
      exact ⟨h, rfl⟩
    · cases ho
  | shutdown a =>
    cases ho
    exact ⟨h.shutdown _, rfl⟩
  | meanwhile change =>
    cases ho
    exact ⟨⟨h.counters, h.event, (hfair p.exchange).trans h.flag⟩, rfl⟩

theorem orderly_meets (h : p.Orderly) (hfair : ∀ o ∈ os, o.IsFair p.hub)
    (hos : (p.meets os).2 = .ok p') : p'.Orderly := by
  induction os generalizing p with
  | nil =>
    cases hos
    exact h
  | cons o os ih =>
    unfold meets at hos
    split at hos
    · cases hos
    · next reply q hq =>
      obtain ⟨hq, hhub⟩ := orderly_meet h (hfair o List.mem_cons_self) hq
      refine ih hq ?_ hos
      intro o' ho'
      rw [hhub]
      exact hfair o' (List.mem_cons_of_mem o ho')

/-- Whoever is notified can already see that the trigger is recording. -/
theorem motion_of_notify (h : p.Orderly) {actions before after : List Action} {subject : String}
    (ho : p.meet o = .ok (.done actions, p'))
    (hactions : actions = before ++ .notify subject :: after) :
    (p.exchange.performAll p.hub p.signal before).motion p.hub = true := by
  obtain ⟨hsome, -⟩ := Exchange.flag?_eq_some_iff.mp h.flag
  rw [Exchange.motion_performAll hsome]
  cases o with
  | frame a f allow =>
    unfold meet at ho
    dsimp only at ho
    split at ho
    · next step hstep =>
      cases ho
      exact (MotionTrigger.hubCalls_processFrame hstep).motionAfter_of_notify hactions _
    · cases ho
    · cases ho
  | shutdown a =>
    cases ho
    exact MotionTrigger.hubCalls_shutdown.motionAfter_of_notify hactions _
  | meanwhile change =>
    cases ho
    exact absurd hactions.symm (List.append_ne_nil_of_right_ne_nil _ (List.cons_ne_nil _ _))

/-- **A new trigger stays in order**, whatever frames, signals, answers and shutdowns come and
whatever its parameters are. It counts nothing below zero, and does not record while it is muted.
It has no event without a recording, and its flag says whether there is a recording. -/
theorem orderly_of_install (e : Exchange) (t : MotionTrigger) (signal : Option Nat)
    (hcounters : t.counters = .zero) (hevent : t.event = none)
    (hfair : ∀ o ∈ os, o.IsFair e.hubs.length)
    (hos : ((install e t signal).meets os).2 = .ok p) :
    let c := p.trigger.counters
    (0 ≤ c.active ∧ 0 ≤ c.quiet ∧ 0 ≤ c.mute) ∧
    (c.recording = true → c.mute = 0) ∧
    (0 < c.mute → c.active = 0 ∧ c.recording = false) ∧
    (p.trigger.event.isSome = true → c.recording = true) ∧
    p.exchange.motion p.hub = c.recording ∧
    ∀ o actions p', p.meet o = .ok (.done actions, p') →
      ∀ before subject after, actions = before ++ .notify subject :: after →
        (p.exchange.performAll p.hub p.signal before).motion p.hub = true := by
  intro c
  have h : p.Orderly := orderly_meets (orderly_install hcounters hevent) hfair hos
  refine ⟨⟨h.counters.active, h.counters.quiet, h.counters.mute⟩, h.counters.mute_of_recording,
    h.counters.muted, h.event, (Exchange.flag?_eq_some_iff.mp h.flag).2, ?_⟩
  intro o actions p' ho before subject after hactions
  exact motion_of_notify h ho hactions

/-- A trigger in a hall, with the signal of a door. -/
def hall : Post :=
  install Exchange.empty.addSignal.1
    { MotionTrigger.create "hall" "lens" (.builtin fun _ => none) with targets := 1 } (some 0)

/-- What happens when the door is opened after a first frame. -/
def doorOpens : List Occasion :=
  let answers : Answers := ⟨motionDefaults, false, false, (0.0, 0.0), .ok 3, fun _ => .ok (),
    fun _ => .refused ""⟩
  let dark : Frame := .flat 1 Frame.paintable_one 0
  [.frame answers dark true, .meanwhile (·.direct 0 "door"), .frame answers dark true]

/-- The door starts a recording, which the hub reports. -/
theorem orderly_hall :
    ∃ p, (hall.meets doorOpens).2 = .ok p ∧ p.trigger.event = some 3 ∧
      p.trigger.counters.recording = true ∧ p.trigger.counters.mute = 0 ∧
      p.exchange.motion p.hub = true := by
  have hrec : (hall.meets doorOpens).2.map (fun p => p.trigger.event) = .ok (some 3) := rfl
  cases hp : (hall.meets doorOpens).2 with
  | error e =>
    rw [hp] at hrec
    cases hrec
  | ok p =>
    rw [hp] at hrec
    have hevent : p.trigger.event = some 3 := Except.ok.inj hrec
    have hfair : ∀ o ∈ doorOpens, o.IsFair 0 := by
      intro o ho
      simp only [doorOpens, List.mem_cons, List.not_mem_nil, or_false] at ho
      rcases ho with rfl | rfl | rfl
      · trivial
      · exact fun _ => rfl
      · trivial
    have h := orderly_of_install Exchange.empty.addSignal.1
      { MotionTrigger.create "hall" "lens" (.builtin fun _ => none) with targets := 1 } (some 0)
      rfl rfl hfair hp
    have hrecording : p.trigger.counters.recording = true := h.2.2.2.1 (by rw [hevent]; rfl)
    exact ⟨p, rfl, hevent, hrecording, h.2.1 hrecording, h.2.2.2.2.1.trans hrecording⟩

end Post

end MotionWatch
