import MotionWatch.Proofs.Notify.Perform
import MotionWatch.Proofs.Trigger.Cascade

/-!
# Cascading triggers on an exchange

A cascading trigger and the triggers that it follows only know each other through an exchange:
through a signal that remembers one notification, and through the motion flags of the hubs.

* `Follower`: a cascading trigger on an exchange; `join`: how it gets there, `step`: its round.
* `Stepped`: what a round changes; `stepped`: every round that returns is like that.
* `Wired`: the signal listens to all hubs that are followed, and not to the trigger's own hub.
-/

namespace MotionWatch

/-- A cascading trigger on an exchange, and all that it has done so far. -/
structure Follower where
  exchange : Exchange
  trigger : CascadingTrigger
  /-- The hub that it publishes through. -/
  hub : Nat
  signal : Nat
  /-- The hubs of the triggers that it follows. -/
  upstream : List Nat
  trace : List Action

namespace Follower

variable {c c' : Follower} {e : Exchange} {t : CascadingTrigger} {upstream : List Nat} {a : Answers}
  {frame : Option Frame} {allow : Bool}

/-- Has a trigger follow others. A site adds a part in this way. -/
def join (e : Exchange) (t : CascadingTrigger) (upstream : List Nat) : Follower :=
  let (e, hub) := e.addHub
  let (e, signal) := e.addSignal
  ⟨(e.subscribe signal upstream).1, t, hub, signal, upstream, []⟩

/-- Whether there is a notification. -/
def isPending (c : Follower) : Bool := c.exchange.isPending c.signal

/-- Whether a trigger that is followed reports motion. -/
def reports (c : Follower) : Bool := c.upstream.any c.exchange.motion

/-- The surroundings in a round. The camera delivers `frame`, the schedule says `allow`, and the
exchange and `a` say the rest. -/
def host (c : Follower) (a : Answers) (frame : Option Frame) (allow : Bool) : Host Exchange where
  control _ := .fresh
  idle e := e
  isAllowed e := (allow, e)
  nextFrame _ _ e := (frame, e)
  nextSamples _ e := (.ok [], e)
  answers e := { a with signalled := e.isPending c.signal, upstream := c.upstream.any e.motion }
  perform a e := e.perform c.hub (some c.signal) a

/-- One round, unless the program crashes in it. -/
def step (c : Follower) (a : Answers) (frame : Option Frame) (allow : Bool) : Option Follower :=
  let r := CascadingTrigger.follow (c.host a frame allow) (c.trigger.stepRun c.exchange)
  match r.outcome? with
  | none =>
    some { c with exchange := r.world, trigger := r.trigger, trace := c.trace ++ r.trace }
  | some _ => none

/-! ## Rounds -/

/-- Whether a recording is started in a round. -/
def starts (c : Follower) (frame : Option Frame) (allow : Bool) : Bool :=
  c.trigger.wakened frame && (c.isPending && !c.trigger.recording && allow)

/-- Whether a recording is stopped in a round. -/
def stops (c : Follower) (frame : Option Frame) (allow : Bool) : Bool :=
  (c.trigger.recording || c.starts frame allow) && !c.reports

/-- The essential actions in a round, in which targets may get `frames`. -/
def deeds (c : Follower) (frame : Option Frame) (allow : Bool) (frames : List Frame) :
    List Action :=
  (if c.trigger.wakened frame then [.takeSignal] else []) ++
    (if c.starts frame allow then c.trigger.opening frames else []) ++
    (if c.stops frame allow then c.trigger.closing else [])

/-- What a round changes. -/
structure Stepped (c : Follower) (frame : Option Frame) (allow : Bool) (c' : Follower)
    (frames : List Frame) : Prop where
  left : c' =
    { c with
      exchange := c.exchange.performAll c.hub (some c.signal) (c.deeds frame allow frames)
      trigger := c'.trigger
      trace := c'.trace }
  trigger : c'.trigger =
    { c.trigger with
      recording := (c.trigger.recording || c.starts frame allow) && c.reports
      prerecord := c'.trigger.prerecord
      lastTs := c'.trigger.lastTs }
  trace : essentials c'.trace = essentials c.trace ++ c.deeds frame allow frames

/-- The frame that is looked at in a round. -/
def seen (c : Follower) (frame : Option Frame) : Option Frame :=
  if c.trigger.keepsFrames then frame else none

/-- What is waited for in a round. -/
def waits (c : Follower) : Action :=
  if c.trigger.keepsFrames then .fetch true c.trigger.lastTs else .await CascadingTrigger.patience

/-- The trigger once it has looked at the frame. -/
def looked (c : Follower) (frame : Option Frame) : CascadingTrigger :=
  match c.seen frame with
  | some f => { c.trigger with lastTs := f.ts }
  | none => c.trigger

theorem await_eq :
    CascadingTrigger.await (c.host a frame allow)
        ((c.trigger.stepRun c.exchange).askSchedule (c.host a frame allow)).2 =
      (c.seen frame, { c.trigger.stepRun c.exchange with trace := [c.waits] }) := by
  unfold CascadingTrigger.await seen waits
  by_cases hk : c.trigger.keepsFrames = true
  · rw [if_pos hk, if_pos hk]
    exact if_pos hk
  · rw [if_neg hk, if_neg hk]
    exact if_neg hk

theorem follow_eq :
    CascadingTrigger.follow (c.host a frame allow) (c.trigger.stepRun c.exchange) =
      let r : CascadingTrigger.Running Exchange :=
        { c.trigger.stepRun c.exchange with trace := [c.waits] }
      match (c.looked frame).respond { a with signalled := c.isPending, upstream := c.reports }
        (c.seen frame) allow with
      | .ok step => r.proceed (c.host a frame allow) step
      | .error e => r.goTo (.returned (.crashed (some e))) := by
  unfold CascadingTrigger.follow
  dsimp only
  rw [await_eq]
  rfl

/-- A round, without the host. -/
theorem step_eq :
    c.step a frame allow =
      match (c.looked frame).respond { a with signalled := c.isPending, upstream := c.reports }
        (c.seen frame) allow with
      | .ok (t, actions) =>
        some { c with
          exchange := c.exchange.performAll c.hub (some c.signal) actions
          trigger := t
          trace := c.trace ++ (c.waits :: actions) }
      | .error _ => none := by
  unfold step
  rw [follow_eq]
  cases (c.looked frame).respond { a with signalled := c.isPending, upstream := c.reports }
    (c.seen frame) allow with
  | ok step => rfl
  | error e => rfl

/-- A round returns if it can look up how many frames to keep. -/
theorem step_isSome {duration : Int}
    (h : a.params.getInt ParameterName.preRecordDuration = .ok duration) :
    ∃ c', c.step a frame allow = some c' := by
  have hrespond : ∃ r, (c.looked frame).respond
      { a with signalled := c.isPending, upstream := c.reports } (c.seen frame) allow = .ok r :=
    CascadingTrigger.respond_isOk h
  obtain ⟨r, hr⟩ := hrespond
  rw [step_eq, hr]
  exact ⟨_, rfl⟩

theorem wakened_seen (c : Follower) (frame : Option Frame) :
    (c.looked frame).wakened (c.seen frame) = c.trigger.wakened frame := by
  unfold looked seen CascadingTrigger.wakened
  cases hk : c.trigger.keepsFrames <;> cases frame <;> simp [hk]

/-- Looking at a frame changes the time only. -/
theorem looked_eq (c : Follower) (frame : Option Frame) :
    ∃ ts, c.looked frame = { c.trigger with lastTs := ts } := by
  unfold looked
  split
  · exact ⟨_, rfl⟩
  · exact ⟨c.trigger.lastTs, rfl⟩

/-- **A round that returns changes what it has to.** -/
theorem stepped (h : c.step a frame allow = some c') :
    ∃ frames, c.Stepped frame allow c' frames := by
  rw [step_eq] at h
  split at h
  · next t actions hr =>
    obtain rfl := Option.some.inj h
    obtain ⟨kept, hr⟩ := CascadingTrigger.responded hr
    obtain ⟨ts, hlooked⟩ := c.looked_eq frame
    have hwakened := c.wakened_seen frame
    rw [hlooked] at hr hwakened
    have hstarts : ({ c.trigger with lastTs := ts } : CascadingTrigger).starts
        { a with signalled := c.isPending, upstream := c.reports } (c.seen frame) allow =
          c.starts frame allow := by
      rw [CascadingTrigger.starts, hwakened]
      rfl
    have hdone : essentials actions = c.deeds frame allow kept.toList := by
      rw [hr.done, hwakened, CascadingTrigger.stops, hstarts]
      rfl
    refine ⟨kept.toList, ?_, ?_, ?_⟩
    · rw [← hdone, Exchange.performAll_essentials]
    · show t = { c.trigger with
        recording := (c.trigger.recording || c.starts frame allow) && c.reports
        prerecord := t.prerecord
        lastTs := t.lastTs }
      rw [hr.left, hstarts]
    · rw [essentials_append, ← hdone]
      unfold waits
      split <;> rfl
  · cases h

/-! ## Wiring -/

/-- The signal listens to the hubs that are followed, and not to the hub of the trigger itself. -/
structure Wired (c : Follower) : Prop where
  apart : c.hub ∉ c.upstream
  deaf : c.exchange.listens c.signal c.hub = false
  hears : ∀ hub ∈ c.upstream, (c.exchange.hub? hub).isSome = true →
    c.exchange.listens c.signal hub = true

theorem join_eq :
    join e t upstream =
      ⟨(e.addHub.1.addSignal.1.subscribe e.signals.length upstream).1, t, e.hubs.length,
        e.signals.length, upstream, []⟩ := rfl

/-- A trigger that was just connected has not been notified. -/
theorem isPending_join : (join e t upstream).isPending = false := by
  rw [join_eq]
  unfold isPending Exchange.isPending
  rw [(Exchange.subscribe_frame upstream).1, Exchange.signal?_addSignal]
  simp [Exchange.addHub, Signal.fresh]

/-- Connecting a trigger changes no motion flag. -/
theorem motion_join {hub : Nat} (h : hub ≠ e.hubs.length) :
    (join e t upstream).exchange.motion hub = e.motion hub := by
  rw [join_eq]
  show (e.addHub.1.addSignal.1.subscribe e.signals.length upstream).1.motion hub = _
  rw [(Exchange.subscribe_frame upstream).2.2]
  unfold Exchange.motion
  rw [Exchange.hub?_addSignal, Exchange.hub?_addHub, if_neg h]

theorem wired_join (h : ∀ hub ∈ upstream, hub < e.hubs.length) : (join e t upstream).Wired := by
  have hapart : e.hubs.length ∉ upstream := fun hm => Nat.lt_irrefl _ (h _ hm)
  have hfresh : (e.addHub.1.addSignal.1.signal? e.signals.length).isSome = true := by
    rw [Exchange.signal?_addSignal]
    simp [Exchange.addHub]
  rw [join_eq]
  refine ⟨hapart, ?_, fun hub hm hsome => ?_⟩
  · have hcontains : upstream.contains e.hubs.length = false := by simpa using hapart
    show (e.addHub.1.addSignal.1.subscribe e.signals.length upstream).1.listens _ _ = false
    rw [Exchange.listens_subscribe, hcontains, Exchange.listens, Exchange.hub?_addSignal,
      Exchange.hub?_addHub, if_pos rfl]
    rfl
  · have hcontains : upstream.contains hub = true := by simpa using hm
    rw [(Exchange.subscribe_frame upstream).2.1] at hsome
    show (e.addHub.1.addSignal.1.subscribe e.signals.length upstream).1.listens _ _ = true
    rw [Exchange.listens_subscribe, hcontains, hsome, hfresh]
    simp

/-- The follower once another trigger, with a hub and perhaps a signal of its own, has done
something. -/
def overhear (c : Follower) (hub : Nat) (signal : Option Nat) (l : List Action) : Follower :=
  { c with exchange := c.exchange.performAll hub signal l }

/-- Nothing that triggers do changes who listens. -/
theorem Wired.overhear (h : c.Wired) (hub : Nat) (signal : Option Nat) (l : List Action) :
    (c.overhear hub signal l).Wired := by
  refine ⟨h.apart, ?_, fun hub' hm hsome => ?_⟩
  · show (c.exchange.performAll hub signal l).listens c.signal c.hub = false
    rw [Exchange.listens_performAll]
    exact h.deaf
  · change ((c.exchange.performAll hub signal l).hub? hub').isSome = true at hsome
    rw [Exchange.isSome_hub?_performAll] at hsome
    show (c.exchange.performAll hub signal l).listens c.signal hub' = true
    rw [Exchange.listens_performAll]
    exact h.hears hub' hm hsome

namespace Stepped

variable {frames : List Frame}

theorem wired (hs : c.Stepped frame allow c' frames) (h : c.Wired) : c'.Wired := by
  have hw := h.overhear c.hub (some c.signal) (c.deeds frame allow frames)
  rw [hs.left]
  exact ⟨hw.apart, hw.deaf, hw.hears⟩

/-- A round has no effect on what is followed. -/
theorem reports_eq (hs : c.Stepped frame allow c' frames) (h : c.Wired) :
    c'.reports = c.reports := by
  have hmotion : ∀ hub ∈ c.upstream, (c.exchange.performAll c.hub (some c.signal)
      (c.deeds frame allow frames)).motion hub = c.exchange.motion hub := by
    intro hub hm
    exact Exchange.motion_performAll_of_ne fun he => h.apart (he ▸ hm)
  rw [hs.left, Bool.eq_iff_iff, reports, reports, List.any_eq_true, List.any_eq_true]
  constructor
  · rintro ⟨hub, hm, hon⟩
    exact ⟨hub, hm, (hmotion hub hm).symm.trans hon⟩
  · rintro ⟨hub, hm, hon⟩
    exact ⟨hub, hm, (hmotion hub hm).trans hon⟩

theorem takes_deeds : Exchange.takes (c.deeds frame allow frames) = c.trigger.wakened frame := by
  have hopening : Exchange.takes
      (if c.starts frame allow then c.trigger.opening frames else []) = false := by
    refine Exchange.takes_eq_false ?_
    split
    · rw [CascadingTrigger.opening, concerning_append, concerning_startTargets (by decide)]
      rfl
    · rfl
  have hclosing : Exchange.takes (if c.stops frame allow then c.trigger.closing else []) =
      false := by
    refine Exchange.takes_eq_false ?_
    split
    · rw [CascadingTrigger.closing, concerning_append, concerning_stopTargets (by decide)]
      rfl
    · rfl
  rw [deeds, Exchange.takes_append, Exchange.takes_append, hopening, hclosing, Bool.or_false,
    Bool.or_false]
  cases c.trigger.wakened frame <;> rfl

/-- A round takes the notification, unless it waits for a frame in vain. -/
theorem isPending_eq (hs : c.Stepped frame allow c' frames) (h : c.Wired) :
    c'.isPending = (c.isPending && !c.trigger.wakened frame) := by
  rw [hs.left]
  show (c.exchange.performAll c.hub (some c.signal) _).isPending c.signal = _
  rw [Exchange.isPending_performAll_own h.deaf, takes_deeds]
  rfl

end Stepped

end Follower

end MotionWatch
