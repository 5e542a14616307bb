import MotionWatch.Proofs.Trigger.Follower
import MotionWatch.Proofs.Trigger.Reaction

/-!
# A cascading trigger and its leaders

A cascading trigger follows motion triggers, its leaders, with which it shares nothing but an
exchange. All of them are called in any order.

* `Convoy`: the leaders and the follower. `Convoy.form`: how they get together; `Convoy.move`: one
  call of any of them.
* `Sound`: what holds between calls. A leader that reports motion is not overlooked: the follower is
  recording, or has a notification left.
* `records_iff_reports`: after any calls, the follower records exactly if a leader reports motion,
  as soon as it has looked.
-/

namespace MotionWatch

namespace MotionTrigger

variable {t t' : MotionTrigger} {a : Answers} {f : Frame} {on allow : Bool} {actions : List Action}

/-- A frame raises the motion flag with a notification only. -/
theorem motionAfter_processFrame (h : t.processFrame a f allow = .ok (t', actions))
    (hon : motionAfter on actions = true) : on = true ∨ Exchange.notifies actions = true := by
  rw [← motionAfter_essentials] at hon
  rw [← Exchange.notifies_essentials]
  obtain ⟨-, -, hnil⟩ | ⟨d, p, hc⟩ := processFrame_cases h
  · rw [hnil] at hon
    exact .inl hon
  · rw [hc.done] at hon ⊢
    generalize (t.judge a p d allow).2 = v at hon
    match v with
    | .muted _ | .gathering _ _ | .quiet _ false | .idle => exact .inl hon
    | .motion _ => exact .inr rfl
    | .quiet _ true =>
      change motionAfter on t.closing = true at hon
      rw [motionAfter_closing] at hon
      cases hon

/-- The end does not raise the motion flag. -/
theorem motionAfter_shutdown (hon : motionAfter on (t.shutdown a).2 = true) : on = true := by
  rw [← motionAfter_essentials, essentials_shutdown_snd, motionAfter_append] at hon
  change motionAfter on (if t.counters.recording then t.closing else []) = true at hon
  split at hon
  · rw [motionAfter_closing] at hon
    cases hon
  · exact hon

end MotionTrigger

/-- A motion trigger on an exchange. -/
structure Leader where
  trigger : MotionTrigger
  /-- The hub that it publishes through. -/
  hub : Nat
  /-- Its own signal, if it has one. -/
  signal : Option Nat

/-- A cascading trigger with the motion triggers that it follows. -/
structure Convoy where
  leaders : List Leader
  follower : Follower

/-- A call of one of the triggers. -/
inductive Move where
  /-- A leader is shown a frame. -/
  | processFrame (leader : Nat) (answers : Answers) (frame : Frame) (allow : Bool)
  /-- A leader stops everything. -/
  | shutdown (leader : Nat) (answers : Answers)
  /-- The follower goes through a round, perhaps with a frame. It has no schedule. -/
  | step (answers : Answers) (frame : Option Frame)

namespace Convoy

/-- Has a cascading trigger follow motion triggers. -/
def form (e : Exchange) (leaders : List Leader) (t : CascadingTrigger) : Convoy :=
  ⟨leaders, .join e t (leaders.map Leader.hub)⟩

/-- Goes on with a leader, after its actions are done. -/
def lead (c : Convoy) (i : Nat) (l : Leader) (step : MotionTrigger × List Action) : Convoy where
  leaders := c.leaders.set i { l with trigger := step.1 }
  follower := c.follower.overhear l.hub l.signal step.2

/-- One call, unless the program crashes in it. A frame that is refused changes nothing. -/
def move (c : Convoy) : Move → Option Convoy
  | .processFrame i a f allow =>
    match c.leaders[i]? with
    | none => some c
    | some l =>
      match l.trigger.processFrame a f allow with
      | .ok step => some (c.lead i l step)
      | .error (.failed _) => some c
      | .error (.crashed _) => none
  | .shutdown i a =>
    match c.leaders[i]? with
    | none => some c
    | some l => some (c.lead i l (l.trigger.shutdown a))
  | .step a frame => (c.follower.step a frame true).map fun follower => { c with follower }

/-- Calls one after the other. -/
def moves (c : Convoy) : List Move → Option Convoy
  | [] => some c
  | m :: ms => (c.move m).bind fun c => c.moves ms

/-- What holds between calls. -/
structure Sound (c : Convoy) : Prop where
  wired : c.follower.Wired
  upstream : c.follower.upstream = c.leaders.map Leader.hub
  /-- Nobody else takes the notifications of the follower. -/
  signals : ∀ l ∈ c.leaders, l.signal ≠ some c.follower.signal
  pending : c.follower.reports = true → c.follower.trigger.recording = false →
    c.follower.isPending = true

variable {c c' : Convoy} {e : Exchange} {leaders : List Leader} {t : CascadingTrigger}

theorem sound_form (hhubs : ∀ l ∈ leaders, l.hub < e.hubs.length)
    (hsignals : ∀ l ∈ leaders, ∀ s ∈ l.signal, s < e.signals.length)
    (hquiet : ∀ l ∈ leaders, e.motion l.hub = false) : (form e leaders t).Sound := by
  have hlt : ∀ hub ∈ leaders.map Leader.hub, hub < e.hubs.length := by
    intro hub hm
    obtain ⟨l, hl, rfl⟩ := List.mem_map.mp hm
    exact hhubs l hl
  refine ⟨Follower.wired_join hlt, rfl, fun l hl hs => ?_, fun hon _ => ?_⟩
  · exact Nat.lt_irrefl _ (hsignals l hl e.signals.length hs)
  · obtain ⟨hub, hm, hon⟩ := List.any_eq_true.mp hon
    obtain ⟨l, hl, rfl⟩ := List.mem_map.mp hm
    change (Follower.join e t (leaders.map Leader.hub)).exchange.motion l.hub = true at hon
    rw [Follower.motion_join (Nat.ne_of_lt (hhubs l hl)), hquiet l hl] at hon
    cases hon

/-- A call changes nothing, or a leader goes on, or the follower does. -/
theorem move_cases {m : Move} (hc : c.move m = some c') :
    c' = c ∨
      (∃ i l step, c.leaders[i]? = some l ∧ c' = c.lead i l step ∧
        ∀ on, motionAfter on step.2 = true → on = true ∨ Exchange.notifies step.2 = true) ∨
      ∃ a frame, m = .step a frame := by
  cases m with
  | processFrame i a f allow =>
    unfold move at hc
    dsimp only at hc
    split at hc
    · exact .inl (Option.some.inj hc).symm
    · next l hl =>
      split at hc
      · next step hstep =>
        exact .inr (.inl ⟨i, l, step, hl, (Option.some.inj hc).symm,
          fun on => MotionTrigger.motionAfter_processFrame hstep⟩)
      · exact .inl (Option.some.inj hc).symm
      · cases hc
  | shutdown i a =>
    unfold move at hc
    dsimp only at hc
    split at hc
    · exact .inl (Option.some.inj hc).symm
    · next l hl =>
      exact .inr (.inl ⟨i, l, l.trigger.shutdown a, hl, (Option.some.inj hc).symm,
        fun on hon => .inl (MotionTrigger.motionAfter_shutdown hon)⟩)
  | step a frame => exact .inr (.inr ⟨a, frame, rfl⟩)

namespace Sound

/-- **What a leader does, the follower gets to know.** -/
theorem lead {i : Nat} {l : Leader} (h : c.Sound) (hl : c.leaders[i]? = some l)
    {step : MotionTrigger × List Action}
    (htold : ∀ on, motionAfter on step.2 = true → on = true ∨ Exchange.notifies step.2 = true) :
    (c.lead i l step).Sound := by
  have hm : l ∈ c.leaders := List.mem_of_getElem? hl
  have hhub : l.hub ∈ c.follower.upstream := by
    rw [h.upstream]
    exact List.mem_map_of_mem hm
  refine ⟨h.wired.overhear l.hub l.signal step.2, ?_, ?_, ?_⟩
  · show c.follower.upstream = (c.leaders.set i { l with trigger := step.1 }).map Leader.hub
    obtain ⟨hi, rfl⟩ := List.getElem?_eq_some_iff.mp hl
    rw [h.upstream, List.map_set]
    have hi' : i < (c.leaders.map Leader.hub).length := by rwa [List.length_map]
    have hset : (c.leaders.map Leader.hub).set i (c.leaders.map Leader.hub)[i] =
        c.leaders.map Leader.hub := List.set_getElem_self hi'
    rw [List.getElem_map] at hset
    exact hset.symm
  · intro l' hl'
    rcases List.mem_or_eq_of_mem_set hl' with hl' | rfl
    · exact h.signals l' hl'
    · exact h.signals l hm
  · intro hon hrec
    have hpending : (c.lead i l step).follower.isPending =
        (c.follower.isPending ||
          c.follower.exchange.listens c.follower.signal l.hub && Exchange.notifies step.2) :=
      Exchange.isPending_performAll_other (h.signals l hm)
    rw [hpending]
    obtain ⟨hub, hub_mem, hon⟩ := List.any_eq_true.mp hon
    change (c.follower.exchange.performAll l.hub l.signal step.2).motion hub = true at hon
    -- Either the hub reported motion before, or it is the leader's, who has just published.
    have hor : c.follower.exchange.motion hub = true ∨
        c.follower.exchange.listens c.follower.signal l.hub = true ∧
          Exchange.notifies step.2 = true := by
      by_cases he : l.hub = hub
      · subst he
        cases hsome : (c.follower.exchange.hub? l.hub).isSome with
        | false =>
          rw [Exchange.motion_eq_false (Exchange.isSome_hub?_performAll.trans hsome)] at hon
          cases hon
        | true =>
          rw [Exchange.motion_performAll hsome] at hon
          rcases htold _ hon with hon | hnotifies
          · exact .inl hon
          · exact .inr ⟨h.wired.hears l.hub hhub hsome, hnotifies⟩
      · rw [Exchange.motion_performAll_of_ne he] at hon
        exact .inl hon
    rcases hor with hon | ⟨hlistens, hnotifies⟩
    · rw [h.pending (List.any_eq_true.mpr ⟨hub, hub_mem, hon⟩) hrec]
      rfl
    · rw [hlistens, hnotifies]
      exact Bool.or_true _

/-- A round of the follower. -/
theorem step {a : Answers} {frame : Option Frame} (h : c.Sound)
    (hc : c.move (.step a frame) = some c') :
    c'.Sound ∧ (c'.follower.trigger.recording = true → c'.follower.reports = true) ∧
      (c.follower.trigger.keepsFrames = false ∨ frame.isSome = true →
        (c'.follower.trigger.recording = true ↔ c'.follower.reports = true)) := by
  obtain ⟨follower, hf, rfl⟩ := Option.map_eq_some_iff.mp hc
  obtain ⟨frames, hs⟩ := Follower.stepped hf
  have hreports := hs.reports_eq h.wired
  have hpending := hs.isPending_eq h.wired
  have hrecording : follower.trigger.recording =
      ((c.follower.trigger.recording || c.follower.starts frame true) && c.follower.reports) := by
    rw [hs.trigger]
  have hupstream : follower.upstream = c.follower.upstream := by rw [hs.left]
  have hsignal : follower.signal = c.follower.signal := by rw [hs.left]
  have hstarts : c.follower.starts frame true = (c.follower.trigger.wakened frame &&
      (c.follower.isPending && !c.follower.trigger.recording)) := by
    rw [Follower.starts, Bool.and_true]
  have hold := h.pending
  rw [hstarts] at hrecording
  refine ⟨⟨hs.wired h.wired, hupstream.trans h.upstream, fun l hl => ?_, ?_⟩, ?_, ?_⟩
  · rw [hsignal]
    exact h.signals l hl
  · show follower.reports = true → follower.trigger.recording = false → follower.isPending = true
    rw [hreports, hrecording, hpending]
    intro hon hrec
    rw [hon, Bool.and_true, Bool.or_eq_false_iff] at hrec
    obtain ⟨hrec, hnot⟩ := hrec
    -- Nothing was started although there is a notification, so it was not looked at.
    rw [hold hon hrec, hrec] at hnot
    rw [hold hon hrec]
    simpa using hnot
  · show follower.trigger.recording = true → follower.reports = true
    rw [hreports, hrecording, Bool.and_eq_true]
    exact And.right
  · intro hlooks
    have hwakened : c.follower.trigger.wakened frame = true := by
      rcases hlooks with hk | hf <;> simp [CascadingTrigger.wakened, *]
    show follower.trigger.recording = true ↔ follower.reports = true
    rw [hreports, hrecording, hwakened, Bool.and_eq_true]
    refine ⟨And.right, fun hon => ⟨?_, hon⟩⟩
    cases hrec : c.follower.trigger.recording with
    | true => rfl
    | false =>
      rw [hold hon hrec]
      rfl

/-- **A call keeps what holds between calls.** -/
theorem move {m : Move} (h : c.Sound) (hc : c.move m = some c') : c'.Sound := by
  rcases move_cases hc with rfl | ⟨i, l, step, hl, rfl, htold⟩ | ⟨a, frame, rfl⟩
  · exact h
  · exact h.lead hl htold
  · exact (h.step hc).1

theorem moves {ms : List Move} (h : c.Sound) (hc : c.moves ms = some c') : c'.Sound := by
  induction ms generalizing c with
  | nil =>
    obtain rfl := Option.some.inj hc
    exact h
  | cons m ms ih =>
    obtain ⟨c₁, hm, hms⟩ := Option.bind_eq_some_iff.mp hc
    exact ih (h.move hm) hms

end Sound

/-- No call changes whether the follower keeps frames. -/
theorem keepsFrames_move {m : Move} (hc : c.move m = some c') :
    c'.follower.trigger.keepsFrames = c.follower.trigger.keepsFrames := by
  rcases move_cases hc with rfl | ⟨i, l, step, -, rfl, -⟩ | ⟨a, frame, rfl⟩
  · rfl
  · rfl
  · obtain ⟨follower, hf, rfl⟩ := Option.map_eq_some_iff.mp hc
    obtain ⟨frames, hs⟩ := Follower.stepped hf
    show follower.trigger.keepsFrames = _
    rw [hs.trigger]

theorem keepsFrames_moves {ms : List Move} (hc : c.moves ms = some c') :
    c'.follower.trigger.keepsFrames = c.follower.trigger.keepsFrames := by
  induction ms generalizing c with
  | nil =>
    obtain rfl := Option.some.inj hc
    rfl
  | cons m ms ih =>
    obtain ⟨c₁, hm, hms⟩ := Option.bind_eq_some_iff.mp hc
    exact (ih hms).trans (keepsFrames_move hm)

/-- **The follower records exactly if a leader reports motion**, as soon as it has looked. Until
then, it does not record without motion, and is not going to miss any. -/
theorem records_iff_reports (e : Exchange) (leaders : List Leader) (t : CascadingTrigger)
    (hhubs : ∀ l ∈ leaders, l.hub < e.hubs.length)
    (hsignals : ∀ l ∈ leaders, ∀ s ∈ l.signal, s < e.signals.length)
    (hquiet : ∀ l ∈ leaders, e.motion l.hub = false) (ms : List Move) (c : Convoy)
    (hc : (form e leaders t).moves ms = some c) :
    (c.follower.reports = true → c.follower.trigger.recording = false →
      c.follower.isPending = true) ∧
    ∀ a frame c', c.move (.step a frame) = some c' →
      (c'.follower.trigger.recording = true → c'.follower.reports = true) ∧
      (t.keepsFrames = false ∨ frame.isSome = true →
        (c'.follower.trigger.recording = true ↔ c'.follower.reports = true)) := by
  have h : c.Sound := (sound_form hhubs hsignals hquiet).moves hc
  refine ⟨h.pending, fun a frame c' hstep => ?_⟩
  obtain ⟨-, hrec, hiff⟩ := h.step hstep
  refine ⟨hrec, fun hlooks => hiff ?_⟩
  rw [keepsFrames_moves hc]
  exact hlooks

/-- The second of two leaders begins to record. The follower has no frame in its first round, and
records in the second one. -/
theorem records_iff_reports_hall :
    let told : Answers := ⟨motionDefaults, true, false, (0.0, 0.0), .ok 0, fun _ => .ok (),
      fun _ => .refused ""⟩
    let f : Frame := ⟨0, 1, 1, .rgb, [0, 0, 0], by decide⟩
    let hall := MotionTrigger.create "hall" "lens" (.builtin fun _ => none)
    let yard : CascadingTrigger := ⟨"yard", "pond", 1, true, false, .empty, 0⟩
    let c := form ⟨[some .fresh, some .fresh], [], []⟩ [⟨hall, 0, none⟩, ⟨hall, 1, none⟩] yard
    ∃ c₁ c₂, c.moves [.processFrame 1 told f true, .step told none] = some c₁ ∧
      c₁.move (.step told (some f)) = some c₂ ∧
      (c₁.follower.reports = true → c₁.follower.trigger.recording = false →
        c₁.follower.isPending = true) ∧
      c₁.follower.reports = true ∧
      (c₂.follower.trigger.recording = true ↔ c₂.follower.reports = true) := by
  intro told f hall yard c
  refine ⟨_, _, rfl, rfl, ?_⟩
  have h := records_iff_reports ⟨[some .fresh, some .fresh], [], []⟩
    [⟨hall, 0, none⟩, ⟨hall, 1, none⟩] yard (by decide) (by decide) (by decide)
    [.processFrame 1 told f true, .step told none] _ rfl
  exact ⟨h.1, by decide, (h.2 told (some f) _ rfl).2 (.inr rfl)⟩

end Convoy

end MotionWatch
