import MotionWatch.Proofs.Trigger.Reaction
import MotionWatch.Trigger.MotionRun

/-!
# Rounds of a motion trigger

Most of a round is about frames, time and the operator. What a trigger decides, it decides in the
only call that a round makes.

* `Aside`: actions that only look around.
* `Looks`: what a round does that decides nothing.
* `Round`: what a round can do. `round_step`: it does one of these things.
* `Closed`: a trigger that has returned is not recording. `closed_rounds`: none is.
-/

namespace MotionWatch

/-- Records, getting frames and waiting. -/
def Aside (l : List Action) : Prop := ∀ x ∈ l, x.concern = .log ∨ x.concern = .input

theorem aside_nil : Aside [] := nofun

theorem aside_singleton {x : Action} (h : x.concern = .log ∨ x.concern = .input) : Aside [x] := by
  intro y hy
  rw [List.mem_singleton.mp hy]
  exact h

/-- A reading that finds nothing in records and in getting frames finds nothing in asides. -/
theorem Aside.filterMap_eq_nil {β : Type} {g : Action → Option β} {l : List Action} (h : Aside l)
    (hlog : ∀ x : Action, x.concern = .log → g x = none)
    (hinput : ∀ x : Action, x.concern = .input → g x = none) : l.filterMap g = [] :=
  List.filterMap_eq_nil_iff.mpr fun x hx => (h x hx).elim (hlog x) (hinput x)

/-- Some rounds, and then some more. -/
theorem Run.rounds_add {τ π ε σ : Type} (step : Run τ π ε σ → Run τ π ε σ) (k n : Nat)
    (r : Run τ π ε σ) : rounds step (k + n) r = rounds step n (rounds step k r) := by
  induction k generalizing r with
  | zero => rw [Nat.zero_add, rounds]
  | succ k ih => rw [Nat.succ_add, rounds, rounds, ih]

namespace MotionTrigger

variable {σ : Type} {h : Host σ} {r r' : Running σ}

/-- What a round does that decides nothing. The detector may learn a reference, and the time of a
frame is noted. If the run is going to end, it has not crashed. -/
inductive Looks (r r' : Running σ) : Prop
  | intro (l : List Action) (detector : MotionDetector) (lastTs : Nat) (aside : Aside l)
    (trigger : r'.trigger = { r.trigger with detector, lastTs }) (trace : r'.trace = r.trace ++ l)
    (stage : r'.stage = r.stage ∨ (∃ phase, r'.stage = .going phase) ∨
      r'.stage = .ending .completed ∨ ∃ cause, r'.stage = .ending (.failed cause))

/-- A round that does nothing. -/
theorem Looks.rest (trigger : r'.trigger = r.trigger) (trace : r'.trace = r.trace)
    (stage : r'.stage = r.stage ∨ r'.stage = .ending .completed ∨
      ∃ cause, r'.stage = .ending (.failed cause)) : Looks r r' :=
  .intro [] r.trigger.detector r.trigger.lastTs aside_nil trigger
    (trace.trans (List.append_nil _).symm) (stage.imp_right .inr)

/-- What a round does. -/
inductive Round (r r' : Running σ) : Prop
  /-- Nothing is decided. The detector may learn a reference, and the time of a frame is noted. -/
  | looks (l : List Action) (detector : MotionDetector) (lastTs : Nat) (aside : Aside l)
    (trigger : r'.trigger = { r.trigger with detector, lastTs }) (trace : r'.trace = r.trace ++ l)
    (outcome : r'.outcome? = r.outcome? ∨ ∃ cause, r'.outcome? = some (.crashed cause))
  /-- A frame is processed. -/
  | frame (a : Answers) (f : Frame) (allow : Bool) (before actions after : List Action)
    (asides : Aside before ∧ Aside after)
    (call : { r.trigger with lastTs := f.ts }.processFrame a f allow = .ok (r'.trigger, actions))
    (trace : r'.trace = r.trace ++ (before ++ actions ++ after))
    (outcome : r'.outcome? = none ∨ ∃ cause, r'.outcome? = some (.crashed cause))
  /-- Everything is stopped. -/
  | ends (a : Answers) (trigger : r'.trigger = (r.trigger.shutdown a).1)
    (trace : r'.trace = r.trace ++ (r.trigger.shutdown a).2)

theorem aside_ready (t : MotionTrigger) : Aside t.ready := by
  unfold ready
  split
  · exact aside_singleton (.inl rfl)
  · exact aside_nil

/-- A round that does nothing. -/
theorem Round.rest (trigger : r'.trigger = r.trigger) (trace : r'.trace = r.trace)
    (outcome : r'.outcome? = r.outcome? ∨ ∃ cause, r'.outcome? = some (.crashed cause)) :
    Round r r' :=
  .looks [] r.trigger.detector r.trigger.lastTs aside_nil trigger
    (trace.trans (List.append_nil _).symm) outcome

theorem looks_warmUpRound (seen : Nat) (last : Option Frame) :
    Looks r (warmUpRound h seen last r) := by
  unfold warmUpRound
  split
  · cases last with
    | none => exact .intro _ _ _ (aside_ready _) rfl rfl (.inr (.inl ⟨_, rfl⟩))
    | some f =>
      unfold finishWarmUp
      dsimp only
      split
      · exact .rest rfl rfl (.inr (.inr ⟨_, rfl⟩))
      · exact .intro _ _ _ (aside_ready _) rfl rfl (.inr (.inl ⟨_, rfl⟩))
  split
  · exact .rest rfl rfl (.inr (.inl rfl))
  dsimp only
  split
  · exact .intro _ _ _ (aside_singleton (.inr rfl)) rfl rfl (.inl rfl)
  · exact .intro _ _ _ (aside_singleton (.inr rfl)) rfl rfl (.inr (.inl ⟨_, rfl⟩))

theorem Looks.round (hl : Looks r r') (hout : r.outcome? = none) : Round r r' := by
  obtain ⟨l, detector, lastTs, aside, trigger, trace, stage⟩ := hl
  refine .looks l detector lastTs aside trigger trace (.inl ?_)
  rw [hout, Run.outcome?]
  rcases stage with hs | ⟨phase, hs⟩ | hs | ⟨cause, hs⟩
  · rw [hs]
    exact hout
  · rw [hs]
  · rw [hs]
  · rw [hs]

/-- Waiting does nothing else, unless the rate is impossible. -/
theorem pace_spec (r : Running σ) :
    ∃ l, Aside l ∧ (pace h r).trigger = r.trigger ∧ (pace h r).trace = r.trace ++ l ∧
      ((pace h r).outcome? = r.outcome? ∨
        ∃ cause, (pace h r).outcome? = some (.crashed cause)) := by
  unfold pace
  split
  · exact ⟨[], aside_nil, rfl, (List.append_nil _).symm, .inr ⟨_, rfl⟩⟩
  · split
    · exact ⟨[], aside_nil, rfl, (List.append_nil _).symm, .inl rfl⟩
    · exact ⟨_, aside_singleton (.inr rfl), rfl, rfl, .inl rfl⟩
    · exact ⟨[], aside_nil, rfl, (List.append_nil _).symm, .inr ⟨_, rfl⟩⟩

theorem round_watch (hout : r.outcome? = none) : Round r (watch h r) := by
  unfold watch
  dsimp only
  split
  · exact .looks _ _ _ (aside_singleton (.inr rfl)) rfl rfl (.inl rfl)
  next f _ =>
  unfold watchFrame
  split
  · next step hstep =>
    obtain ⟨l, hl, htrigger, htrace, hpaced⟩ := pace_spec (h := h) (Run.proceed _ h step)
    refine .frame _ f _ [.fetch false r.trigger.lastTs] step.2 l
      ⟨aside_singleton (.inr rfl), hl⟩ (hstep.trans ?_) ?_
      (hpaced.imp_left fun hsame => hsame.trans hout)
    · rw [htrigger]
      rfl
    · rw [htrace]
      show r.trace ++ [Action.fetch false r.trigger.lastTs] ++ step.2 ++ l = _
      simp only [List.append_assoc]
  · exact .looks _ _ f.ts (aside_singleton (.inr rfl)) rfl rfl (.inl hout.symm)
  · exact .looks _ _ f.ts (aside_singleton (.inr rfl)) rfl rfl (.inr ⟨_, rfl⟩)

/-- **A round does one of these things.** -/
theorem round_step (h : Host σ) (r : Running σ) : Round r (step h r) := by
  unfold step
  split
  · next hs => exact (looks_warmUpRound _ _).round (by rw [Run.outcome?, hs])
  · next hs =>
    have hout : r.outcome? = none := by rw [Run.outcome?, hs]
    unfold Run.round
    split
    · exact round_watch hout
    · exact .rest rfl rfl (.inl hout.symm)
    · exact .rest rfl rfl (.inl rfl)
  · exact .ends (h.answers r.world) rfl rfl
  · exact .rest rfl rfl (.inl rfl)

/-! ## Runs -/

/-- What every round keeps holds throughout a run. -/
theorem rounds_keep {P : Running σ → Prop} (hr : P r) (keep : ∀ r r', P r → Round r r' → P r')
    (k : Nat) : P (Run.rounds (step h) k r) := by
  induction k generalizing r with
  | zero => exact hr
  | succ k ih => exact ih (keep r _ hr (round_step h r))

/-- A trigger that has returned is not recording, unless it crashed. -/
def Closed (r : Running σ) : Prop :=
  ∀ o, r.outcome? = some o → (∀ cause, o ≠ .crashed cause) → r.trigger.counters.recording = false

theorem Round.closed (hr : Round r r') (hs : Closed r) : Closed r' := by
  intro o ho hcrash
  cases hr with
  | looks l detector lastTs aside trigger trace outcome =>
    rw [trigger]
    obtain hsame | ⟨cause, hcause⟩ := outcome
    · exact hs o (hsame.symm.trans ho) hcrash
    · exact absurd (Option.some.inj (ho.symm.trans hcause)) (hcrash cause)
  | frame a f allow before actions after asides call trace outcome =>
    obtain hnone | ⟨cause, hcause⟩ := outcome
    · rw [hnone] at ho
      cases ho
    · exact absurd (Option.some.inj (ho.symm.trans hcause)) (hcrash cause)
  | ends a trigger trace => rw [trigger, shutdown_fst]

theorem closed_rounds (t : MotionTrigger) (world : σ) (k : Nat) :
    Closed (Run.rounds (step h) k (startRun h t world)) :=
  rounds_keep (fun _ => nofun) (fun _ _ hs hr => hr.closed hs) k

end MotionTrigger

end MotionWatch
