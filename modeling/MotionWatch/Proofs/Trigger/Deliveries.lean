import MotionWatch.Trigger.MotionRun

/-!
# What a camera delivers in a run

A run does not keep the frames that it gets. To speak of them, its surroundings note every frame
that they deliver, and the run is the same.

* `Host.noting`: surroundings that note the frames.
* `Run.forget`: a run without what was noted; `forget_step`, `forget_rounds`: noting changes
  nothing else.
* `MotionTrigger.delivered`: the frames of a run, in order.
-/

namespace MotionWatch

variable {σ τ π ε : Type}

/-- Surroundings that note every frame that they deliver. -/
def Host.noting (h : Host σ) : Host (σ × List Frame) where
  control w := h.control w.1
  idle w := (h.idle w.1, w.2)
  isAllowed w := ((h.isAllowed w.1).1, (h.isAllowed w.1).2, w.2)
  nextFrame block after w :=
    ((h.nextFrame block after w.1).1, (h.nextFrame block after w.1).2,
      w.2 ++ (h.nextFrame block after w.1).1.toList)
  nextSamples n w := ((h.nextSamples n w.1).1, (h.nextSamples n w.1).2, w.2)
  answers w := h.answers w.1
  perform a w := (h.perform a w.1, w.2)

namespace Run

variable {h : Host σ} {r : Run τ π ε (σ × List Frame)}

/-- The run without what was noted. -/
def forget (r : Run τ π ε (σ × List Frame)) : Run τ π ε σ := { r with world := r.world.1 }

/-- The frames that were noted. -/
def frames (r : Run τ π ε (σ × List Frame)) : List Frame := r.world.2

@[simp] theorem trigger_askSchedule {h : Host σ} {r : Run τ π ε σ} :
    (r.askSchedule h).2.trigger = r.trigger := rfl

@[simp] theorem forget_trigger : r.forget.trigger = r.trigger := rfl

@[simp] theorem forget_stage : r.forget.stage = r.stage := rfl

@[simp] theorem forget_goTo (stage : Stage π ε) :
    (r.goTo stage).forget = r.forget.goTo stage := rfl

theorem fetch_noting (block : Bool) (after : Nat) :
    (r.fetch h.noting block after).1 = (r.forget.fetch h block after).1 := rfl

@[simp] theorem forget_askSchedule :
    (r.askSchedule h.noting).2.forget = (r.forget.askSchedule h).2 := rfl

theorem foldl_perform_noting (actions : List Action) (w : σ × List Frame) :
    actions.foldl (fun w a => h.noting.perform a w) w =
      (actions.foldl (fun w a => h.perform a w) w.1, w.2) := by
  induction actions generalizing w with
  | nil => rfl
  | cons a actions ih => exact ih _

@[simp] theorem forget_act (actions : List Action) :
    (r.act h.noting actions).forget = r.forget.act h actions := by
  simp only [act, forget, foldl_perform_noting]

@[simp] theorem frames_act (actions : List Action) :
    (r.act h.noting actions).frames = r.frames := by
  simp only [act, frames, foldl_perform_noting]

@[simp] theorem forget_proceed (step : τ × List Action) :
    (r.proceed h.noting step).forget = r.forget.proceed h step := by
  simp only [proceed, ← forget_act]
  rfl

@[simp] theorem frames_proceed (step : τ × List Action) :
    (r.proceed h.noting step).frames = r.frames := frames_act (r := r) step.2

end Run

namespace MotionTrigger

variable {h : Host σ} {r : Running (σ × List Frame)}

theorem forget_finishWarmUp (last : Option Frame) :
    (finishWarmUp h.noting last r).forget = finishWarmUp h last r.forget := by
  unfold finishWarmUp
  cases last with
  | none => rw [Run.forget_goTo, Run.forget_act]; rfl
  | some f =>
    dsimp only [Run.forget_trigger]
    cases r.trigger.detector.prime f with
    | error e => rfl
    | ok detector => rw [Run.forget_goTo, Run.forget_proceed]

theorem forget_warmUpRound (seen : Nat) (last : Option Frame) :
    (warmUpRound h.noting seen last r).forget = warmUpRound h seen last r.forget := by
  unfold warmUpRound
  have hcontrol : h.noting.control r.world = h.control r.forget.world := rfl
  rw [apply_ite Run.forget, apply_ite Run.forget, hcontrol, forget_finishWarmUp, Run.forget_goTo]
  refine ite_congr rfl (fun _ => rfl) fun _ => ite_congr rfl (fun _ => rfl) fun _ => ?_
  dsimp only [Run.forget_trigger]
  rw [Run.fetch_noting]
  cases (r.forget.fetch h true r.trigger.lastTs).1 <;> rfl

theorem forget_pace : (pace h.noting r).forget = pace h r.forget := by
  unfold pace
  have hanswers : h.noting.answers r.world = h.answers r.forget.world := rfl
  rw [hanswers]
  cases (h.answers r.forget.world).params.getDouble ParameterName.maxFps with
  | error e => rfl
  | ok rate =>
    dsimp only
    cases periodOf rate with
    | unlimited => rfl
    | nanoseconds n => exact Run.forget_act _
    | unbounded => rfl

theorem forget_watchFrame (allow : Bool) (f : Frame) :
    (watchFrame h.noting allow f r).forget = watchFrame h allow f r.forget := by
  unfold watchFrame
  have hanswers : h.noting.answers r.world = h.answers r.forget.world := rfl
  rw [hanswers, Run.forget_trigger]
  cases r.trigger.processFrame (h.answers r.forget.world) f allow with
  | ok step => rw [forget_pace, Run.forget_proceed]
  | error e => cases e <;> rfl

theorem forget_watch : (watch h.noting r).forget = watch h r.forget := by
  unfold watch
  dsimp only [Run.trigger_askSchedule, Run.forget_trigger]
  rw [Run.fetch_noting, Run.forget_askSchedule]
  cases ((r.forget.askSchedule h).2.fetch h false r.trigger.lastTs).1 with
  | none => rfl
  | some f => exact forget_watchFrame _ f

theorem forget_step : (step h.noting r).forget = step h r.forget := by
  unfold step
  dsimp only [Run.forget_stage]
  cases r.stage with
  | going phase =>
    cases phase with
    | warmingUp seen last => exact forget_warmUpRound seen last
    | watching =>
      unfold Run.round
      have hcontrol : h.noting.control r.world = h.control r.forget.world := rfl
      rw [hcontrol]
      cases (h.control r.forget.world).check? with
      | none => rfl
      | some go =>
        cases go with
        | true => exact forget_watch
        | false => rfl
  | ending o => rw [Run.forget_goTo, Run.forget_proceed]; rfl
  | returned o => rfl

theorem forget_rounds (k : Nat) :
    (Run.rounds (step h.noting) k r).forget = Run.rounds (step h) k r.forget := by
  induction k generalizing r with
  | zero => rfl
  | succ k ih => rw [Run.rounds, ih, forget_step]; rfl

/-- The frames that a trigger gets in the first `k` rounds of a run. -/
def delivered (h : Host σ) (t : MotionTrigger) (world : σ) (k : Nat) : List Frame :=
  (Run.rounds (step h.noting) k (startRun h.noting t (world, []))).frames

theorem forget_startRun (t : MotionTrigger) (world : σ) (frames : List Frame) :
    (startRun h.noting t (world, frames)).forget = startRun h t world := Run.forget_act _

end MotionTrigger
end MotionWatch
