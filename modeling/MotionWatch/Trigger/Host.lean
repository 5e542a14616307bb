import MotionWatch.Trigger.Action
import MotionWatch.Worker.Control

/-!
# Running a trigger

A trigger runs in rounds. In every round it looks at its control, asks its host for what it needs
and has the host do what is to be done. The host stands for everything around the trigger: the
camera, the schedule, other triggers and the administrator, who may do something whenever the host
is asked.

* `Host`: the surroundings.
* `Run`: a trigger while it runs, with the trace of all its actions.
* `Run.rounds`: so many rounds.
-/

namespace MotionWatch

/-- The surroundings of a trigger, whose state is `σ`. -/
structure Host (σ : Type) where
  /-- What the trigger was asked to do. -/
  control : σ → Control
  /-- What happens while the trigger is paused. -/
  idle : σ → σ
  /-- Whether the schedule allows to record. -/
  isAllowed : σ → Bool × σ
  /-- The next frame, if there is one in time. -/
  nextFrame : (block : Bool) → (after : Nat) → σ → Option Frame × σ
  /-- The next samples, or why there are none. -/
  nextSamples : Nat → σ → Except String (List Int) × σ
  answers : σ → Answers
  perform : Action → σ → σ

/-- How a run ends. -/
inductive Outcome (ε : Type) where
  | completed
  | failed (cause : ε)
  /-- The program is wrong, and nothing is cleaned up. -/
  | crashed (cause : Option Misuse)
  deriving DecidableEq, Repr

/-- How far a run is. -/
inductive Stage (π ε : Type) where
  | going (phase : π)
  /-- Everything is going to be stopped. -/
  | ending (outcome : Outcome ε)
  | returned (outcome : Outcome ε)

/-- A trigger `τ` while it runs. -/
structure Run (τ π ε σ : Type) where
  trigger : τ
  stage : Stage π ε
  world : σ
  /-- All actions so far. -/
  trace : List Action

namespace Run

variable {τ π ε σ : Type}

/-- Has actions done. -/
def act (r : Run τ π ε σ) (h : Host σ) (actions : List Action) : Run τ π ε σ :=
  { r with
    world := actions.foldl (fun w a => h.perform a w) r.world
    trace := r.trace ++ actions }

/-- Goes on with another trigger state, after its actions are done. -/
def proceed (r : Run τ π ε σ) (h : Host σ) (step : τ × List Action) : Run τ π ε σ :=
  { r.act h step.2 with trigger := step.1 }

/-- Gets a frame. The host does that itself. -/
def fetch (r : Run τ π ε σ) (h : Host σ) (block : Bool) (after : Nat) :
    Option Frame × Run τ π ε σ :=
  let (frame, world) := h.nextFrame block after r.world
  (frame, { r with world, trace := r.trace ++ [.fetch block after] })

/-- Asks the schedule. -/
def askSchedule (r : Run τ π ε σ) (h : Host σ) : Bool × Run τ π ε σ :=
  let (allow, world) := h.isAllowed r.world
  (allow, { r with world })

/-- The same run at another stage. -/
def goTo (r : Run τ π ε σ) (stage : Stage π ε) : Run τ π ε σ := { r with stage }

/-- Whether the run has returned. -/
def outcome? (r : Run τ π ε σ) : Option (Outcome ε) :=
  match r.stage with
  | .returned o => some o
  | _ => none

/-- A round of a loop: it ends on a stop, waits out a pause, and else goes through its body. -/
def round (h : Host σ) (body : Run τ π ε σ → Run τ π ε σ) (r : Run τ π ε σ) : Run τ π ε σ :=
  match (h.control r.world).check? with
  | some true => body r
  | some false => r.goTo (.ending .completed)
  | none => { r with world := h.idle r.world }

/-- So many rounds. -/
def rounds (step : Run τ π ε σ → Run τ π ε σ) : Nat → Run τ π ε σ → Run τ π ε σ
  | 0, r => r
  | n + 1, r => rounds step n (step r)

end Run

end MotionWatch
