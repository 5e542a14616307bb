import MotionWatch.Simulation.Studio
import MotionWatch.Trigger.Audio
import MotionWatch.Trigger.Cascade
import MotionWatch.Trigger.MotionRun

/-!
# Running the triggers of a studio together

The triggers take turns: the one whose clock is behind the others goes through its next round. A
round takes some time even if nothing is waited for, so that all of them come to an end.

* `Worker`: a trigger between two rounds.
* `Studio.run`: all rounds of all triggers.
-/

namespace MotionWatch

/-- A trigger between two rounds of its run. -/
inductive Worker where
  | motion (trigger : MotionTrigger) (stage : Stage MotionTrigger.Phase MotionTrigger.Failure)
  | cascade (trigger : CascadingTrigger) (stage : Stage Unit Empty)
  | audio (trigger : AudioTrigger) (stage : Stage Unit Empty)

namespace Worker

/-- A worker and the studio after a round of a motion trigger. -/
def ofMotion (r : MotionTrigger.Running Studio) : Worker × Studio :=
  (.motion r.trigger r.stage, r.world)

/-- A worker and the studio after a round of a cascading trigger. -/
def ofCascade (r : CascadingTrigger.Running Studio) : Worker × Studio :=
  (.cascade r.trigger r.stage, r.world)

/-- A worker and the studio after a round of an audio trigger. -/
def ofAudio (r : AudioTrigger.Running Studio) : Worker × Studio :=
  (.audio r.trigger r.stage, r.world)

/-- The next round of a trigger. -/
def round (h : Host Studio) (s : Studio) : Worker → Worker × Studio
  | motion t stage => ofMotion (MotionTrigger.step h ⟨t, stage, s, []⟩)
  | cascade t stage => ofCascade (CascadingTrigger.step h ⟨t, stage, s, []⟩)
  | audio t stage => ofAudio (AudioTrigger.step h ⟨t, stage, s, []⟩)

/-- Whether a stage is the last one. -/
def isOver {π ε : Type} : Stage π ε → Bool
  | .returned _ => true
  | _ => false

/-- Whether a trigger has returned. -/
def isDone : Worker → Bool
  | motion _ stage => isOver stage
  | cascade _ stage => isOver stage
  | audio _ stage => isOver stage

end Worker

namespace Studio

/-- The nanoseconds that a round takes at least. -/
def tick : Nat := 1000000

/-- A round of the worker at a desk. -/
def round (s : Studio) (i : Nat) (w : Worker) : Worker × Studio :=
  let (w, s) := w.round (host i) (s.modifyDesk i fun d => { d with roundStart := d.clock })
  (w, s.modifyDesk i fun d => { d with clock := max d.clock (d.roundStart + tick) })

/-- The worker that is behind all others, with the number of its desk. -/
def nextWorker? (s : Studio) (workers : List Worker) : Option (Worker × Nat) :=
  (workers.zipIdx.filter fun w => !w.1.isDone).foldl
    (fun best w =>
      match best with
      | none => some w
      | some b => if s.clock w.2 < s.clock b.2 then some w else some b)
    none

/-- So many rounds, of whichever worker is behind. -/
def rounds : Nat → List Worker → Studio → Studio
  | 0, _, s => s
  | n + 1, workers, s =>
    match s.nextWorker? workers with
    | none => s
    | some (w, i) =>
      let (w, s) := s.round i w
      rounds n (workers.set i w) s

/-- So many rounds are enough for each worker: those before everything stops, and those in which
it stops. -/
def enoughRounds (s : Studio) : Nat := s.closing / tick + 4

/-- Runs the workers of all desks until all of them have returned. -/
def run (s : Studio) (workers : List Worker) : Studio :=
  rounds (workers.length * s.enoughRounds) workers s

end Studio

end MotionWatch
