import MotionWatch.Trigger.Host

/-!
# Audio triggers

An audio trigger listens to a microphone, and tells its subscribers whenever enough loud samples
were heard within a tenth of a second.

* `AudioTrigger.process`: what is to be done about samples.
* `AudioTrigger.startRun`, `step`: running it.
-/

namespace MotionWatch

/-- A trigger that listens to a microphone. -/
structure AudioTrigger where
  id : String
  /-- The size at which a sample is loud. -/
  threshold : Nat
  /-- The number of loud samples that are needed. -/
  minLoud : Nat
  /-- Samples per second. -/
  rate : Nat
  deriving DecidableEq, Repr

namespace AudioTrigger

/-- The record of a text about this trigger. -/
def say (t : AudioTrigger) (level : Level) (text : String) : Action :=
  .log ⟨level, s!"{t.id}: {text}"⟩

/-- The number of loud samples. -/
def loud (t : AudioTrigger) (samples : List Int) : Nat :=
  samples.countP fun s => t.threshold ≤ s.natAbs

/-- Whether enough samples are loud. -/
def hears (t : AudioTrigger) (samples : List Int) : Bool := t.minLoud ≤ t.loud samples

/-- What is to be done about samples. -/
def process (t : AudioTrigger) (samples : List Int) : List Action :=
  t.say .trace s!"{t.loud samples}/{samples.length} loud samples" ::
    if t.hears samples then
      [t.say .debug s!"audio trigger ({t.loud samples} samples)", .notify t.id]
    else []

/-- The number of samples in a tenth of a second. -/
def blockLength (t : AudioTrigger) : Nat := max (t.rate / 10) 1

/-! ## Running -/

/-- An audio trigger while it runs. -/
abbrev Running (σ : Type) := Run AudioTrigger Unit Empty σ

variable {σ : Type}

/-- How long a microphone that cannot be read is left alone. -/
def retryDelay : Nat := 100000000

/-- The body of the loop. -/
def hear (h : Host σ) (r : Running σ) : Running σ :=
  let n := r.trigger.blockLength
  let (samples, world) := h.nextSamples n r.world
  let r : Running σ := { r with world, trace := r.trace ++ [.listen n] }
  match samples with
  | .ok samples => r.act h (r.trigger.process samples)
  | .error e => r.act h [r.trigger.say .warn s!"cannot read audio: {e}", .sleep retryDelay]

/-- The start of a run. -/
def startRun (h : Host σ) (t : AudioTrigger) (world : σ) : Running σ :=
  ({ trigger := t, stage := .going (), world, trace := [] } : Running σ).act h
    [t.say .info s!"listening ({t.blockLength} samples per read)"]

/-- One round of a run. There is nothing to be stopped in the end. -/
def step (h : Host σ) (r : Running σ) : Running σ :=
  match r.stage with
  | .going () => r.round h (hear h)
  | .ending o => r.goTo (.returned o)
  | .returned _ => r

end AudioTrigger

end MotionWatch
