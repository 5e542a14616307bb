import MotionWatch.Trigger.Motion

/-!
# Simulated recorders

A simulated recorder only says what it would record.
-/

namespace MotionWatch

/-- A recorder that counts its recordings. -/
structure SimulatedRecorder where
  name : String
  recordings : Nat
  deriving DecidableEq, Repr

namespace SimulatedRecorder

/-- A recorder that was not used yet. -/
def create (name : String) : SimulatedRecorder := ⟨name, 0⟩

/-- Begins a recording with so many frames from before. -/
def start (r : SimulatedRecorder) (frames : Nat) (event : Option Nat) :
    SimulatedRecorder × LogRecord :=
  ({ r with recordings := r.recordings + 1 },
    ⟨.info, s!"{r.name}: recording (event {describeEvent event}, {frames} pre-recorded frames)"⟩)

/-- Ends a recording. -/
def stop (r : SimulatedRecorder) : LogRecord := ⟨.info, s!"{r.name}: recording stopped"⟩

end SimulatedRecorder

end MotionWatch
