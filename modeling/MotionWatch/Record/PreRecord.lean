/-!
# Frames from before a recording

The last frames are kept, so that a recording can begin before its cause. How many are kept is
said with each new frame, because it may be changed at any time.

* `PreRecord.push`: keeps a frame and drops the oldest ones.
* `PreRecord.take`: hands over all frames.
-/

namespace MotionWatch

/-- The last frames, the oldest first. -/
structure PreRecord (α : Type) where
  toList : List α
  deriving DecidableEq, Repr

namespace PreRecord

variable {α : Type}

/-- Without frames. -/
def empty : PreRecord α := ⟨[]⟩

instance : Inhabited (PreRecord α) := ⟨empty⟩

/-- The number of frames. -/
def length (b : PreRecord α) : Nat := b.toList.length

/-- Keeps a frame, and of the older ones as many as there is room for. Without any room, nothing
is kept. -/
def push (b : PreRecord α) (f : α) (capacity : Nat) : PreRecord α :=
  if capacity = 0 then empty else ⟨b.toList.drop (b.length + 1 - capacity) ++ [f]⟩

/-- All frames, and what is left. -/
def take (b : PreRecord α) : List α × PreRecord α := (b.toList, empty)

@[simp] theorem length_empty : (empty : PreRecord α).length = 0 := rfl

@[simp] theorem push_zero (b : PreRecord α) (f : α) : b.push f 0 = empty := rfl

theorem length_push (b : PreRecord α) (f : α) (capacity : Nat) :
    (b.push f capacity).length = min (b.length + 1) capacity := by
  unfold push
  split
  · next h => simp [h]
  · simp only [length, List.length_append, List.length_drop, List.length_singleton]
    omega

end PreRecord

end MotionWatch
