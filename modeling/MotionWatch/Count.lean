/-!
# Counts

Pixels and bytes are counted in 64 bits, and a product that is greater stops the program. The
sides of a picture that is drawn anew are measured in 32 bits, and what does not fit is cut off.

* `maxCount`, `sideLimit`: the greatest count, and the least side that is too long.
* `Count.wrapSide`: a side as it is measured.
* `Count.Fits`: a size at which a picture keeps all its pixels; `Count.fits_iff`.
-/

namespace MotionWatch

/-- The greatest number that counts things in memory. -/
def maxCount : Nat := 18446744073709551615

/-- The number of columns or rows of a picture is less than this. -/
def sideLimit : Nat := 4294967296

namespace Count

variable {n width height : Nat}

/-- A side as it is measured in 32 bits. -/
def wrapSide (n : Nat) : Nat := n % sideLimit

theorem wrapSide_of_lt (h : n < sideLimit) : wrapSide n = n := Nat.mod_eq_of_lt h

theorem wrapSide_le (n : Nat) : wrapSide n ≤ n := Nat.mod_le ..

theorem wrapSide_lt_of_le (h : sideLimit ≤ n) : wrapSide n < n :=
  Nat.lt_of_lt_of_le (Nat.mod_lt n (by decide)) h

theorem wrapSide_mul_wrapSide_le (width height : Nat) :
    wrapSide width * wrapSide height ≤ width * height :=
  Nat.mul_le_mul (wrapSide_le width) (wrapSide_le height)

/-- A size at which no pixel is lost when the sides are measured anew: there is none, or neither
side is cut off. -/
def Fits (width height : Nat) : Prop :=
  width * height = 0 ∨ width < sideLimit ∧ height < sideLimit

instance (width height : Nat) : Decidable (Fits width height) :=
  inferInstanceAs (Decidable (_ ∨ _))

theorem fits_comm : Fits height width ↔ Fits width height := by
  rw [Fits, Fits, Nat.mul_comm, and_comm]

/-- A picture keeps all its pixels at a size that fits, and loses some at any other one. -/
theorem fits_iff : Fits width height ↔ wrapSide width * wrapSide height = width * height := by
  rw [iff_comm]
  rcases Nat.eq_zero_or_pos (width * height) with hzero | hpos
  · have hle := wrapSide_mul_wrapSide_le width height
    exact iff_of_true (by omega) (.inl hzero)
  have hw : 0 < width := Nat.pos_of_mul_pos_right hpos
  have hh : 0 < height := Nat.pos_of_mul_pos_left hpos
  constructor
  · intro heq
    refine .inr ⟨Nat.lt_of_not_le fun hlarge => ?_, Nat.lt_of_not_le fun hlarge => ?_⟩
    · have hlt := Nat.mul_lt_mul_of_lt_of_le (wrapSide_lt_of_le hlarge) (wrapSide_le height) hh
      exact absurd heq (Nat.ne_of_lt hlt)
    · have hlt := Nat.mul_lt_mul_of_le_of_lt (wrapSide_le width) (wrapSide_lt_of_le hlarge) hw
      exact absurd heq (Nat.ne_of_lt hlt)
  · rintro (hzero | ⟨hwidth, hheight⟩)
    · omega
    · rw [wrapSide_of_lt hwidth, wrapSide_of_lt hheight]

theorem mul_le_maxCount (hw : width < sideLimit) (hh : height < sideLimit) :
    width * height ≤ maxCount :=
  calc width * height ≤ 4294967295 * 4294967295 :=
        Nat.mul_le_mul (Nat.le_of_lt_succ hw) (Nat.le_of_lt_succ hh)
    _ ≤ maxCount := by decide

end Count

end MotionWatch
