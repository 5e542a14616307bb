import MotionWatch.Proofs.Mask.Copies
import MotionWatch.Proofs.Raster

/-!
# Requests for a mask

A mask is requested at one resolution after the other, and every answer is the one that a mask fresh
from the same bits would give. It has an entry for every pixel unless the size does not fit where it
is counted.

* `SelectionMask.serve`: the answers to some requests, and the mask that is left.
* `Copies.serve`: they do not matter for each other.
* `IsCutOff`: a request for more than fits. `size_bitsAt_eq_iff`: these are the ones whose answers
  lack pixels.
* `serve_ofBits`: both for a mask that is made of bits. `long_request_is_empty`: a request that is
  cut off.
-/

namespace MotionWatch.SelectionMask

variable {m original : SelectionMask} {width height : Nat} {bits : List Bool}

/-- The answers to requests that come one after the other, and the mask that is left. -/
def serve (m : SelectionMask) : List (Nat × Nat) → List (Array Bool) × SelectionMask
  | [] => ([], m)
  | (width, height) :: requests =>
    let (bits, next) := m.get width height
    let (answers, last) := next.serve requests
    (bits :: answers, last)

/-- **Requests do not matter for each other.** -/
theorem Copies.serve (h : m.Copies original) (requests : List (Nat × Nat)) :
    (m.serve requests).1 = requests.map (fun r => original.bitsAt r.1 r.2) ∧
      (m.serve requests).2.Copies original := by
  induction requests generalizing m with
  | nil => exact ⟨rfl, h⟩
  | cons r requests ih =>
    obtain ⟨hanswers, hlast⟩ := ih (h.get r.1 r.2)
    refine ⟨?_, hlast⟩
    rw [List.map_cons, ← h.get_fst, ← hanswers]
    rfl

/-! ## Sizes that are cut off -/

/-- A request for more than fits: the sides of a picture that is drawn are cut off. -/
def IsCutOff (m : SelectionMask) (width height : Nat) : Prop :=
  (width, height) ≠ m.dim ∧ (sideLimit ≤ width ∨ sideLimit ≤ height)

/-- The bits of a mask are enough for its picture. -/
theorem picture_le_size (h : m.bits.size = m.width * m.height) :
    m.picture.width * m.picture.height ≤ m.bits.size := by
  rw [h]
  exact Count.wrapSide_mul_wrapSide_le m.width m.height

/-- A mask is drawn from its picture, with sides that are measured anew. -/
theorem draw_eq_picture (h : m.bits.size = m.width * m.height) (hpos : 0 < width ∧ 0 < height) :
    m.draw width height =
      (resample m.picture (Count.wrapSide width) (Count.wrapSide height)).cells := by
  have hzero : ¬(width = 0 ∨ height = 0) := by omega
  rw [draw, if_neg hzero, if_neg (Nat.not_lt.mpr (picture_le_size h))]

/-- It is drawn with as many pixels as these sides make room for. -/
theorem size_draw (h : m.bits.size = m.width * m.height) (hpos : 0 < width ∧ 0 < height) :
    (m.draw width height).size = Count.wrapSide width * Count.wrapSide height := by
  rw [draw_eq_picture h hpos]
  exact Raster.wellSized_ofFn ..

/-- **An answer has an entry for every pixel** unless its size is cut off. -/
theorem size_bitsAt_eq_iff (h : m.bits.size = m.width * m.height) (width height : Nat) :
    (m.bitsAt width height).size = width * height ↔
      width * height = 0 ∨ ¬m.IsCutOff width height := by
  unfold IsCutOff
  by_cases hnative : (width, height) = m.dim
  · obtain ⟨rfl, rfl⟩ := Prod.mk.inj hnative
    rw [bitsAt_native]
    exact iff_of_true h (.inr fun hcut => hcut.1 rfl)
  rw [bitsAt_of_ne hnative]
  by_cases hzero : width = 0 ∨ height = 0
  · have hproduct : width * height = 0 := Nat.mul_eq_zero.mpr hzero
    rw [draw, if_pos hzero, hproduct]
    exact ⟨fun _ => .inl rfl, fun _ => rfl⟩
  have hpos : width * height ≠ 0 := Nat.mul_ne_zero (by omega) (by omega)
  rw [size_draw h (by omega), ← Count.fits_iff, Count.Fits, or_iff_right hpos, or_iff_right hpos,
    and_iff_right hnative]
  omega

/-! ## Masks made of bits -/

/-- **Nobody can tell that a copy is kept.** However often a mask that is made of bits is requested,
and at whatever sizes, every answer is the one that the new mask would give, and its size and bits
stay as they are. At its own size it gives these bits. An answer has an entry for every pixel if and
only if there are none or the size is not cut off. -/
theorem serve_ofBits (h : ofBits width height bits = .ok m) (requests : List (Nat × Nat)) :
    (m.serve requests).1 = requests.map (fun r => (m.get r.1 r.2).1) ∧
    (m.serve requests).2.dim = (width, height) ∧
    (m.serve requests).2.bits = bits.toArray ∧
    (m.get width height).1 = bits.toArray ∧
    ∀ w k, (m.get w k).1.size = w * k ↔ w * k = 0 ∨ ¬m.IsCutOff w k := by
  have hget := get_ofBits h
  obtain ⟨-, -, -, hlength, rfl⟩ := ofBits_eq_ok_iff.mp h
  obtain ⟨hanswers, hlast⟩ := (Copies.refl rfl).serve (m := ⟨width, height, bits.toArray, none⟩)
    requests
  refine ⟨?_, hlast.dim_eq, hlast.bits, ?_, fun w k => ?_⟩
  · rw [hanswers]
    exact List.map_congr_left fun r _ => (hget r.1 r.2).symm
  · rw [hget]
    exact bitsAt_native _
  · rw [hget]
    exact size_bitsAt_eq_iff hlength w k

/-- A mask of four pixels, of which one is selected. -/
def corner : SelectionMask := ⟨2, 2, #[true, false, false, false], none⟩

/-- Its answers when it is requested at its own size, at other ones and again. -/
theorem serve_ofBits_corner :
    ofBits 2 2 [true, false, false, false] = .ok corner ∧
    (corner.serve [(4, 4), (2, 2), (4, 4), (0, 3), (6, 6)]).1 =
      [(4, 4), (2, 2), (4, 4), (0, 3), (6, 6)].map (fun r => (corner.get r.1 r.2).1) ∧
    (corner.serve [(4, 4), (2, 2), (4, 4), (0, 3), (6, 6)]).2.dim = (2, 2) ∧
    (corner.serve [(4, 4), (2, 2), (4, 4), (0, 3), (6, 6)]).2.bits =
      #[true, false, false, false] ∧
    (corner.get 2 2).1 = #[true, false, false, false] ∧
    (corner.get 6 6).1.size = 36 := by
  have hmade : ofBits 2 2 [true, false, false, false] = .ok corner := rfl
  obtain ⟨hanswers, hdim, hbits, hnative, hsize⟩ :=
    serve_ofBits hmade [(4, 4), (2, 2), (4, 4), (0, 3), (6, 6)]
  refine ⟨hmade, hanswers, hdim, hbits, hnative, (hsize 6 6).mpr (.inr ?_)⟩
  unfold IsCutOff
  decide

/-- **A request that is cut off:** no pixel is left of a row of `2 ^ 32` pixels. -/
theorem long_request_is_empty :
    ofBits 1 1 [true] = .ok ⟨1, 1, #[true], none⟩ ∧
    ((⟨1, 1, #[true], none⟩ : SelectionMask).get 4294967296 1).1 = #[] ∧
    ((⟨1, 1, #[true], none⟩ : SelectionMask).get 4294967296 1).1.size ≠ 4294967296 * 1 := by
  refine ⟨rfl, ?_, ?_⟩ <;> decide

end MotionWatch.SelectionMask
