import MotionWatch.Detection.Statistics
import MotionWatch.Proofs.Mask.Sampling

/-!
# Masks that select everything

A mask all of whose pixels are selected selects every pixel of a picture, at whatever resolution
it was drawn, as long as no side is cut off.

* `SelectsAll`: every pixel of a picture is selected.
* `SelectionMask.IsFull`: a mask that selects everything. `Covers`: the sizes that it is good for.
* `IsFull.selectsAll_iff`: at these sizes it selects every pixel, and at no other ones.
-/

namespace MotionWatch

/-- Each of so many pixels is selected. -/
def SelectsAll (bits : Option (Array Bool)) (pixels : Nat) : Prop :=
  ∀ i < pixels, selects bits i = true

/-- Bits that select each of so many pixels are not fewer. -/
theorem SelectsAll.le_size {bits : Array Bool} {pixels : Nat}
    (h : SelectsAll (some bits) pixels) : pixels ≤ bits.size := by
  refine Nat.not_lt.mp fun hlt => ?_
  have hlast := h bits.size hlt
  simp [selects] at hlast

namespace SelectionMask

/-- A mask that selects all its pixels, and of which copies may have been drawn already. -/
structure IsFull (m : SelectionMask) : Prop where
  made : ofBits m.width m.height m.bits.toList = .ok { m with cache := none }
  kept : m.Copies m
  selected : ∀ b ∈ m.bits, b = true

/-- The sizes that a mask can be brought to: its own, and all whose sides are not cut off, unless
nothing is left of its own sides. -/
def Covers (m : SelectionMask) (width height : Nat) : Prop :=
  (width, height) = m.dim ∨
    (width < sideLimit ∧ height < sideLimit) ∧
      0 < Count.wrapSide m.width ∧ 0 < Count.wrapSide m.height

instance (m : SelectionMask) (width height : Nat) : Decidable (m.Covers width height) :=
  inferInstanceAs (Decidable (_ ∨ _))

variable {m : SelectionMask} {width height x y : Nat}

/-! ## The picture of a mask -/

theorem wellSized_picture (h : m.bits.size = m.width * m.height) : m.picture.WellSized := by
  have hle := picture_le_size h
  unfold picture at hle ⊢
  dsimp only [Raster.WellSized] at hle ⊢
  rw [Array.size_extract, Nat.min_eq_left hle, Nat.sub_zero]

/-- A picture without any pixels shows nothing. -/
theorem get_picture_of_empty (h : m.picture.width = 0 ∨ m.picture.height = 0) :
    m.picture.get x y = false := by
  have hcells : m.picture.cells.size ≤ m.picture.width * m.picture.height := by
    unfold picture
    dsimp only
    rw [Array.size_extract]
    omega
  rw [Nat.mul_eq_zero.mpr h] at hcells
  unfold Raster.get
  split
  · rw [Array.getD_eq_getD_getElem?, Array.getElem?_eq_none (by omega)]
    rfl
  · rfl

namespace IsFull

theorem size_eq (h : m.IsFull) : m.bits.size = m.width * m.height := by
  obtain ⟨-, -, -, hlength, -⟩ := ofBits_eq_ok_iff.mp h.made
  rwa [Array.length_toList] at hlength

/-- Its picture shows every pixel as selected. -/
theorem get_picture (h : m.IsFull) (hx : x < m.picture.width) (hy : y < m.picture.height) :
    m.picture.get x y = true := by
  have hcell := Raster.getElem?_toList (wellSized_picture h.size_eq) hx hy
  have hmem := List.mem_of_getElem? hcell
  unfold picture Raster.toList at hmem
  rw [Array.toList_extract, List.extract_eq_take_drop] at hmem
  exact h.selected _ (Array.mem_toList_iff.mp (List.mem_of_mem_drop (List.mem_of_mem_take hmem)))

/-- What is drawn of it, at a pixel. -/
theorem selects_draw (h : m.IsFull) (hw : width < sideLimit) (hh : height < sideLimit)
    (hpos : 0 < width ∧ 0 < height) {i : Nat} (hi : i < width * height) :
    selects (some (m.draw width height)) i =
      m.picture.get (sampleIndex m.picture.width width (i % width))
        (sampleIndex m.picture.height height (i / width)) := by
  obtain ⟨hx, hy, -⟩ := Raster.mod_div_index hi
  have hcell := Raster.getElem?_toList_of_lt (m := resample m.picture width height)
    (Raster.wellSized_ofFn ..) hi
  rw [Raster.toList, Array.getElem?_toList] at hcell
  rw [draw_eq_picture h.size_eq hpos, Count.wrapSide_of_lt hw, Count.wrapSide_of_lt hh,
    selects, Array.getD_eq_getD_getElem?, hcell]
  exact Raster.get_ofFn _ hx hy

/-- **A full mask is full at the sizes that it covers**, and at no other ones. -/
theorem selectsAll_iff (h : m.IsFull) (hpos : 0 < width ∧ 0 < height) :
    SelectsAll (some (m.bitsAt width height)) (width * height) ↔ m.Covers width height := by
  have hsize := h.size_eq
  have harea : 0 < width * height := Nat.mul_pos hpos.1 hpos.2
  by_cases hnative : (width, height) = m.dim
  · refine iff_of_true (fun i hi => ?_) (.inl hnative)
    obtain ⟨rfl, rfl⟩ := Prod.mk.inj hnative
    rw [← hsize] at hi
    rw [bitsAt_native, selects, Array.getD_eq_getD_getElem?, Array.getElem?_eq_getElem hi]
    exact h.selected _ (Array.getElem_mem hi)
  rw [bitsAt_of_ne hnative, Covers, or_iff_right hnative]
  by_cases hcut : width < sideLimit ∧ height < sideLimit
  · rw [and_iff_right hcut]
    obtain ⟨hw, hh⟩ := hcut
    constructor
    · intro hall
      have hfirst := hall 0 harea
      rw [h.selects_draw hw hh hpos harea] at hfirst
      refine Decidable.not_not.mp fun hempty => ?_
      have hnone : m.picture.width = 0 ∨ m.picture.height = 0 := by
        unfold picture
        dsimp only
        omega
      rw [get_picture_of_empty hnone] at hfirst
      exact Bool.false_ne_true hfirst
    · rintro ⟨hleft, hleft'⟩ i hi
      rw [h.selects_draw hw hh hpos hi]
      exact h.get_picture (sampleIndex_lt hleft ..) (sampleIndex_lt hleft' ..)
  · refine iff_of_false (fun hall => ?_) (fun hcovers => hcut hcovers.1)
    -- Some pixels are lost.
    have hle := hall.le_size
    rw [size_draw hsize hpos] at hle
    have hfits := Count.fits_iff.mpr (Nat.le_antisymm (Count.wrapSide_mul_wrapSide_le ..) hle)
    exact hcut (hfits.resolve_left (Nat.ne_of_gt harea))

end IsFull

end SelectionMask

end MotionWatch
