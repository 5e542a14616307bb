import MotionWatch.Proofs.Mask.Requests

/-!
# What a resampled mask shows

A mask at another size only shows native pixels, and which one depends on the sizes alone: the
columns are picked by themselves, and so are the rows. Whatever is done to every pixel by itself
may therefore be done before or after.

* `SelectionMask.draw_eq_resample`: what is drawn of a mask of a size that a picture can have.
* `Shows`: the columns and rows that are shown at a size. `Shows.native`, `shows_samples`: what they
  are.
* `Shows.map`, `Shows.zipWith`, `Shows.replicate`: what is done to every pixel by itself.
* `exists_shows_iff`: between which sizes there are such columns and rows.
  `not_shows_long_request`: sizes between which there are none.
-/

namespace MotionWatch

/-- The pixel that is shown is one of the native ones. -/
theorem sampleIndex_lt {native : Nat} (h : 0 < native) (wanted i : Nat) :
    sampleIndex native wanted i < native := by
  unfold sampleIndex
  dsimp only
  omega

namespace SelectionMask

variable {m m' : SelectionMask} {width height : Nat} {bits bits' : List Bool}

/-! ## Pictures -/

theorem picture_eq (hsize : m.bits.size = m.width * m.height) (hwidth : m.width < sideLimit)
    (hheight : m.height < sideLimit) : m.picture = ⟨m.width, m.height, m.bits⟩ := by
  rw [picture, Count.wrapSide_of_lt hwidth, Count.wrapSide_of_lt hheight, ← hsize,
    Array.extract_size]

/-- Between sizes that pictures can have, a mask is resampled. -/
theorem draw_eq_resample (hsize : m.bits.size = m.width * m.height) (hwidth : m.width < sideLimit)
    (hheight : m.height < sideLimit) (hw : width < sideLimit) (hh : height < sideLimit)
    (hpos : 0 < width ∧ 0 < height) :
    m.draw width height = (resample ⟨m.width, m.height, m.bits⟩ width height).cells := by
  rw [draw_eq_picture hsize hpos, picture_eq hsize hwidth hheight, Count.wrapSide_of_lt hw,
    Count.wrapSide_of_lt hh]

/-! ## Columns and rows -/

section Shows

variable {w k : Nat} {column row : Nat → Nat}

/-- Every mask of size `w` by `k` shows, at another size, the pixels of these of its columns and
rows. -/
structure Shows (w k width height : Nat) (column row : Nat → Nat) : Prop where
  column_lt : ∀ x < width, column x < w
  row_lt : ∀ y < height, row y < k
  size_eq : ∀ bits m, ofBits w k bits = .ok m → (m.get width height).1.size = width * height
  getElem?_eq : ∀ bits m, ofBits w k bits = .ok m → ∀ x < width, ∀ y < height,
    (m.get width height).1[y * width + x]? = bits[row y * w + column x]?

namespace Shows

/-- At its own size a mask shows what it is. -/
theorem native : Shows w k w k id id where
  column_lt _ hx := hx
  row_lt _ hy := hy
  size_eq bits m hm := by
    rw [get_ofBits hm]
    obtain ⟨-, -, -, hlength, rfl⟩ := ofBits_eq_ok_iff.mp hm
    rw [bitsAt_native]
    exact hlength
  getElem?_eq bits m hm x _ y _ := by
    rw [get_ofBits hm]
    obtain ⟨-, -, -, -, rfl⟩ := ofBits_eq_ok_iff.mp hm
    rw [bitsAt_native]
    exact List.getElem?_toArray

end Shows

/-- At another size it shows the columns and rows under the middle of the pixels. -/
theorem shows_samples (hne : (width, height) ≠ (w, k)) (hw : w < sideLimit) (hk : k < sideLimit)
    (hwidth : width < sideLimit) (hheight : height < sideLimit) (hpos : 0 < w ∧ 0 < k)
    (hpos' : 0 < width ∧ 0 < height) :
    Shows w k width height (sampleIndex w width) (sampleIndex k height) := by
  have hdrawn {bits m} (hm : ofBits w k bits = .ok m) : bits.length = w * k ∧
      (m.get width height).1 = (resample ⟨w, k, bits.toArray⟩ width height).cells := by
    rw [get_ofBits hm]
    obtain ⟨-, -, -, hlength, rfl⟩ := ofBits_eq_ok_iff.mp hm
    refine ⟨hlength, ?_⟩
    rw [bitsAt_of_ne hne]
    exact draw_eq_resample hlength hw hk hwidth hheight hpos'
  refine ⟨fun x _ => sampleIndex_lt hpos.1 .., fun y _ => sampleIndex_lt hpos.2 .., ?_, ?_⟩
  · intro bits m hm
    rw [(hdrawn hm).2]
    exact Raster.wellSized_ofFn ..
  · intro bits m hm x hx y hy
    obtain ⟨hlength, hcells⟩ := hdrawn hm
    have hpixel := Raster.getElem?_toList (m := resample ⟨w, k, bits.toArray⟩ width height)
      (Raster.wellSized_ofFn ..) hx hy
    have hshown := Raster.getElem?_toList (m := ⟨w, k, bits.toArray⟩)
      (Raster.wellSized_mk hlength) (sampleIndex_lt hpos.1 width x)
      (sampleIndex_lt hpos.2 height y)
    rw [resample, Raster.get_ofFn _ hx hy] at hpixel
    rw [hcells, ← Array.getElem?_toList]
    exact hpixel.trans hshown.symm

/-- **Between sizes that pictures can have** a mask shows native columns and rows. -/
theorem exists_shows (hw : w < sideLimit) (hk : k < sideLimit) (hwidth : width < sideLimit)
    (hheight : height < sideLimit) (hpos : 0 < w ∧ 0 < k) (hpos' : 0 < width ∧ 0 < height) :
    ∃ column row, Shows w k width height column row := by
  by_cases hne : (width, height) = (w, k)
  · obtain ⟨rfl, rfl⟩ := Prod.mk.inj hne
    exact ⟨id, id, .native⟩
  · exact ⟨_, _, shows_samples hne hw hk hwidth hheight hpos hpos'⟩

/-- The pixels of a size are the ones of its columns and rows. -/
theorem ext_pixels {a b : Array Bool} (ha : a.size = width * height) (hb : b.size = width * height)
    (hget : ∀ x < width, ∀ y < height, a[y * width + x]? = b[y * width + x]?) : a = b := by
  refine Array.ext_getElem? fun i => ?_
  by_cases hi : i < width * height
  · obtain ⟨hx, hy, heq⟩ := Raster.mod_div_index hi
    have h := hget _ hx _ hy
    rwa [heq] at h
  · rw [Array.getElem?_eq_none (by omega), Array.getElem?_eq_none (by omega)]

namespace Shows

/-- What is done to every pixel may be done to the native ones. -/
theorem map (hs : Shows w k width height column row) (hm : ofBits w k bits = .ok m)
    (f : Bool → Bool) : ∃ m', ofBits w k (bits.map f) = .ok m' ∧
      (m'.get width height).1 = (m.get width height).1.map f := by
  obtain ⟨hw, hk, hcount, hlength, -⟩ := ofBits_eq_ok_iff.mp hm
  have hm' : ofBits w k (bits.map f) = .ok ⟨w, k, (bits.map f).toArray, none⟩ :=
    ofBits_eq_ok_iff.mpr ⟨hw, hk, hcount, by rwa [List.length_map], rfl⟩
  refine ⟨_, hm', ext_pixels (hs.size_eq _ _ hm') ?_ fun x hx y hy => ?_⟩
  · rw [Array.size_map]
    exact hs.size_eq _ _ hm
  · rw [hs.getElem?_eq _ _ hm' x hx y hy, Array.getElem?_map, hs.getElem?_eq _ _ hm x hx y hy,
      List.getElem?_map]

/-- What is done to the pixels of two masks may be done to the native ones. -/
theorem zipWith (hs : Shows w k width height column row) (hm : ofBits w k bits = .ok m)
    (hm' : ofBits w k bits' = .ok m') (f : Bool → Bool → Bool) :
    ∃ both, ofBits w k (List.zipWith f bits bits') = .ok both ∧ (both.get width height).1 =
      Array.zipWith f (m.get width height).1 (m'.get width height).1 := by
  obtain ⟨hw, hk, hcount, hlength, -⟩ := ofBits_eq_ok_iff.mp hm
  obtain ⟨-, -, -, hlength', -⟩ := ofBits_eq_ok_iff.mp hm'
  have hboth : ofBits w k (List.zipWith f bits bits') =
      .ok ⟨w, k, (List.zipWith f bits bits').toArray, none⟩ := by
    refine ofBits_eq_ok_iff.mpr ⟨hw, hk, hcount, ?_, rfl⟩
    rw [List.length_zipWith, hlength, hlength', Nat.min_self]
  refine ⟨_, hboth, ext_pixels (hs.size_eq _ _ hboth) ?_ fun x hx y hy => ?_⟩
  · rw [Array.size_zipWith, hs.size_eq _ _ hm, hs.size_eq _ _ hm', Nat.min_self]
  · rw [hs.getElem?_eq _ _ hboth x hx y hy, Array.getElem?_zipWith,
      hs.getElem?_eq _ _ hm x hx y hy, hs.getElem?_eq _ _ hm' x hx y hy, List.getElem?_zipWith]
    rfl

/-- If all native pixels are the same, all that are shown are. -/
theorem replicate (hs : Shows w k width height column row) (hm : ofBits w k bits = .ok m)
    {v : Bool} (hall : ∀ b ∈ bits, b = v) :
    (m.get width height).1 = .replicate (width * height) v := by
  refine Array.eq_replicate_iff.mpr ⟨hs.size_eq _ _ hm, fun b hb => ?_⟩
  obtain ⟨i, hi, rfl⟩ := Array.mem_iff_getElem.mp hb
  have hlt : i < width * height := Nat.lt_of_lt_of_eq hi (hs.size_eq _ _ hm)
  obtain ⟨hx, hy, heq⟩ := Raster.mod_div_index hlt
  have hget := hs.getElem?_eq _ _ hm _ hx _ hy
  rw [heq, Array.getElem?_eq_getElem hi] at hget
  exact hall _ (List.mem_of_getElem? hget.symm)

end Shows

/-- A size to which a mask of a size that pictures can have is brought is one that they can have. -/
theorem Shows.lt (hs : Shows w k width height column row) (hw : w < sideLimit) (hk : k < sideLimit)
    (hpos : 0 < w ∧ 0 < k) (hpos' : 0 < width ∧ 0 < height) :
    width < sideLimit ∧ height < sideLimit := by
  have hlength : (List.replicate (w * k) false).length = w * k := List.length_replicate
  have hm : ofBits w k (.replicate (w * k) false) =
      .ok ⟨w, k, (List.replicate (w * k) false).toArray, none⟩ :=
    ofBits_eq_ok_iff.mpr ⟨hpos.1, hpos.2, Count.mul_le_maxCount hw hk, hlength, rfl⟩
  by_cases hnative : (width, height) = (w, k)
  · obtain ⟨rfl, rfl⟩ := Prod.mk.inj hnative
    exact ⟨hw, hk⟩
  · have hsize := hs.size_eq _ _ hm
    have hproduct : width * height ≠ 0 := Nat.mul_ne_zero (by omega) (by omega)
    rw [get_ofBits hm, size_bitsAt_eq_iff hlength, or_iff_right hproduct] at hsize
    have hshort : ¬(sideLimit ≤ width ∨ sideLimit ≤ height) :=
      fun hlong => hsize ⟨hnative, hlong⟩
    omega

end Shows

/-- **A mask only shows native pixels**, of columns and rows that depend on the sizes alone. -/
theorem exists_shows_iff {w k width height : Nat} (hpos : 0 < w ∧ 0 < k)
    (hpos' : 0 < width ∧ 0 < height) :
    Shows w k w k id id ∧
    (w < sideLimit → k < sideLimit →
      ((∃ column row, Shows w k width height column row) ↔
        width < sideLimit ∧ height < sideLimit)) ∧
    ∀ column row, Shows w k width height column row →
      ∀ bits m, ofBits w k bits = .ok m →
        (∀ f : Bool → Bool, ∃ m', ofBits w k (bits.map f) = .ok m' ∧
          (m'.get width height).1 = (m.get width height).1.map f) ∧
        (∀ f : Bool → Bool → Bool, ∀ bits' m', ofBits w k bits' = .ok m' →
          ∃ both, ofBits w k (List.zipWith f bits bits') = .ok both ∧ (both.get width height).1 =
            Array.zipWith f (m.get width height).1 (m'.get width height).1) ∧
        ∀ v, (∀ b ∈ bits, b = v) → (m.get width height).1 = .replicate (width * height) v := by
  refine ⟨.native, fun hw hk => ⟨?_, ?_⟩, ?_⟩
  · rintro ⟨column, row, hs⟩
    exact hs.lt hw hk hpos hpos'
  · rintro ⟨hwidth, hheight⟩
    exact exists_shows hw hk hwidth hheight hpos hpos'
  · intro column row hs bits m hm
    exact ⟨fun f => hs.map hm f, fun f bits' m' hm' => hs.zipWith hm hm' f,
      fun v hall => hs.replicate hm hall⟩

/-- A row of three pixels at a greater size. -/
theorem exists_shows_wider : (0 < 3 ∧ 0 < 1) ∧ (0 < 5 ∧ 0 < 2) ∧
    ∃ column row, Shows 3 1 5 2 column row := by
  have hpos : 0 < 3 ∧ 0 < 1 := by decide
  have hpos' : 0 < 5 ∧ 0 < 2 := by decide
  exact ⟨hpos, hpos', ((exists_shows_iff hpos hpos').2.1 (by decide) (by decide)).mpr (by decide)⟩

/-- **A size at which a mask shows nothing:** it has no columns or rows for a row of `2 ^ 32`
pixels. -/
theorem not_shows_long_request : ¬∃ column row, Shows 1 1 4294967296 1 column row := by
  rintro ⟨column, row, hs⟩
  have hsize := hs.size_eq [true] ⟨1, 1, #[true], none⟩ rfl
  have hempty : ((⟨1, 1, #[true], none⟩ : SelectionMask).get 4294967296 1).1.size = 0 := by decide
  omega

end SelectionMask

end MotionWatch
