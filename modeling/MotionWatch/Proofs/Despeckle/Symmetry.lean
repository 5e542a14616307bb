import MotionWatch.Proofs.Despeckle.Border
import MotionWatch.Proofs.Despeckle.Window

/-!
# Despeckling treats both axes alike

Rows and columns, and both ends of them, are alike to despeckling: a map can be transposed or
mirrored before it is despeckled as well as afterwards, whatever its size.

* `Raster.transpose`, `Raster.mirror`, `Raster.flip`: a map with its axes exchanged, or with one of
  them reversed. `Raster.rearrange`: all of these, given by where each pixel comes from.
* `Rearrangement`: the distances of pixels stay the same, and the border stays the border.
* `apply_rearrange`, `despeckle_rearrange`: passes, and despeckling, of rearranged maps.
* `despeckleValues_symmetries`: the symmetries of despeckling, the number of its values and its
  border.
-/

namespace MotionWatch

namespace Raster

variable {α : Type} [Inhabited α]

/-- The map with its axes exchanged. -/
def transpose (m : Raster α) : Raster α := .ofFn m.height m.width fun x y => m.get y x

/-- The map with its columns in reverse order. -/
def mirror (m : Raster α) : Raster α := .ofFn m.width m.height fun x y => m.get (m.width - 1 - x) y

/-- The map with its rows in reverse order. -/
def flip (m : Raster α) : Raster α := .ofFn m.width m.height fun x y => m.get x (m.height - 1 - y)

/-- A map of another size, given by where each pixel comes from. -/
def rearrange (m : Raster α) (width height : Nat) (source : Nat × Nat → Nat × Nat) : Raster α :=
  .ofFn width height fun x y => m.get (source (x, y)).1 (source (x, y)).2

/-- The rows after the map that they are has been changed. -/
def onValues (op : Raster α → Raster α) (width height : Nat) (values : List α) : List α :=
  (op ⟨width, height, values.toArray⟩).toList

omit [Inhabited α] in
theorem mk_toList (m : Raster α) : (⟨m.width, m.height, m.toList.toArray⟩ : Raster α) = m := by
  rw [toList, Array.toArray_toList]

end Raster

/-! ## Rearrangements -/

/-- Where the pixels of a map come from when it is made of another one. All pixels of that one are
used, their distances stay the same, and the border stays the border. -/
structure Rearrangement (source : Nat × Nat → Nat × Nat) (width height width' height' : Nat) :
    Prop where
  lt : ∀ x < width', ∀ y < height', (source (x, y)).1 < width ∧ (source (x, y)).2 < height
  onto : ∀ i < width, ∀ j < height, ∃ x < width', ∃ y < height', source (x, y) = (i, j)
  chebyshev_eq : ∀ x < width', ∀ y < height', ∀ i < width', ∀ j < height',
    chebyshev (source (i, j)) (source (x, y)) = chebyshev (i, j) (x, y)
  isInner_eq : ∀ x < width', ∀ y < height',
    isInner width height (source (x, y)).1 (source (x, y)).2 = isInner width' height' x y

theorem rearrangement_swap (width height : Nat) :
    Rearrangement Prod.swap width height height width where
  lt _ hx _ hy := ⟨hy, hx⟩
  onto i hi j hj := ⟨j, hj, i, hi, rfl⟩
  chebyshev_eq _ _ _ _ _ _ _ _ := Nat.max_comm ..
  isInner_eq x _ y _ := by
    rw [Bool.eq_iff_iff, isInner_iff, isInner_iff]
    exact and_comm

theorem dist_reverse {n i j : Nat} (hi : i < n) (hj : j < n) :
    Nat.dist (n - 1 - i) (n - 1 - j) = Nat.dist i j := by
  unfold Nat.dist
  omega

theorem rearrangement_mirror (width height : Nat) :
    Rearrangement (fun p => (width - 1 - p.1, p.2)) width height width height where
  lt _ hx _ hy := ⟨by omega, hy⟩
  onto i hi j hj := ⟨width - 1 - i, by omega, j, hj, Prod.ext (by dsimp only; omega) rfl⟩
  chebyshev_eq _ hx _ _ _ hi _ _ := congrArg (max · _) (dist_reverse hi hx)
  isInner_eq x hx y _ := by
    rw [Bool.eq_iff_iff, isInner_iff, isInner_iff]
    dsimp only
    omega

theorem rearrangement_flip (width height : Nat) :
    Rearrangement (fun p => (p.1, height - 1 - p.2)) width height width height where
  lt _ hx _ hy := ⟨hx, by omega⟩
  onto i hi j hj := ⟨i, hi, height - 1 - j, by omega, Prod.ext rfl (by dsimp only; omega)⟩
  chebyshev_eq _ _ _ hy _ _ _ hj := congrArg (max _) (dist_reverse hj hy)
  isInner_eq x _ y hy := by
    rw [Bool.eq_iff_iff, isInner_iff, isInner_iff]
    dsimp only
    omega

section Rearranged

variable {m : Raster UInt8} {source : Nat × Nat → Nat × Nat} {width' height' : Nat}
  (hsource : Rearrangement source m.width m.height width' height')
include hsource

/-- **A pass treats rearranged pixels alike.** -/
theorem apply_rearrange (p : Pass) :
    p.apply (m.rearrange width' height' source) = (p.apply m).rearrange width' height' source := by
  refine Raster.ext_get (Pass.wellSized_apply ..) (Raster.wellSized_ofFn ..) rfl rfl ?_
  intro x (hx : x < width') y (hy : y < height')
  have hget {i j : Nat} (hi : i < width') (hj : j < height') :
      (m.rearrange width' height' source).get i j = m.get (source (i, j)).1 (source (i, j)).2 :=
    Raster.get_ofFn _ hi hj
  have hpass : ((p.apply m).rearrange width' height' source).get x y =
      (p.apply m).get (source (x, y)).1 (source (x, y)).2 := Raster.get_ofFn _ hx hy
  obtain ⟨hlt, hlt'⟩ := hsource.lt x hx y hy
  refine Pass.eq_of_prefers_iff (p := p) fun v => ?_
  rw [hpass, Pass.prefers_apply_iff (m := m.rearrange width' height' source) hx hy,
    Pass.prefers_apply_iff hlt hlt']
  constructor
  · intro h i hi j hj hdist
    obtain ⟨k, hk, l, hl, heq⟩ := hsource.onto i hi j hj
    have hnear := hsource.chebyshev_eq x hx y hy k hk l hl
    rw [heq] at hnear
    have hprefers := h k hk l hl (hnear ▸ hdist)
    rwa [hget hk hl, heq] at hprefers
  · intro h i (hi : i < width') j (hj : j < height') hdist
    obtain ⟨hi', hj'⟩ := hsource.lt i hi j hj
    rw [hget hi hj]
    exact h _ hi' _ hj' ((hsource.chebyshev_eq x hx y hy i hi j hj).trans_le hdist)

theorem foldl_apply_rearrange (ps : List Pass) :
    ps.foldl (fun m p => p.apply m) (m.rearrange width' height' source) =
      (ps.foldl (fun m p => p.apply m) m).rearrange width' height' source := by
  induction ps generalizing m with
  | nil => rfl
  | cons p ps ih => rw [List.foldl_cons, apply_rearrange hsource, ih (m := p.apply m) hsource]; rfl

theorem clearBorder_rearrange :
    clearBorder (m.rearrange width' height' source) =
      (clearBorder m).rearrange width' height' source := by
  refine Raster.ext_get (Raster.wellSized_ofFn ..) (Raster.wellSized_ofFn ..) rfl rfl ?_
  intro x (hx : x < width') y (hy : y < height')
  obtain ⟨hlt, hlt'⟩ := hsource.lt x hx y hy
  have hget : (m.rearrange width' height' source).get x y =
      m.get (source (x, y)).1 (source (x, y)).2 := Raster.get_ofFn _ hx hy
  have hcleared : ((clearBorder m).rearrange width' height' source).get x y =
      (clearBorder m).get (source (x, y)).1 (source (x, y)).2 := Raster.get_ofFn _ hx hy
  rw [hcleared, get_clearBorder hlt hlt', hsource.isInner_eq x hx y hy, ← hget]
  exact get_clearBorder (m := m.rearrange width' height' source) hx hy

/-- **Despeckling treats rearranged pixels alike.** -/
theorem despeckle_rearrange (hm : m.WellSized) (pattern : String) :
    despeckle (m.rearrange width' height' source) pattern =
      (despeckle m pattern).rearrange width' height' source := by
  by_cases hpattern : pattern = ""
  · subst hpattern
    rfl
  · obtain ⟨-, hw, hh⟩ := wellSized_foldl_apply hm (passes pattern)
    rw [despeckle_of_ne_empty hpattern, despeckle_of_ne_empty hpattern,
      foldl_apply_rearrange hsource, clearBorder_rearrange (by rwa [hw, hh])]

end Rearranged

/-! ## Values -/

theorem despeckleValues_rearrange {source : Nat × Nat → Nat × Nat}
    {width height width' height' : Nat} {values : List UInt8}
    (hsource : Rearrangement source width height width' height')
    (hfits : Count.Fits width' height' ↔ Count.Fits width height)
    (hlength : values.length = width * height) (pattern : String) :
    despeckleValues width' height'
        (Raster.onValues (·.rearrange width' height' source) width height values) pattern =
      (despeckleValues width height values pattern).map
        (Raster.onValues (·.rearrange width' height' source) width height) := by
  let m : Raster UInt8 := ⟨width, height, values.toArray⟩
  have hm : m.WellSized := Raster.wellSized_mk hlength
  have hlength' : (Raster.onValues (·.rearrange width' height' source) width height values).length =
      width' * height' :=
    Raster.length_toList (m := m.rearrange width' height' source) (Raster.wellSized_ofFn ..)
  have hkeeps : Keeps width' height' pattern ↔ Keeps width height pattern := or_congr_right hfits
  rw [despeckleValues_eq, despeckleValues_eq]
  simp only [hlength, hlength', hkeeps, true_and]
  split
  · have hmap : (⟨width, height, (despeckle m pattern).toList.toArray⟩ : Raster UInt8) =
        despeckle m pattern := by
      have hself := Raster.mk_toList (despeckle m pattern)
      rwa [width_despeckle hm, height_despeckle hm] at hself
    have hvalues : (⟨width', height',
        (Raster.onValues (·.rearrange width' height' source) width height values).toArray⟩ :
          Raster UInt8) = m.rearrange width' height' source :=
      Raster.mk_toList (m.rearrange width' height' source)
    rw [hvalues, despeckle_rearrange hsource hm, Option.map_some, Raster.onValues, hmap]
  · rfl

/-- **Despeckling treats both axes alike.** To despeckle a map that has been transposed or mirrored
is to transpose or mirror the despeckled map, and the program stops in all of these cases or in
none. There are as many values as pixels, no slice of the border is out of range, and unless the
pattern is empty the border is black: that holds exactly of the maps whose pixels the passes keep.
Of all others a slice of the border is out of range. -/
theorem despeckleValues_symmetries {width height : Nat} {values : List UInt8}
    (hlength : values.length = width * height) (pattern : String) :
    (despeckleValues height width (Raster.onValues .transpose width height values) pattern =
        (despeckleValues width height values pattern).map
          (Raster.onValues .transpose width height) ∧
      despeckleValues width height (Raster.onValues .mirror width height values) pattern =
        (despeckleValues width height values pattern).map (Raster.onValues .mirror width height) ∧
      despeckleValues width height (Raster.onValues .flip width height values) pattern =
        (despeckleValues width height values pattern).map (Raster.onValues .flip width height)) ∧
    ((∃ l, despeckleValues width height values pattern = some l ∧ l.length = width * height ∧
        Checked.despeckle width height values pattern = .ok l ∧
        (pattern ≠ "" → BlackBorder width height l)) ↔ Keeps width height pattern) ∧
    (Checked.despeckle width height values pattern = .error .outside ↔
      ¬Keeps width height pattern) := by
  have hchecked := Checked.despeckle_eq hlength pattern
  have hsome : (despeckleValues width height values pattern).isSome = true ↔
      Keeps width height pattern := isSome_despeckleValues_iff.trans (and_iff_right hlength)
  refine ⟨⟨?_, ?_, ?_⟩, ?_, ?_⟩
  · exact despeckleValues_rearrange (rearrangement_swap width height) Count.fits_comm hlength
      pattern
  · exact despeckleValues_rearrange (rearrangement_mirror width height) Iff.rfl hlength pattern
  · exact despeckleValues_rearrange (rearrangement_flip width height) Iff.rfl hlength pattern
  · rw [← hsome]
    constructor
    · rintro ⟨l, hl, -⟩
      exact Option.isSome_of_eq_some hl
    · intro h
      obtain ⟨l, hl⟩ := Option.isSome_iff_exists.mp h
      refine ⟨l, hl, length_of_despeckleValues hl, ?_, fun hpattern =>
        blackBorder_of_despeckleValues hpattern hl⟩
      rw [hchecked, hl]
      rfl
  · rw [hchecked, ← hsome]
    cases despeckleValues width height values pattern <;> simp

/-- A map of ten columns and nine rows with one bright pixel, right of the middle. -/
def brightPixel : List UInt8 := (List.replicate 90 0).set 45 7

/-- The pixel is found in another row of the transposed map, and in another column of the mirrored
one, and in neither of them is the border anything but black. -/
theorem despeckleValues_symmetries_brightPixel :
    brightPixel.length = 10 * 9 ∧
      ((despeckleValues 9 10 (Raster.onValues .transpose 10 9 brightPixel) "d").bind (·[49]?)) =
        some 7 ∧
      ((despeckleValues 10 9 (Raster.onValues .mirror 10 9 brightPixel) "d").bind (·[44]?)) =
        some 7 ∧
      ∃ l, despeckleValues 10 9 brightPixel "d" = some l ∧ BlackBorder 10 9 l := by
  have hlength : brightPixel.length = 10 * 9 := rfl
  obtain ⟨⟨htranspose, hmirror, -⟩, hkept, -⟩ := despeckleValues_symmetries hlength "d"
  obtain ⟨l, hl, -, -, hborder⟩ := hkept.mpr (by decide)
  rw [htranspose, hmirror]
  exact ⟨hlength, by decide +kernel, by decide +kernel, l, hl, hborder (by decide)⟩

/-- **A map whose border has a slice that is out of range:** a row of `2 ^ 32` pixels, of which the
passes keep none. -/
theorem long_row_is_outside :
    (List.replicate sideLimit (0 : UInt8)).length = sideLimit * 1 ∧
    Checked.despeckle sideLimit 1 (List.replicate sideLimit 0) "d" = .error .outside ∧
    despeckleValues sideLimit 1 (List.replicate sideLimit 0) "d" = none := by
  have hlength : (List.replicate sideLimit (0 : UInt8)).length = sideLimit * 1 :=
    List.length_replicate
  have hstops : despeckleValues sideLimit 1 (List.replicate sideLimit 0) "d" = none := by
    rw [despeckleValues_eq, if_neg fun h => absurd h.2 (by decide)]
  refine ⟨hlength, ?_, hstops⟩
  rw [Checked.despeckle_eq hlength, hstops]
  rfl

end MotionWatch
