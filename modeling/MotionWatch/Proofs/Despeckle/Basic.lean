import MotionWatch.Despeckle
import MotionWatch.Proofs.Raster

/-!
# Despeckled maps

* `wellSized_despeckle`, `width_despeckle`, `height_despeckle`: despeckling keeps the size of a map.
* `isInner_iff`, `get_clearBorder`: which pixels are no border, and what becomes of the others.
* `despeckle_of_passes`, `despeckle_of_ne_empty`: patterns that stand for some passes, and patterns
  that have a letter.
* `clearRows_toList`: the border is cleared row by row. `clearRows_eq_none`: values that are too
  few.
* `Keeps`: the passes of a pattern keep all pixels of a map.
* `despeckleValues_eq`: the values of a map are despeckled as that map if the passes keep all of its
  pixels, and nothing comes of any others.
-/

namespace MotionWatch

/-! ## Sizes -/

section Size

variable {m : Raster UInt8} (hm : m.WellSized) (pattern : String)

include hm

theorem wellSized_foldl_apply (ps : List Pass) :
    (ps.foldl (fun m p => p.apply m) m).WellSized ∧
      (ps.foldl (fun m p => p.apply m) m).width = m.width ∧
      (ps.foldl (fun m p => p.apply m) m).height = m.height := by
  induction ps generalizing m with
  | nil => exact ⟨hm, rfl, rfl⟩
  | cons p ps ih => exact ih (m := p.apply m) (Raster.wellSized_ofFn ..)

theorem wellSized_despeckle : (despeckle m pattern).WellSized := by
  unfold despeckle
  split
  · exact hm
  · exact Raster.wellSized_ofFn ..

theorem width_despeckle : (despeckle m pattern).width = m.width := by
  unfold despeckle
  split
  · rfl
  · exact (wellSized_foldl_apply hm _).2.1

theorem height_despeckle : (despeckle m pattern).height = m.height := by
  unfold despeckle
  split
  · rfl
  · exact (wellSized_foldl_apply hm _).2.2

end Size

/-! ## Borders -/

variable {m : Raster UInt8} {width height x y : Nat}

theorem isInner_iff : isInner width height x y = true ↔
    (4 ≤ x ∧ x + 4 < width) ∧ 4 ≤ y ∧ y + 4 < height := by
  simp only [isInner, Bool.and_eq_true, decide_eq_true_eq, and_assoc]
  exact Iff.rfl

theorem lt_of_isInner (h : isInner width height x y = true) : x < width ∧ y < height := by
  have hinner := isInner_iff.mp h
  omega

theorem get_clearBorder (hx : x < m.width) (hy : y < m.height) :
    (clearBorder m).get x y = if isInner m.width m.height x y then m.get x y else 0 :=
  Raster.get_ofFn _ hx hy

theorem get_clearBorder_of_isInner (h : isInner m.width m.height x y = true) :
    (clearBorder m).get x y = m.get x y := by
  obtain ⟨hx, hy⟩ := lt_of_isInner h
  rw [get_clearBorder hx hy, if_pos h]

/-! ## Patterns and values -/

theorem despeckle_of_passes {pattern : String} {ps : List Pass} (hps : passes pattern = ps)
    (hne : ps ≠ []) : despeckle m pattern = clearBorder (ps.foldl (fun m p => p.apply m) m) := by
  unfold despeckle
  rw [if_neg, hps]
  intro hempty
  obtain rfl := String.isEmpty_iff.mp hempty
  exact hne hps.symm

theorem despeckle_of_ne_empty {pattern : String} (h : pattern ≠ "") (m : Raster UInt8) :
    despeckle m pattern = clearBorder ((passes pattern).foldl (fun m p => p.apply m) m) :=
  if_neg fun hempty => h (String.isEmpty_iff.mp hempty)

/-! ## Rows -/

/-- A row with a clear border is a row of the map with a clear border. -/
theorem clearRow_take_drop (hm : m.WellSized) (hy : y < m.height) :
    clearRow m.width m.height y ((m.toList.drop (y * m.width)).take m.width) =
      ((clearBorder m).toList.drop (y * m.width)).take m.width := by
  have hcleared : (clearBorder m).WellSized := Raster.wellSized_ofFn ..
  refine List.ext_getElem? fun x => ?_
  rw [clearRow, List.getElem?_mapIdx]
  by_cases hx : x < m.width
  · have hget : (clearBorder m).toList[y * m.width + x]? = some ((clearBorder m).get x y) :=
      Raster.getElem?_toList hcleared hx hy
    rw [List.getElem?_take_of_lt hx, List.getElem?_take_of_lt hx, List.getElem?_drop,
      List.getElem?_drop, Raster.getElem?_toList hm hx hy, hget, get_clearBorder hx hy]
    rfl
  · have hnone (l : List UInt8) : (l.take m.width)[x]? = none :=
      List.getElem?_eq_none (Nat.le_trans (List.length_take_le ..) (Nat.not_lt.mp hx))
    rw [hnone, hnone]
    rfl

/-- The last rows of a map become those of the map with a clear border. -/
theorem clearRows_drop (hm : m.WellSized) {rows : Nat} (hrows : rows ≤ m.height) :
    clearRows m.width m.height rows (m.toList.drop ((m.height - rows) * m.width)) =
      some ((clearBorder m).toList.drop ((m.height - rows) * m.width)) := by
  have hlength := Raster.length_toList hm
  have hlength' : (clearBorder m).toList.length = m.width * m.height :=
    Raster.length_toList (Raster.wellSized_ofFn ..)
  induction rows with
  | zero =>
    rw [Nat.sub_zero, Nat.mul_comm, List.drop_of_length_le (Nat.le_of_eq hlength),
      List.drop_of_length_le (Nat.le_of_eq hlength')]
    rfl
  | succ rows ih =>
    have hy : m.height - (rows + 1) < m.height := by omega
    have hnext : (m.height - rows) * m.width =
        (m.height - (rows + 1)) * m.width + m.width := by
      rw [← Nat.succ_mul]
      congr 1
      omega
    have hrow : ((m.toList.drop ((m.height - (rows + 1)) * m.width)).take m.width).length =
        m.width := by
      have hle : (m.height - rows) * m.width ≤ m.height * m.width :=
        Nat.mul_le_mul_right m.width (Nat.sub_le ..)
      rw [Nat.mul_comm m.height] at hle
      rw [List.length_take, List.length_drop]
      omega
    have hrest := ih (by omega)
    rw [hnext, ← List.drop_drop, ← List.drop_drop] at hrest
    rw [clearRows, if_pos hrow, hrest, clearRow_take_drop hm hy]
    exact congrArg some (List.take_append_drop ..)

/-- **The border of a map is cleared row by row.** -/
theorem clearRows_toList (hm : m.WellSized) :
    clearRows m.width m.height m.height m.toList = some (clearBorder m).toList := by
  have h := clearRows_drop hm (Nat.le_refl m.height)
  rwa [Nat.sub_self, Nat.zero_mul] at h

/-- Values that are too few for the rows have no border that could be cleared. -/
theorem clearRows_eq_none {rows : Nat} {values : List UInt8} (h : values.length < rows * width) :
    clearRows width height rows values = none := by
  induction rows generalizing values with
  | zero => omega
  | succ rows ih =>
    rw [clearRows]
    split
    · next hrow =>
      have hrest : (values.drop width).length < rows * width := by
        rw [List.length_take] at hrow
        rw [List.length_drop]
        rw [Nat.succ_mul] at h
        omega
      rw [ih hrest]
      rfl
    · rfl

/-! ## Values -/

/-- The passes of a pattern keep all pixels of a map of some size: there are no passes, or neither
side is cut off. -/
def Keeps (width height : Nat) (pattern : String) : Prop :=
  passes pattern = [] ∨ Count.Fits width height

instance (width height : Nat) (pattern : String) : Decidable (Keeps width height pattern) :=
  inferInstanceAs (Decidable (_ ∨ _))

variable {values : List UInt8} {pattern : String}

theorem wellSized_passMap (h : values.length = width * height) :
    (passMap width height values).WellSized := by
  have hle : Count.wrapSide width * Count.wrapSide height ≤ values.length := by
    rw [h]
    exact Count.wrapSide_mul_wrapSide_le width height
  exact List.length_take_of_le hle

/-- Passes leave as many values as the map has whose sides are measured anew. -/
theorem length_passValues (h : values.length = width * height) {ps : List Pass} (hps : ps ≠ []) :
    (passValues width height values ps).length =
      Count.wrapSide width * Count.wrapSide height := by
  obtain ⟨hsized, hw, hh⟩ := wellSized_foldl_apply (wellSized_passMap h) ps
  rw [passValues, if_neg (by simpa using hps), Raster.length_toList hsized, hw, hh]
  rfl

/-- Passes over a map whose sides are not cut off are passes over that map. -/
theorem passValues_of_keeps (h : values.length = width * height)
    (hkeeps : Keeps width height pattern) :
    passValues width height values (passes pattern) = ((passes pattern).foldl
      (fun (m : Raster UInt8) p => p.apply m) ⟨width, height, values.toArray⟩).toList := by
  by_cases hps : passes pattern = []
  · rw [hps]
    rfl
  have hm : (⟨width, height, values.toArray⟩ : Raster UInt8).WellSized := Raster.wellSized_mk h
  obtain ⟨hsized, hw, hh⟩ := wellSized_foldl_apply hm (passes pattern)
  rcases hkeeps with hnil | hzero | ⟨hwidth, hheight⟩
  · exact absurd hnil hps
  · have hleft := length_passValues h hps
    have hright := Raster.length_toList hsized
    have hle := Count.wrapSide_mul_wrapSide_le width height
    rw [hw, hh] at hright
    rw [List.eq_nil_of_length_eq_zero (hleft.trans (by omega)),
      List.eq_nil_of_length_eq_zero (hright.trans hzero)]
  · have hmap : passMap width height values = ⟨width, height, values.toArray⟩ := by
      rw [passMap, Count.wrapSide_of_lt hwidth, Count.wrapSide_of_lt hheight, ← h, List.take_length]
    rw [passValues, if_neg (by simpa using hps), hmap]

/-- **The values of a map are despeckled as that map** if the passes keep all of its pixels. Else
the program stops, as it does for values that are no map. -/
theorem despeckleValues_eq (width height : Nat) (values : List UInt8) (pattern : String) :
    despeckleValues width height values pattern =
      if values.length = width * height ∧ Keeps width height pattern then
        some (despeckle ⟨width, height, values.toArray⟩ pattern).toList
      else none := by
  unfold despeckleValues
  by_cases hlength : values.length ≠ width * height
  · rw [if_pos hlength, if_neg (hlength ·.1)]
  rw [if_neg hlength]
  rw [Decidable.not_not] at hlength
  unfold despeckle
  by_cases hempty : pattern.isEmpty
  · obtain rfl := String.isEmpty_iff.mp hempty
    rw [if_pos hempty, if_pos hempty, if_pos ⟨hlength, .inl rfl⟩]
    rfl
  rw [if_neg hempty, if_neg hempty]
  by_cases hkeeps : Keeps width height pattern
  · obtain ⟨hsized, hw, hh⟩ := wellSized_foldl_apply (Raster.wellSized_mk hlength) (passes pattern)
    have hrows := clearRows_toList hsized
    rw [hw, hh] at hrows
    rw [if_pos ⟨hlength, hkeeps⟩, passValues_of_keeps hlength hkeeps]
    exact hrows
  · obtain ⟨hps, hcut⟩ := not_or.mp hkeeps
    have hle := Count.wrapSide_mul_wrapSide_le width height
    have hne := mt Count.fits_iff.mpr hcut
    rw [if_neg (hkeeps ·.2)]
    refine clearRows_eq_none ?_
    rw [length_passValues hlength hps, Nat.mul_comm height]
    omega

/-- What it takes that values are despeckled. -/
theorem despeckleValues_eq_some_iff {l : List UInt8} :
    despeckleValues width height values pattern = some l ↔
      values.length = width * height ∧ Keeps width height pattern ∧
        (despeckle ⟨width, height, values.toArray⟩ pattern).toList = l := by
  rw [despeckleValues_eq, Option.ite_none_right_eq_some, Option.some.injEq, and_assoc]

/-- There is a value for every pixel. -/
theorem length_of_despeckleValues {l : List UInt8}
    (h : despeckleValues width height values pattern = some l) : l.length = width * height := by
  obtain ⟨hlength, -, rfl⟩ := despeckleValues_eq_some_iff.mp h
  have hwell : (⟨width, height, values.toArray⟩ : Raster UInt8).WellSized :=
    Raster.wellSized_mk hlength
  rw [Raster.length_toList (wellSized_despeckle hwell pattern), width_despeckle hwell,
    height_despeckle hwell]

theorem isSome_despeckleValues_iff : (despeckleValues width height values pattern).isSome = true ↔
    values.length = width * height ∧ Keeps width height pattern := by
  rw [despeckleValues_eq]
  split
  · next h => exact iff_of_true rfl h
  · next h => exact iff_of_false nofun h

end MotionWatch
