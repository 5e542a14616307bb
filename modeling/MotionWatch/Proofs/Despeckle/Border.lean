import MotionWatch.Proofs.Despeckle.Letters
import MotionWatch.Proofs.Misstep

/-!
# The border of a despeckled map

The border is cleared row by row. The rows at the top and at the bottom are cleared as a whole, and
of all others both ends are, which are one and the same in a narrow map. No slice that is cleared
ends outside of its row, however small the map is, and no row outside of the map, unless the passes
have lost some of its pixels.

* `getElem?_of_despeckleValues`, `blackBorder_of_despeckleValues`: every pixel has a value after
  despeckling, and at the border that is zero.
* `Checked.clearRow`, `Checked.clearBorder`, `Checked.despeckle`: the border is cleared in slices.
  `exists_clearRow`: what becomes of a row. `clearBorder_eq`, `despeckle_eq`: when a slice is out of
  range.
-/

namespace MotionWatch

/-! ## The border -/

section Border

variable {m : Raster UInt8} {pattern : String} {width height x y : Nat} {values l : List UInt8}

theorem get_despeckle_of_border (hm : m.WellSized) (hpattern : pattern ≠ "") (hx : x < m.width)
    (hy : y < m.height) (h : ¬isInner m.width m.height x y = true) :
    (despeckle m pattern).get x y = 0 := by
  obtain ⟨-, hw, hh⟩ := wellSized_foldl_apply hm (passes pattern)
  rw [despeckle_of_ne_empty hpattern, get_clearBorder (hw.trans_gt hx) (hh.trans_gt hy), hw, hh,
    if_neg h]

/-- After despeckling every pixel of a map has a value. -/
theorem getElem?_of_despeckleValues (hl : despeckleValues width height values pattern = some l)
    (hx : x < width) (hy : y < height) : l[y * width + x]? =
      some ((despeckle ⟨width, height, values.toArray⟩ pattern).get x y) := by
  obtain ⟨hlength, -, rfl⟩ := despeckleValues_eq_some_iff.mp hl
  have hm : (⟨width, height, values.toArray⟩ : Raster UInt8).WellSized :=
    Raster.wellSized_mk hlength
  have hget := Raster.getElem?_toList (wellSized_despeckle hm pattern) (x := x) (y := y)
  rw [width_despeckle hm, height_despeckle hm] at hget
  exact hget hx hy

/-- **The border of a despeckled map is black**, unless the pattern is empty. -/
theorem blackBorder_of_despeckleValues (hpattern : pattern ≠ "")
    (hl : despeckleValues width height values pattern = some l) : BlackBorder width height l := by
  have hlength := (despeckleValues_eq_some_iff.mp hl).1
  intro x hx y hy hborder
  rw [getElem?_of_despeckleValues hl hx hy]
  exact congrArg some (get_despeckle_of_border (Raster.wellSized_mk hlength) hpattern hx hy
    (isInner_iff.not.mpr hborder))

end Border

/-! ## Slices -/

namespace Checked

/-- Clears the border in row `y` of a map. -/
def clearRow (width height y : Nat) (row : List UInt8) : Except Misstep (List UInt8) := do
  if y < borderWidth ∨ height ≤ y + borderWidth then blacken row 0 row.length
  else
    let ends := min borderWidth width
    let row ← blacken row 0 ends
    let start ← difference width ends
    blacken row start row.length

/-- Clears the border of a map, row by row. -/
def clearBorder (width height : Nat) (values : List UInt8) : Except Misstep (List UInt8) :=
  (List.range height).foldlM
    (fun values y => amend values (y * width) ((y + 1) * width) (clearRow width height y)) values

/-- All passes of a pattern, and then the border cleared in slices. -/
def despeckle (width height : Nat) (values : List UInt8) (pattern : String) :
    Except Misstep (List UInt8) :=
  if pattern.isEmpty then .ok values
  else clearBorder width height (passValues width height values (passes pattern))

variable {width height x y : Nat} {row values : List UInt8} {pattern : String}

/-- **The inner pixels of a row stay as they are**, and the others become zero. -/
theorem exists_clearRow (height y : Nat) (row : List UInt8) :
    ∃ row', clearRow row.length height y row = .ok row' ∧ row'.length = row.length ∧
      ∀ x < row.length, row'[x]? =
        if isInner row.length height x y then row[x]? else row[x]?.map fun _ => 0 := by
  unfold clearRow
  by_cases houter : y < borderWidth ∨ height ≤ y + borderWidth
  · obtain ⟨row', hok, hlength, hget⟩ := exists_blacken (Nat.zero_le row.length) (Nat.le_refl _)
    refine ⟨row', (if_pos houter).trans hok, hlength, fun x hx => ?_⟩
    have hborder : ¬isInner row.length height x y = true := by
      rw [isInner_iff]
      unfold borderWidth at houter
      omega
    rw [hget, if_pos ⟨Nat.zero_le x, hx⟩, if_neg hborder]
  · have hends : min borderWidth row.length ≤ row.length := Nat.min_le_right ..
    obtain ⟨left, hleft, hlength, hget⟩ := exists_blacken (l := row) (Nat.zero_le _) hends
    obtain ⟨row', hright, hlength', hget'⟩ := exists_blacken (l := left)
      (i := row.length - min borderWidth row.length) (hlength ▸ Nat.sub_le ..) (Nat.le_refl _)
    refine ⟨row', ?_, hlength'.trans hlength, fun x hx => ?_⟩
    · rw [if_neg houter]
      dsimp only
      rw [hleft, ok_bind, difference_eq_ok hends, ok_bind, hright]
    · have hinner : isInner row.length height x y = true ↔
          ¬(0 ≤ x ∧ x < min borderWidth row.length) ∧
          ¬(row.length - min borderWidth row.length ≤ x ∧ x < left.length) := by
        rw [isInner_iff]
        unfold borderWidth at houter ⊢
        omega
      -- In a narrow map the two ends overlap, and what is set to zero twice is zero.
      simp only [hget', hget, hinner]
      split <;> split <;> simp_all

/-- No slice of a row is out of range. -/
theorem clearRow_eq_ok (height y : Nat) (hrow : row.length = width) :
    clearRow width height y row = .ok (MotionWatch.clearRow width height y row) := by
  subst hrow
  obtain ⟨row', hok, hlength, hget⟩ := exists_clearRow height y row
  rw [hok]
  congr 1
  refine List.ext_getElem? fun x => ?_
  rw [MotionWatch.clearRow, List.getElem?_mapIdx]
  rcases Nat.lt_or_ge x row.length with hx | hx
  · rw [hget x hx, List.getElem?_eq_getElem hx]
    split <;> rfl
  · rw [List.getElem?_eq_none (hlength.trans_le hx), List.getElem?_eq_none hx]
    rfl

/-- The slice behind some rows is the next row, if there is one. -/
theorem amend_append {done rest : List UInt8} (hdone : done.length = y * width) :
    amend (done ++ rest) (y * width) ((y + 1) * width) (clearRow width height y) =
      if width ≤ rest.length then
        .ok (done ++ (MotionWatch.clearRow width height y (rest.take width) ++ rest.drop width))
      else .error .outside := by
  have hsucc : (y + 1) * width = y * width + width := Nat.succ_mul ..
  by_cases hrow : width ≤ rest.length
  · have hbound : (y + 1) * width ≤ (done ++ rest).length := by
      rw [List.length_append]
      omega
    have hcleared : clearRow width height y
        (((done ++ rest).take ((y + 1) * width)).drop (y * width)) =
          .ok (MotionWatch.clearRow width height y (rest.take width)) := by
      rw [hsucc, ← hdone, List.take_length_add_append, List.drop_left]
      exact clearRow_eq_ok height y (List.length_take_of_le hrow)
    rw [if_pos hrow, amend_eq_ok (by omega) hbound hcleared, List.take_left' hdone, hsucc, ← hdone,
      List.drop_length_add_append, List.append_assoc]
  · have hbound : ¬(y * width ≤ (y + 1) * width ∧ (y + 1) * width ≤ (done ++ rest).length) := by
      rw [List.length_append]
      omega
    rw [if_neg hrow, amend, if_neg hbound]

/-- Rows that have been cleared stand before those that have not. -/
theorem foldlM_clearRow {rows : Nat} {done : List UInt8} (rest : List UInt8) (hrows : rows ≤ height)
    (hdone : done.length = (height - rows) * width) :
    (List.range' (height - rows) rows).foldlM
        (fun values y => amend values (y * width) ((y + 1) * width) (clearRow width height y))
        (done ++ rest) =
      (clearRows width height rows rest).elim (.error .outside) fun l => .ok (done ++ l) := by
  induction rows generalizing done rest with
  | zero => rfl
  | succ rows ih =>
    have hnext : height - (rows + 1) + 1 = height - rows := by omega
    have htake : (rest.take width).length = width ↔ width ≤ rest.length := by
      rw [List.length_take]
      omega
    rw [List.range'_succ, List.foldlM_cons, amend_append hdone, hnext, clearRows]
    simp only [htake]
    by_cases hrow : width ≤ rest.length
    · have hdone' : (done ++ MotionWatch.clearRow width height (height - (rows + 1))
          (rest.take width)).length = (height - rows) * width := by
        rw [List.length_append, hdone, MotionWatch.clearRow, List.length_mapIdx, htake.mpr hrow,
          ← hnext, Nat.succ_mul]
      rw [if_pos hrow, if_pos hrow, ok_bind, ← List.append_assoc, ih _ (by omega) hdone']
      cases clearRows width height rows (rest.drop width) with
      | none => rfl
      | some l => exact congrArg Except.ok (List.append_assoc ..)
    · rw [if_neg hrow, if_neg hrow]
      rfl

/-- **A slice is out of range exactly if a row is not complete.** -/
theorem clearBorder_eq (width height : Nat) (values : List UInt8) :
    clearBorder width height values =
      (clearRows width height height values).elim (.error .outside) .ok := by
  have hnone : ([] : List UInt8).length = (height - height) * width := by
    rw [Nat.sub_self, Nat.zero_mul]
    rfl
  have h := foldlM_clearRow values (Nat.le_refl height) hnone
  rw [Nat.sub_self, ← List.range_eq_range'] at h
  exact h

/-- **A slice is out of range exactly if there is no despeckled map.** -/
theorem despeckle_eq (hlength : values.length = width * height) (pattern : String) :
    despeckle width height values pattern =
      (despeckleValues width height values pattern).elim (.error .outside) .ok := by
  unfold despeckle despeckleValues
  rw [if_neg (not_not_intro hlength)]
  split
  · rfl
  · exact clearBorder_eq ..

end Checked

end MotionWatch
