import MotionWatch.Proofs.Despeckle.Closing

/-!
# Unknown letters of a pattern

A letter that is not known stands for no pass. It is ignored wherever a letter that is known stands
beside it. A pattern of unknown letters alone, though, is not the empty pattern: it clears the
border.

* `knownLetters`: a pattern without its unknown letters.
* `passes_knownLetters`, `passes_eq_nil_iff`: these letters are all that the passes depend on.
* `despeckle_of_knownLetters_ne_empty`, `despeckle_of_knownLetters_eq_empty`: what a pattern does
  with a known letter, and without one.
* `BlackBorder`, `toList_clearBorder_eq_iff`: maps that do not change when the border is cleared.
* `despeckleValues_knownLetters_iff`: when unknown letters are ignored.
-/

namespace MotionWatch

/-- The letters of a pattern that stand for a pass. -/
def knownLetters (pattern : String) : String :=
  .ofList (pattern.toList.filter fun c => c ∈ ['d', 'e', 'D', 'E'])

variable {m : Raster UInt8} {pattern : String}

theorem Pass.ofChar?_eq_none_iff {c : Char} : ofChar? c = none ↔ c ∉ ['d', 'e', 'D', 'E'] := by
  unfold ofChar?
  split <;> simp_all

theorem passes_knownLetters (pattern : String) :
    passes (knownLetters pattern) = passes pattern := by
  unfold passes knownLetters
  rw [String.toList_ofList, List.filterMap_filter]
  refine List.filterMap_congr fun c _ => ?_
  split
  · rfl
  · next hc => exact (Pass.ofChar?_eq_none_iff.mpr (by simpa using hc)).symm

theorem passes_eq_nil_iff : passes pattern = [] ↔ knownLetters pattern = "" := by
  unfold passes knownLetters
  rw [List.filterMap_eq_nil_iff, ← String.toList_inj, String.toList_ofList]
  simp only [Pass.ofChar?_eq_none_iff]
  rw [String.toList_empty, List.filter_eq_nil_iff]
  simp

/-- **Unknown letters are ignored beside a known one.** -/
theorem despeckle_of_knownLetters_ne_empty (h : knownLetters pattern ≠ "") (m : Raster UInt8) :
    despeckle m pattern = despeckle m (knownLetters pattern) := by
  have hpasses : passes pattern ≠ [] := fun hnil => h (passes_eq_nil_iff.mp hnil)
  rw [despeckle_of_passes rfl hpasses, despeckle_of_passes (passes_knownLetters pattern) hpasses]

/-- **Unknown letters alone clear the border**, and nothing else. -/
theorem despeckle_of_knownLetters_eq_empty (hpattern : pattern ≠ "") (h : knownLetters pattern = "")
    (m : Raster UInt8) : despeckle m pattern = clearBorder m := by
  unfold despeckle
  rw [if_neg fun hempty => hpattern (String.isEmpty_iff.mp hempty), passes_eq_nil_iff.mpr h]
  rfl

/-! ## Maps with a black border -/

/-- All pixels of a map that are less than 4 away from an edge are zero. -/
def BlackBorder (width height : Nat) (values : List UInt8) : Prop :=
  ∀ x < width, ∀ y < height, ¬((4 ≤ x ∧ x + 4 < width) ∧ 4 ≤ y ∧ y + 4 < height) →
    values[y * width + x]? = some 0

theorem toList_clearBorder_eq_iff (hm : m.WellSized) :
    (clearBorder m).toList = m.toList ↔ BlackBorder m.width m.height m.toList := by
  have hcleared : (clearBorder m).WellSized := Raster.wellSized_ofFn ..
  constructor
  · intro h x hx y hy hborder
    have hget : (clearBorder m).toList[y * m.width + x]? = some ((clearBorder m).get x y) :=
      Raster.getElem?_toList hcleared hx hy
    rw [← h, hget, get_clearBorder hx hy, if_neg (isInner_iff.not.mpr hborder)]
  · intro h
    refine congrArg Raster.toList (Raster.ext_get hcleared hm rfl rfl ?_)
    intro x (hx : x < m.width) y (hy : y < m.height)
    rw [get_clearBorder hx hy]
    split
    · rfl
    · next hinner =>
      have hzero := h x hx y hy (isInner_iff.not.mp hinner)
      rw [Raster.getElem?_toList hm hx hy] at hzero
      exact (Option.some.inj hzero).symm

/-- **Unknown letters are ignored**, unless they are all that a pattern consists of and the border
of the map is not black. Whether there is a result at all does not depend on them. -/
theorem despeckleValues_knownLetters_iff (width height : Nat) (values : List UInt8)
    (pattern : String) :
    (despeckleValues width height values pattern =
        despeckleValues width height values (knownLetters pattern) ↔
      knownLetters pattern ≠ "" ∨ pattern = "" ∨ values.length ≠ width * height ∨
        BlackBorder width height values) ∧
    ((despeckleValues width height values pattern).isSome =
      (despeckleValues width height values (knownLetters pattern)).isSome) ∧
    ((despeckleValues width height values pattern).isSome = true ↔
      values.length = width * height ∧
        (knownLetters pattern = "" ∨ Count.Fits width height)) := by
  have hkeeps : Keeps width height (knownLetters pattern) ↔ Keeps width height pattern := by
    rw [Keeps, Keeps, passes_knownLetters]
  refine ⟨?_, ?_, ?_⟩
  · rw [despeckleValues_eq, despeckleValues_eq]
    simp only [hkeeps]
    by_cases hlength : values.length = width * height
    swap
    · rw [if_neg (hlength ·.1), if_neg (hlength ·.1)]
      exact iff_of_true rfl (.inr (.inr (.inl hlength)))
    by_cases hknown : knownLetters pattern = ""
    swap
    · rw [despeckle_of_knownLetters_ne_empty hknown]
      exact iff_of_true rfl (.inl hknown)
    have hall : values.length = width * height ∧ Keeps width height pattern :=
      ⟨hlength, .inl (passes_eq_nil_iff.mpr hknown)⟩
    rw [if_pos hall, if_pos hall, Option.some.injEq]
    by_cases hpattern : pattern = ""
    · exact iff_of_true (by rw [hknown, hpattern]) (.inr (.inl hpattern))
    · have hm : (⟨width, height, values.toArray⟩ : Raster UInt8).WellSized :=
        Raster.wellSized_mk hlength
      rw [despeckle_of_knownLetters_eq_empty hpattern hknown, hknown]
      refine (toList_clearBorder_eq_iff hm).trans ?_
      simp only [hpattern, hlength, ne_eq, not_true_eq_false, false_or]
      exact Iff.rfl
  · rw [Bool.eq_iff_iff, isSome_despeckleValues_iff, isSome_despeckleValues_iff, hkeeps]
  · rw [isSome_despeckleValues_iff, Keeps, passes_eq_nil_iff]

/-- A single pixel is all border. -/
theorem unknown_letter_clears_pixel :
    despeckleValues 1 1 [7] "?" ≠ despeckleValues 1 1 [7] (knownLetters "?") := by
  decide +kernel

end MotionWatch
