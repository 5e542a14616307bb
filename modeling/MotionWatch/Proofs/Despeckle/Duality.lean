import MotionWatch.Proofs.Despeckle.Border
import MotionWatch.Proofs.Despeckle.Threshold

/-!
# Dilating and eroding are dual

In the complement of a map bright and dark are exchanged. To erode it is to dilate the map, and
to dilate it is to erode the map, because windows are clipped at the edges in the same way for
both. Only the border tells the two apart: it is cleared in a map and in its complement.

* `complement`, `dualPattern`: the complement of a value, and a pattern with each pass exchanged
  for its opposite.
* `Pass.turns_complement`, `foldl_dual`: a pass, and any number of them, on the complement of a map.
* `get_despeckle_complement`: the inner pixels.
* `despeckleValues_complement_iff`: the two results are complements of each other at the pixels that
  are no border, and at no others.
-/

namespace MotionWatch

/-- The complement of a value. -/
def complement (v : UInt8) : UInt8 := 255 - v

/-- The letter of the opposite pass. -/
def dualLetter : Char → Char
  | 'd' => 'e'
  | 'e' => 'd'
  | 'D' => 'E'
  | 'E' => 'D'
  | c => c

/-- A pattern with each pass exchanged for its opposite. -/
def dualPattern (pattern : String) : String := .ofList (pattern.toList.map dualLetter)

/-! ## Passes -/

theorem toNat_complement (v : UInt8) : (complement v).toNat = 255 - v.toNat :=
  UInt8.toNat_sub_of_le 255 v (UInt8.le_iff_toNat_le.mpr (Nat.le_of_lt_succ v.toNat_lt))

theorem complement_le_complement_iff {a b : UInt8} : complement a ≤ complement b ↔ b ≤ a := by
  have ha := a.toNat_lt
  have hb := b.toNat_lt
  rw [UInt8.le_iff_toNat_le, UInt8.le_iff_toNat_le, toNat_complement, toNat_complement]
  omega

namespace Pass

/-- The opposite pass. -/
def dual : Pass → Pass
  | dilate r => erode r
  | erode r => dilate r

variable {p : Pass} {v w : UInt8}

theorem radius_dual (p : Pass) : p.dual.radius = p.radius := by
  cases p <;> rfl

theorem dual_prefers_complement_iff :
    p.dual.Prefers (complement v) (complement w) ↔ p.Prefers v w := by
  cases p with
  | dilate r => exact complement_le_complement_iff
  | erode r => exact complement_le_complement_iff

/-- **The opposite pass chooses the complement** of what a pass chooses. -/
theorem turns_complement (p : Pass) : Turns complement p p.dual where
  radius := radius_dual p
  choose a b := by
    have hall (v : UInt8) : p.Prefers v (p.choose a b) ↔ p.Prefers v a ∧ p.Prefers v b :=
      prefers_choose_iff
    have hboth : p.dual.Prefers (complement (p.choose a b)) (p.dual.choose (complement a)
        (complement b)) := by
      rw [prefers_choose_iff, dual_prefers_complement_iff, dual_prefers_complement_iff]
      exact (hall _).mp (prefers_refl p _)
    refine prefers_antisymm ?_ hboth
    -- The chosen value is one of the two, and so is its complement.
    obtain ⟨ha, hb⟩ := prefers_choose_iff.mp (prefers_refl p.dual (p.dual.choose (complement a)
      (complement b)))
    rcases choose_eq_or p a b with h | h
    · rwa [h]
    · rwa [h]

end Pass

variable {m : Raster UInt8} {pattern : String} {x y : Nat}

/-- **Any number of opposite passes on the complement of a map** make the complement. -/
theorem foldl_dual (hm : m.WellSized) (ps : List Pass) :
    (ps.map Pass.dual).foldl (fun m p => p.apply m) (m.map complement) =
      (ps.foldl (fun m p => p.apply m) m).map complement := by
  induction ps generalizing m with
  | nil => rfl
  | cons p ps ih =>
    have hpass : p.dual.apply (m.map complement) = (p.apply m).map complement :=
      p.turns_complement.apply_eq fun x hx y hy => Raster.get_map_of_lt hm hx hy
    rw [List.map_cons, List.foldl_cons, hpass, ih (Pass.wellSized_apply p m)]
    rfl

/-! ## Patterns -/

theorem Pass.ofChar?_dualLetter (c : Char) : ofChar? (dualLetter c) = (ofChar? c).map dual := by
  unfold dualLetter
  split
  case h_5 =>
    have hnone : ofChar? c = none := ofChar?_eq_none_iff.mpr (by simp_all)
    rw [hnone]
    rfl
  all_goals rfl

theorem passes_dualPattern (pattern : String) :
    passes (dualPattern pattern) = (passes pattern).map Pass.dual := by
  unfold passes dualPattern
  rw [String.toList_ofList, List.filterMap_map, List.map_filterMap]
  exact List.filterMap_congr fun c _ => Pass.ofChar?_dualLetter c

theorem dualPattern_eq_empty_iff : dualPattern pattern = "" ↔ pattern = "" := by
  rw [dualPattern, ← String.toList_inj, ← String.toList_inj, String.toList_ofList,
    String.toList_empty, List.map_eq_nil_iff]

/-- **Inner pixels of the complement become the complement.** -/
theorem get_despeckle_complement (hm : m.WellSized) (hpattern : pattern ≠ "")
    (h : isInner m.width m.height x y = true) :
    (despeckle (m.map complement) (dualPattern pattern)).get x y =
      complement ((despeckle m pattern).get x y) := by
  obtain ⟨hsized, hw, hh⟩ := wellSized_foldl_apply hm (passes pattern)
  obtain ⟨hx, hy⟩ := lt_of_isInner h
  rw [despeckle_of_ne_empty (dualPattern_eq_empty_iff.not.mpr hpattern), passes_dualPattern,
    foldl_dual hm, despeckle_of_ne_empty hpattern]
  generalize (passes pattern).foldl (fun m p => p.apply m) m = m' at *
  rw [← hw, ← hh] at h
  rw [get_clearBorder_of_isInner (m := m'.map complement) h, get_clearBorder_of_isInner h]
  exact Raster.get_map_of_lt hsized (hw.trans_gt hx) (hh.trans_gt hy)

theorem get_despeckle_complement_iff (hm : m.WellSized) (pattern : String) (hx : x < m.width)
    (hy : y < m.height) :
    (despeckle (m.map complement) (dualPattern pattern)).get x y =
        complement ((despeckle m pattern).get x y) ↔
      pattern = "" ∨ isInner m.width m.height x y = true := by
  by_cases hpattern : pattern = ""
  · subst hpattern
    exact iff_of_true (Raster.get_map_of_lt hm hx hy) (.inl rfl)
  by_cases hinner : isInner m.width m.height x y = true
  · exact iff_of_true (get_despeckle_complement hm hpattern hinner) (.inr hinner)
  · have hdual : dualPattern pattern ≠ "" := dualPattern_eq_empty_iff.not.mpr hpattern
    rw [get_despeckle_of_border hm hpattern hx hy hinner,
      get_despeckle_of_border (Raster.wellSized_map hm) hdual hx hy hinner]
    refine iff_of_false ?_ (not_or.mpr ⟨hpattern, hinner⟩)
    decide

theorem keeps_dualPattern_iff {width height : Nat} :
    Keeps width height (dualPattern pattern) ↔ Keeps width height pattern := by
  rw [Keeps, Keeps, passes_dualPattern, List.map_eq_nil_iff]

/-- **Dilating and eroding are dual.** A map can be despeckled if its complement can, with the
opposite passes. After that every pixel of the map has a value, and the same pixel of the complement
has the complement of that value if it is at least 4 away from all edges, or the pattern is empty,
and only then: the border is zero in both. -/
theorem despeckleValues_complement_iff {width height : Nat} {values : List UInt8}
    (hlength : values.length = width * height) (pattern : String) :
    ((despeckleValues width height values pattern).isSome = true ↔ Keeps width height pattern) ∧
    ((despeckleValues width height (values.map complement) (dualPattern pattern)).isSome = true ↔
      Keeps width height pattern) ∧
    ∀ l l', despeckleValues width height values pattern = some l →
      despeckleValues width height (values.map complement) (dualPattern pattern) = some l' →
        ∀ x < width, ∀ y < height, ∃ v, l[y * width + x]? = some v ∧
          (l'[y * width + x]? = some (complement v) ↔
            pattern = "" ∨ (4 ≤ x ∧ x + 4 < width) ∧ 4 ≤ y ∧ y + 4 < height) := by
  have hlength' : (values.map complement).length = width * height := by rwa [List.length_map]
  refine ⟨isSome_despeckleValues_iff.trans (and_iff_right hlength), ?_, ?_⟩
  · exact isSome_despeckleValues_iff.trans ((and_iff_right hlength').trans keeps_dualPattern_iff)
  · intro l l' hl hl' x hx y hy
    have hiff := get_despeckle_complement_iff (Raster.wellSized_mk hlength) pattern hx hy
    rw [isInner_iff, Raster.map, List.map_toArray] at hiff
    refine ⟨_, getElem?_of_despeckleValues hl hx hy, ?_⟩
    rw [getElem?_of_despeckleValues hl' hx hy, Option.some_inj]
    exact hiff

/-- Near a bright spot the map is as bright after dilating as its complement is dark after
eroding. -/
theorem despeckleValues_complement_twoSpots :
    twoSpots.length = 9 * 9 ∧ ∃ l l', despeckleValues 9 9 twoSpots "d" = some l ∧
      despeckleValues 9 9 (twoSpots.map complement) "e" = some l' ∧
      l[40]? = some 40 ∧ l'[40]? = some 215 := by
  have hlength : twoSpots.length = 9 * 9 := rfl
  have hmiddle : 4 < 9 := by decide
  obtain ⟨hsome, hsome', hdual⟩ := despeckleValues_complement_iff hlength "d"
  obtain ⟨l, hl⟩ := Option.isSome_iff_exists.mp (hsome.mpr (by decide))
  obtain ⟨l', hl'⟩ := Option.isSome_iff_exists.mp (hsome'.mpr (by decide))
  obtain ⟨v, hv, hiff⟩ := hdual l l' hl hl' 4 hmiddle 4 hmiddle
  have hspot : (despeckleValues 9 9 twoSpots "d").bind (·[40]?) = some 40 := by decide +kernel
  rw [hl] at hspot
  obtain rfl : 40 = v := Option.some.inj (hspot.symm.trans hv)
  exact ⟨hlength, l, l', hl, hl', hspot, hiff.mpr (.inr (by decide))⟩

end MotionWatch
