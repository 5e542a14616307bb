import MotionWatch.Raster

/-!
# Rasters and their rows

* `index_lt`, `mod_div_index`: pixels by their row-major index, and back.
* `getElem?_toList`, `zipIdx_toList`: the rows hold what `get` gets. `ext_get`: a raster is
  determined by that.
-/

namespace MotionWatch.Raster

variable {α : Type} {m m' : Raster α} {w h x y i : Nat} {l : List α}

theorem index_lt (hx : x < w) (hy : y < h) : y * w + x < w * h := by
  calc y * w + x < y * w + w := by omega
    _ = (y + 1) * w := by rw [Nat.add_mul, Nat.one_mul]
    _ ≤ h * w := Nat.mul_le_mul_right w hy
    _ = w * h := Nat.mul_comm h w

/-- The pixel of an index. -/
theorem mod_div_index (hi : i < w * h) : i % w < w ∧ i / w < h ∧ i / w * w + i % w = i := by
  have hw : 0 < w := by
    rcases Nat.eq_zero_or_pos w with rfl | hw
    · rw [Nat.zero_mul] at hi
      exact absurd hi (Nat.not_lt_zero i)
    · exact hw
  refine ⟨Nat.mod_lt i hw, ?_, Nat.div_add_mod' i w⟩
  exact Nat.div_lt_of_lt_mul hi

/-- The index of a pixel. -/
theorem index_mod_div (hx : x < w) : (y * w + x) % w = x ∧ (y * w + x) / w = y := by
  have hw : 0 < w := Nat.lt_of_le_of_lt (Nat.zero_le x) hx
  constructor
  · rw [Nat.add_comm, Nat.add_mul_mod_self_right, Nat.mod_eq_of_lt hx]
  · rw [Nat.add_comm, Nat.add_mul_div_right _ _ hw, Nat.div_eq_of_lt hx, Nat.zero_add]

theorem length_toList (hm : m.WellSized) : m.toList.length = m.width * m.height := by
  rw [toList, Array.length_toList]
  exact hm

theorem wellSized_mk (hl : l.length = w * h) : (⟨w, h, l.toArray⟩ : Raster α).WellSized := hl

variable [Inhabited α]

theorem getElem?_toList (hm : m.WellSized) (hx : x < m.width) (hy : y < m.height) :
    m.toList[y * m.width + x]? = some (m.get x y) := by
  have hi : y * m.width + x < m.cells.size := by
    rw [hm]
    exact index_lt hx hy
  rw [toList, Array.getElem?_toList, Array.getElem?_eq_getElem hi, get, if_pos hx,
    Array.getD_eq_getD_getElem?, Array.getElem?_eq_getElem hi]
  rfl

theorem getElem?_toList_of_lt (hm : m.WellSized) (hi : i < m.width * m.height) :
    m.toList[i]? = some (m.get (i % m.width) (i / m.width)) := by
  obtain ⟨hx, hy, heq⟩ := mod_div_index hi
  have h := getElem?_toList hm hx hy
  rwa [heq] at h

/-- The rows, with the index of every pixel. -/
theorem zipIdx_toList (hm : m.WellSized) : m.toList.zipIdx =
    (List.range (m.width * m.height)).map fun i => (m.get (i % m.width) (i / m.width), i) := by
  refine List.ext_getElem? fun i => ?_
  rw [List.getElem?_zipIdx, List.getElem?_map, Nat.zero_add]
  by_cases hi : i < m.width * m.height
  · rw [getElem?_toList_of_lt hm hi, List.getElem?_range hi]
    rfl
  · have hlength : m.toList.length ≤ i := by
      rw [length_toList hm]
      exact Nat.not_lt.mp hi
    have hrange : (List.range (m.width * m.height)).length ≤ i := by
      rw [List.length_range]
      exact Nat.not_lt.mp hi
    rw [List.getElem?_eq_none hlength, List.getElem?_eq_none hrange]
    rfl

/-- A raster is determined by its size and its pixels. -/
theorem ext_get (hm : m.WellSized) (hm' : m'.WellSized) (hw : m.width = m'.width)
    (hh : m.height = m'.height)
    (hget : ∀ x < m.width, ∀ y < m.height, m.get x y = m'.get x y) : m = m' := by
  have hlist : m.toList = m'.toList := by
    refine List.ext_getElem? fun i => ?_
    by_cases hi : i < m.width * m.height
    · obtain ⟨hx, hy, -⟩ := mod_div_index hi
      have hi' : i < m'.width * m'.height := by rwa [← hw, ← hh]
      rw [getElem?_toList_of_lt hm hi, getElem?_toList_of_lt hm' hi', hget _ hx _ hy, hw]
    · have hle : m.toList.length ≤ i := by
        rw [length_toList hm]
        exact Nat.not_lt.mp hi
      have hle' : m'.toList.length ≤ i := by
        rw [length_toList hm', ← hw, ← hh]
        exact Nat.not_lt.mp hi
      rw [List.getElem?_eq_none hle, List.getElem?_eq_none hle']
  obtain ⟨w, h, cells⟩ := m
  obtain ⟨w', h', cells'⟩ := m'
  obtain rfl : w = w' := hw
  obtain rfl : h = h' := hh
  obtain rfl : cells = cells' := Array.toList_inj.mp hlist
  rfl

end MotionWatch.Raster
