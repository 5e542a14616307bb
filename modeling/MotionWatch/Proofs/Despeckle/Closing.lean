import Mathlib.Data.List.Forall2
import Mathlib.Order.GaloisConnection.Defs
import MotionWatch.Proofs.Despeckle.Window

/-!
# Closing and opening

To dilate and then to erode closes small holes; to erode and then to dilate removes small spots. A
dilated map is below another one exactly if the map itself is below the other one eroded, also
where windows are clipped and on maps that are smaller than a window. All laws of closing and
opening follow from this one.

* The order of maps of one size, pixel by pixel; `Raster.eq_of_le_of_le`, `Raster.forall₂_toList`.
* `Pass.gc_dilate_erode`: dilating and eroding are a Galois connection.
* `Pass.dilate_erode_dilate`, `Pass.erode_dilate_erode`: what a third pass does.
* `get_le_despeckle`, `despeckle_le`: closing does not lower a pixel, apart from the border, and
  opening does not raise one.
* `closing_opening_laws`: of which maps these laws hold, and laws for parts of any pattern.
  `long_row_is_not_opened`: a map without a result.
-/

namespace MotionWatch

/-! ## The order of maps -/

namespace Raster

/-- Maps of one size are compared pixel by pixel. -/
instance : Preorder (Raster UInt8) where
  le m m' := m.width = m'.width ∧ m.height = m'.height ∧
    ∀ x < m.width, ∀ y < m.height, m.get x y ≤ m'.get x y
  le_refl m := ⟨rfl, rfl, fun _ _ _ _ => UInt8.le_refl _⟩
  le_trans := by
    rintro m m' m'' ⟨hw, hh, h⟩ ⟨hw', hh', h'⟩
    refine ⟨hw.trans hw', hh.trans hh', fun x hx y hy => ?_⟩
    exact UInt8.le_trans (h x hx y hy) (h' x (hw ▸ hx) y (hh ▸ hy))

variable {m m' : Raster UInt8}

theorem eq_of_le_of_le (hm : m.WellSized) (hm' : m'.WellSized) (h : m ≤ m') (h' : m' ≤ m) :
    m = m' := by
  obtain ⟨hw, hh, hle⟩ := h
  obtain ⟨-, -, hle'⟩ := h'
  refine ext_get hm hm' hw hh fun x hx y hy => ?_
  exact UInt8.le_antisymm (hle x hx y hy) (hle' x (hw ▸ hx) y (hh ▸ hy))

/-- The rows of a map are nowhere greater than those of a map above it. -/
theorem forall₂_toList (hm : m.WellSized) (hm' : m'.WellSized) (h : m ≤ m') :
    List.Forall₂ (· ≤ ·) m.toList m'.toList := by
  obtain ⟨hw, hh, hle⟩ := h
  have hlength : m.toList.length = m'.toList.length := by
    rw [length_toList hm, length_toList hm', hw, hh]
  refine List.forall₂_iff_get.mpr ⟨hlength, fun i hi hi' => ?_⟩
  have hlt : i < m.width * m.height := hi.trans_eq (length_toList hm)
  have hlt' : i < m'.width * m'.height := hi'.trans_eq (length_toList hm')
  obtain ⟨hx, hy, -⟩ := mod_div_index hlt
  obtain ⟨_, hget⟩ := List.getElem?_eq_some_iff.mp (getElem?_toList_of_lt hm hlt)
  obtain ⟨_, hget'⟩ := List.getElem?_eq_some_iff.mp (getElem?_toList_of_lt hm' hlt')
  rw [List.get_eq_getElem, List.get_eq_getElem, hget, hget', ← hw]
  exact hle _ hx _ hy

end Raster

/-! ## Dilating and eroding -/

theorem chebyshev_comm (p q : Nat × Nat) : chebyshev p q = chebyshev q p := by
  rw [chebyshev, chebyshev, Nat.dist_comm p.1, Nat.dist_comm p.2]

/-- Every pixel of the one map is at most those of the other one that are near to it. -/
def Raster.LeAround (r : Nat) (m m' : Raster UInt8) : Prop :=
  m.width = m'.width ∧ m.height = m'.height ∧
    ∀ x < m.width, ∀ y < m.height, ∀ i < m.width, ∀ j < m.height,
      chebyshev (i, j) (x, y) ≤ r → m.get x y ≤ m'.get i j

namespace Pass

variable {r : Nat} {m m' : Raster UInt8}

theorem le_erode_iff : m ≤ (erode r).apply m' ↔ m.LeAround r m' := by
  refine and_congr_right fun (hw : m.width = m'.width) =>
    and_congr_right fun (hh : m.height = m'.height) => ?_
  refine forall₂_congr fun x hx => forall₂_congr fun y hy => ?_
  rw [hw] at hx ⊢
  rw [hh] at hy ⊢
  exact prefers_apply_iff (p := erode r) hx hy

theorem dilate_le_iff : (dilate r).apply m ≤ m' ↔ m.LeAround r m' := by
  refine and_congr_right fun _ => and_congr_right fun _ => ?_
  have hpixel (x : Nat) (hx : x < m.width) (y : Nat) (hy : y < m.height) :
      ((dilate r).apply m).get x y ≤ m'.get x y ↔ ∀ i < m.width, ∀ j < m.height,
        chebyshev (i, j) (x, y) ≤ r → m.get i j ≤ m'.get x y :=
    prefers_apply_iff (p := dilate r) hx hy
  constructor
  · intro h x hx y hy i hi j hj hdist
    rw [chebyshev_comm] at hdist
    exact (hpixel i hi j hj).mp (h i hi j hj) x hx y hy hdist
  · intro h x hx y hy
    refine (hpixel x hx y hy).mpr fun i hi j hj hdist => ?_
    rw [chebyshev_comm] at hdist
    exact h i hi j hj x hx y hy hdist

/-- **A dilated map is below another one if the map is below the other one eroded**, and only
then. -/
theorem gc_dilate_erode (r : Nat) : GaloisConnection (dilate r).apply (erode r).apply :=
  fun _ _ => dilate_le_iff.trans le_erode_iff.symm

variable (r : Nat) (m : Raster UInt8)

/-- A closed map does not change when it is dilated once more. -/
theorem dilate_erode_dilate :
    (dilate r).apply ((erode r).apply ((dilate r).apply m)) = (dilate r).apply m := by
  have gc := gc_dilate_erode r
  refine Raster.eq_of_le_of_le (wellSized_apply ..) (wellSized_apply ..) (gc.l_u_le _) ?_
  exact gc.monotone_l (gc.le_u_l m)

theorem erode_dilate_erode :
    (erode r).apply ((dilate r).apply ((erode r).apply m)) = (erode r).apply m := by
  have gc := gc_dilate_erode r
  refine Raster.eq_of_le_of_le (wellSized_apply ..) (wellSized_apply ..) ?_ (gc.le_u_l _)
  exact gc.monotone_u (gc.l_u_le m)

end Pass

/-! ## Patterns of two passes -/

section Patterns

variable {m : Raster UInt8} {pattern : String} {r x y : Nat}

theorem clearBorder_le (m : Raster UInt8) : clearBorder m ≤ m := by
  refine ⟨rfl, rfl, fun x (hx : x < m.width) y (hy : y < m.height) => ?_⟩
  rw [get_clearBorder hx hy]
  split
  · exact UInt8.le_refl _
  · exact UInt8.zero_le

/-- **Closing does not lower a pixel** that is no border. -/
theorem get_le_despeckle (hpattern : passes pattern = [.dilate r, .erode r])
    (h : isInner m.width m.height x y = true) : m.get x y ≤ (despeckle m pattern).get x y := by
  obtain ⟨hx, hy⟩ := lt_of_isInner h
  obtain ⟨-, -, hle⟩ := (Pass.gc_dilate_erode r).le_u_l m
  rw [despeckle_of_passes hpattern (List.cons_ne_nil _ _)]
  refine (hle x hx y hy).trans_eq ?_
  exact (get_clearBorder_of_isInner (m := (Pass.erode r).apply ((Pass.dilate r).apply m)) h).symm

/-- **Opening does not raise a pixel.** -/
theorem despeckle_le (m : Raster UInt8) (hpattern : passes pattern = [.erode r, .dilate r]) :
    despeckle m pattern ≤ m := by
  rw [despeckle_of_passes hpattern (List.cons_ne_nil _ _)]
  exact (clearBorder_le _).trans ((Pass.gc_dilate_erode r).l_u_le m)

end Patterns

/-! ## Laws -/

section Laws

variable {width height : Nat} {values l : List UInt8} {pattern : String} {r x y : Nat}

/-- Closing the values of a map. -/
theorem exists_le_of_despeckleValues (hpattern : passes pattern = [.dilate r, .erode r])
    (hl : despeckleValues width height values pattern = some l)
    (h : isInner width height x y = true) {v : UInt8} (hv : values[y * width + x]? = some v) :
    ∃ w, l[y * width + x]? = some w ∧ v ≤ w := by
  obtain ⟨hlength, -, rfl⟩ := despeckleValues_eq_some_iff.mp hl
  let m : Raster UInt8 := ⟨width, height, values.toArray⟩
  have hm : m.WellSized := Raster.wellSized_mk hlength
  obtain ⟨hx, hy⟩ := lt_of_isInner h
  have hget : values[y * width + x]? = some (m.get x y) := Raster.getElem?_toList hm hx hy
  obtain rfl : v = m.get x y := Option.some.inj (hv.symm.trans hget)
  have hresult := Raster.getElem?_toList (wellSized_despeckle hm pattern) (x := x) (y := y)
  rw [width_despeckle hm, height_despeckle hm] at hresult
  exact ⟨(despeckle m pattern).get x y, hresult hx hy, get_le_despeckle hpattern h⟩

/-- Opening the values of a map. -/
theorem forall₂_le_of_despeckleValues (hpattern : passes pattern = [.erode r, .dilate r])
    (hl : despeckleValues width height values pattern = some l) :
    List.Forall₂ (· ≤ ·) l values := by
  obtain ⟨hlength, -, rfl⟩ := despeckleValues_eq_some_iff.mp hl
  have hm := Raster.wellSized_mk hlength
  exact Raster.forall₂_toList (wellSized_despeckle hm pattern) hm (despeckle_le _ hpattern)

/-- A law of all maps that a pattern makes holds if there is such a map, and that depends on the
size. -/
theorem exists_despeckleValues_iff (hpasses : passes pattern ≠ []) {P : List UInt8 → Prop}
    (hlaw : ∀ l, despeckleValues width height values pattern = some l → P l) :
    (∃ l, despeckleValues width height values pattern = some l ∧ P l) ↔
      values.length = width * height ∧ Count.Fits width height := by
  rw [← or_iff_right (b := Count.Fits width height) hpasses, ← Keeps, ← isSome_despeckleValues_iff,
    Option.isSome_iff_exists]
  exact exists_congr fun l => and_iff_left_of_imp (hlaw l)

/-- **Laws of closing and opening**, for both sizes of windows. Amid any other passes, a pass, its
opposite and the pass again are no more than that pass, on maps of any size; so to close or to open
twice in one pattern is no more than to do it once. Closing does not lower a pixel that is at least
4 away from all edges, and opening does not raise any: these two laws hold exactly of the maps
neither of whose sides is cut off, since nothing comes of any others. -/
theorem closing_opening_laws (width height : Nat) (values : List UInt8) :
    (∀ pattern ∈ ["de", "DE"],
      (∃ l, despeckleValues width height values pattern = some l ∧
        ∀ x y v, 4 ≤ x ∧ x + 4 < width → 4 ≤ y ∧ y + 4 < height →
          values[y * width + x]? = some v → ∃ w, l[y * width + x]? = some w ∧ v ≤ w) ↔
        values.length = width * height ∧ Count.Fits width height) ∧
    (∀ pattern ∈ ["ed", "ED"],
      (∃ l, despeckleValues width height values pattern = some l ∧
        List.Forall₂ (· ≤ ·) l values) ↔
        values.length = width * height ∧ Count.Fits width height) ∧
    (∀ p ∈ [("ded", "d"), ("ede", "e"), ("DED", "D"), ("EDE", "E")], ∀ u v,
      despeckleValues width height values (u ++ p.1 ++ v) =
        despeckleValues width height values (u ++ p.2 ++ v)) ∧
    ∀ p ∈ ["de", "ed", "DE", "ED"], ∀ u v,
      despeckleValues width height values (u ++ (p ++ p) ++ v) =
        despeckleValues width height values (u ++ p ++ v) := by
  simp only [List.forall_mem_cons]
  refine ⟨⟨?_, ?_, nofun⟩, ⟨?_, ?_, nofun⟩, ⟨?_, ?_, ?_, ?_, nofun⟩, ?_, ?_, ?_, ?_, nofun⟩
  · exact exists_despeckleValues_iff (by decide) fun l hl x y v hx hy =>
      exists_le_of_despeckleValues (r := 2) rfl hl (isInner_iff.mpr ⟨hx, hy⟩)
  · exact exists_despeckleValues_iff (by decide) fun l hl x y v hx hy =>
      exists_le_of_despeckleValues (r := 4) rfl hl (isInner_iff.mpr ⟨hx, hy⟩)
  · exact exists_despeckleValues_iff (by decide) fun l hl =>
      forall₂_le_of_despeckleValues (r := 2) rfl hl
  · exact exists_despeckleValues_iff (by decide) fun l hl =>
      forall₂_le_of_despeckleValues (r := 4) rfl hl
  · exact despeckleValues_exchange (a := "ded") (b := "d") (by decide) (by decide)
      (Pass.dilate_erode_dilate 2) width height values
  · exact despeckleValues_exchange (a := "ede") (b := "e") (by decide) (by decide)
      (Pass.erode_dilate_erode 2) width height values
  · exact despeckleValues_exchange (a := "DED") (b := "D") (by decide) (by decide)
      (Pass.dilate_erode_dilate 4) width height values
  · exact despeckleValues_exchange (a := "EDE") (b := "E") (by decide) (by decide)
      (Pass.erode_dilate_erode 4) width height values
  -- After the first two passes the third one is already the one to be left out.
  · refine despeckleValues_exchange (b := "de") (by decide) (by decide) (fun m => ?_)
      width height values
    exact congrArg (Pass.erode 2).apply (Pass.dilate_erode_dilate 2 m)
  · refine despeckleValues_exchange (b := "ed") (by decide) (by decide) (fun m => ?_)
      width height values
    exact congrArg (Pass.dilate 2).apply (Pass.erode_dilate_erode 2 m)
  · refine despeckleValues_exchange (b := "DE") (by decide) (by decide) (fun m => ?_)
      width height values
    exact congrArg (Pass.erode 4).apply (Pass.dilate_erode_dilate 4 m)
  · refine despeckleValues_exchange (b := "ED") (by decide) (by decide) (fun m => ?_)
      width height values
    exact congrArg (Pass.dilate 4).apply (Pass.erode_dilate_erode 4 m)

/-- **A map to which the laws do not apply:** a black row of `2 ^ 32` pixels can be neither closed
nor opened. -/
theorem long_row_is_not_opened :
    (List.replicate sideLimit (0 : UInt8)).length = sideLimit * 1 ∧
    despeckleValues sideLimit 1 (List.replicate sideLimit 0) "ed" = none ∧
    ¬∃ l, despeckleValues sideLimit 1 (List.replicate sideLimit 0) "ed" = some l ∧
      List.Forall₂ (· ≤ ·) l (List.replicate sideLimit 0) := by
  have hstops : despeckleValues sideLimit 1 (List.replicate sideLimit 0) "ed" = none := by
    rw [despeckleValues_eq, if_neg fun h => absurd h.2 (by decide)]
  refine ⟨List.length_replicate, hstops, ?_⟩
  rw [hstops]
  exact fun ⟨l, hl, _⟩ => nomatch hl

end Laws

end MotionWatch
