import Mathlib.Combinatorics.SimpleGraph.Connectivity.Connected
import Mathlib.Data.Set.Card
import MotionWatch.Block.Detector
import MotionWatch.Proofs.Block.Area
import MotionWatch.Proofs.Despeckle.Reach
import MotionWatch.Proofs.Raster

/-!
# Areas are connected components

Cells that touch at a side or at a corner are neighbours in a graph. The areas that are counted are
the connected components of the graph, and so the biggest area is as big as the biggest component.

* `neighbours`: the graph in which a cell has eight neighbours. `reachable_iff_linked`: what can be
  reached among some cells.
* `exists_component`: an area is a component; `range_ncard_supp`: there are no other components.
* `isGreatest_biggestArea`: the biggest area of some cells.
* `cellsOf`, `marked`, `Component`: the marked cells of a matrix, and what they are connected to.
* `isGreatest_area_report`: so a detector reports the size of the biggest component.
-/

namespace MotionWatch.Block

variable {a b c : Cell} {cells : List Cell}

/-! ## Connected components -/

theorem touches_iff : Touches a b ↔ chebyshev a b ≤ 1 := by
  unfold Touches chebyshev Nat.dist
  omega

/-- Every cell has eight neighbours, those that touch it at a side or at a corner. -/
def neighbours : SimpleGraph Cell where
  Adj a b := chebyshev a b = 1
  symm := ⟨fun a b h => by
    unfold chebyshev at h ⊢
    rwa [Nat.dist_comm b.1, Nat.dist_comm b.2]⟩
  loopless := ⟨fun a h => by
    rw [chebyshev_self] at h
    cases h⟩

/-- The neighbours among the cells of a list. -/
abbrev neighboursIn (cells : List Cell) : SimpleGraph {c | c ∈ cells} :=
  neighbours.induce {c | c ∈ cells}

theorem reachable_iff_linked (a b : {c | c ∈ cells}) :
    (neighboursIn cells).Reachable a b ↔ Linked cells a b := by
  rw [SimpleGraph.reachable_iff_reflTransGen]
  constructor
  · intro h
    induction h with
    | refl => exact .refl
    | @tail x y _ hxy ih => exact ih.tail ⟨touches_iff.mpr (Nat.le_of_eq hxy), y.2⟩
  · obtain ⟨b, hb⟩ := b
    intro h
    change Linked cells a b at h
    induction h with
    | refl => exact .refl
    | @tail x y hax hxy ih =>
      have hx : x ∈ cells := Linked.mem hax a.2
      rcases Nat.lt_or_eq_of_le (touches_iff.mp hxy.1) with hlt | heq
      · obtain rfl := eq_of_chebyshev_eq_zero (Nat.lt_one_iff.mp hlt)
        exact ih hx
      · exact (ih hx).tail heq

/-- **Every area is a connected component.** -/
theorem exists_component {area : List Cell} (h : area ∈ areas cells) :
    ∃ C : (neighboursIn cells).ConnectedComponent, {c | c ∈ area} = Subtype.val '' C.supp := by
  obtain ⟨c, hc, harea⟩ := mem_areas h
  refine ⟨(neighboursIn cells).connectedComponentMk ⟨c, hc⟩, Set.ext fun d => ?_⟩
  rw [Set.mem_ofPred_eq, harea]
  constructor
  · rintro ⟨hd, hlinked⟩
    refine ⟨⟨d, hd⟩, ?_, rfl⟩
    exact SimpleGraph.ConnectedComponent.eq.mpr ((reachable_iff_linked _ _).mpr hlinked).symm
  · rintro ⟨⟨d, hd⟩, hmem, rfl⟩
    have hreachable := SimpleGraph.ConnectedComponent.eq.mp hmem
    exact ⟨hd, (reachable_iff_linked _ _).mp hreachable.symm⟩

theorem ncard_supp_eq_length {area : List Cell} {C : (neighboursIn cells).ConnectedComponent}
    (hnodup : area.Nodup) (h : {c | c ∈ area} = Subtype.val '' C.supp) :
    C.supp.ncard = area.length := by
  rw [← Set.ncard_image_of_injective C.supp Subtype.val_injective, ← h, ← List.coe_toFinset,
    Set.ncard_coe_finset, List.toFinset_card_of_nodup hnodup]

/-- The connected components are as big as the areas. -/
theorem range_ncard_supp (hcells : cells.Nodup) :
    (Set.range fun C : (neighboursIn cells).ConnectedComponent => C.supp.ncard) =
      {n | ∃ area ∈ areas cells, area.length = n} := by
  have hnodup : ∀ area ∈ areas cells, area.Nodup := fun area harea =>
    (List.nodup_flatten.mp ((perm_flatten_areas cells).nodup_iff.mpr hcells)).1 area harea
  ext n
  constructor
  · rintro ⟨C, rfl⟩
    obtain ⟨⟨c, hc⟩, rfl⟩ := C.exists_rep
    obtain ⟨area, harea, hmem⟩ := List.mem_flatten.mp ((perm_flatten_areas cells).mem_iff.mpr hc)
    obtain ⟨C, hC⟩ := exists_component harea
    obtain ⟨⟨c, hc⟩, hsupp, rfl⟩ := hC.subset hmem
    obtain rfl := hsupp
    exact ⟨area, harea, (ncard_supp_eq_length (hnodup area harea) hC).symm⟩
  · rintro ⟨area, harea, rfl⟩
    obtain ⟨C, hC⟩ := exists_component harea
    exact ⟨C, ncard_supp_eq_length (hnodup area harea) hC⟩

/-- **The biggest area is as big as the biggest connected component**, or zero if there are no
cells. -/
theorem isGreatest_biggestArea (hcells : cells.Nodup) :
    IsGreatest (insert 0 (Set.range fun C : (neighboursIn cells).ConnectedComponent =>
      C.supp.ncard)) (biggestArea cells) := by
  rw [range_ncard_supp hcells]
  exact isGreatest_length cells

/-! ## Matrices -/

/-- The marked cells of a matrix, in rows. -/
def cellsOf (width height : Nat) (m : Nat → Nat → Bool) : List Cell :=
  (List.range (width * height)).filterMap fun i =>
    if m (i % width) (i / width) then some (i % width, i / width) else none

section Matrices

variable {width height : Nat} {m : Nat → Nat → Bool}

theorem mem_cellsOf :
    c ∈ cellsOf width height m ↔ c.1 < width ∧ c.2 < height ∧ m c.1 c.2 = true := by
  rw [cellsOf, List.mem_filterMap]
  constructor
  · rintro ⟨i, hi, hc⟩
    obtain ⟨hx, hy, -⟩ := Raster.mod_div_index (List.mem_range.mp hi)
    obtain ⟨hm, heq⟩ := Option.ite_none_right_eq_some.mp hc
    obtain rfl := Option.some.inj heq
    exact ⟨hx, hy, hm⟩
  · rintro ⟨hx, hy, hm⟩
    obtain ⟨hmod, hdiv⟩ := Raster.index_mod_div (y := c.2) hx
    refine ⟨c.2 * width + c.1, List.mem_range.mpr (Raster.index_lt hx hy), ?_⟩
    rw [hmod, hdiv, if_pos hm]

theorem nodup_cellsOf (width height : Nat) (m : Nat → Nat → Bool) :
    (cellsOf width height m).Nodup := by
  refine List.Nodup.filterMap (fun i j c hi hj => ?_) List.nodup_range
  obtain ⟨-, hi⟩ := Option.ite_none_right_eq_some.mp hi
  obtain ⟨-, hj⟩ := Option.ite_none_right_eq_some.mp hj
  obtain ⟨hmod, hdiv⟩ := Prod.mk.inj (Option.some.inj (hi.trans hj.symm))
  rw [← Nat.div_add_mod' i width, ← Nat.div_add_mod' j width, hmod, hdiv]

/-- The places of the marked cells of a matrix. -/
def marked (width height : Nat) (m : Nat → Nat → Bool) : Set Cell :=
  {c | c.1 < width ∧ c.2 < height ∧ m c.1 c.2 = true}

/-- A connected component of the marked cells. -/
abbrev Component (width height : Nat) (m : Nat → Nat → Bool) : Type :=
  (neighbours.induce (marked width height m)).ConnectedComponent

theorem marked_eq : marked width height m = {c | c ∈ cellsOf width height m} :=
  Set.ext fun _ => mem_cellsOf.symm

/-- The marked cells are in the order of all cells. -/
theorem sublist_cellsOf (width height : Nat) (m : Nat → Nat → Bool) :
    (cellsOf width height m).Sublist (cellsOf width height fun _ _ => true) := by
  have hfilter : cellsOf width height m =
      (cellsOf width height fun _ _ => true).filter fun c => m c.1 c.2 := by
    unfold cellsOf
    rw [List.filter_filterMap]
    refine List.filterMap_congr fun i _ => ?_
    rw [if_pos rfl, Option.filter_some]
  rw [hfilter]
  exact List.filter_sublist

end Matrices

/-! ## Reports -/

/-- The changed blocks are the marked cells of a square matrix. -/
theorem changedBlocks_eq (d : BlockDetector) (side : Nat) (ts : Array BlockDetector.Tally) :
    d.changedBlocks side ts =
      cellsOf side side fun x y => d.isChanged (ts.getD (y * side + x) .zero) := by
  unfold BlockDetector.changedBlocks cellsOf
  simp only [Nat.div_add_mod']

/-- **A detector reports the size of the biggest connected component** of the changed blocks. -/
theorem isGreatest_area_report (d : BlockDetector) (side : Nat) (ts : Array BlockDetector.Tally) :
    IsGreatest (insert 0 (Set.range
      fun C : (neighboursIn (d.changedBlocks side ts)).ConnectedComponent => C.supp.ncard))
      (d.report side ts).area := by
  have hchanged : d.changedBlocks side ts = cellsOf side side _ := changedBlocks_eq d side ts
  exact isGreatest_biggestArea (hchanged ▸ nodup_cellsOf side side _)

end MotionWatch.Block
