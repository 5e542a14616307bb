import Mathlib.Data.List.ProdSigma
import MotionWatch.Proofs.Block.Checked
import MotionWatch.Proofs.Block.Component

/-!
# Areas in a matrix

The areas of changed blocks are found in a matrix of marks. The search fills one area after the
other: it takes a cell from a stack, and the marked cells around it lose their marks and go on the
stack. It looks at places of the matrix only, and comes to an end.

* `areaOf_perm`: the order of the cells that are still to be looked at does not matter.
* `Shows`: a matrix with some cells marked. `Shows.unmark`: one mark less.
* `around`: the cells around one. `visit`: takes a mark away. `exists_foldlM_visit`: takes away the
  marks of some cells. `Shows.exists_foldlM_around`: of the ones around a cell.
* `fill`: an area. `exists_fill`: it is the one that is counted.
* `Checked.biggestArea`: the search in the whole matrix. `biggestArea_eq_ok`: what it finds.
* `biggestArea_cellsOf`: the biggest area of a matrix, and what is counted on the way.
-/

namespace MotionWatch

namespace Block

variable {edge edge' rest cells : List Cell} {c d : Cell}

/-- The order of the edge of an area does not matter. -/
theorem areaOf_perm (h : edge.Perm edge') (rest : List Cell) :
    areaOf edge rest = areaOf edge' rest := by
  have hsnd : (areaOf edge rest).2 = (areaOf edge' rest).2 := by
    classical
    rw [areaOf_snd, areaOf_snd]
    refine List.filter_congr fun d _ => decide_eq_decide.mpr (not_congr ?_)
    simp only [Belongs, h.mem_iff]
  have hlength := length_areaOf edge rest
  have hlength' := length_areaOf edge' rest
  have heq := h.length_eq
  rw [hsnd] at hlength
  exact Prod.ext (by omega) hsnd

/-- There are not more cells in an area than in all. -/
theorem biggestArea_le_length (cells : List Cell) : biggestArea cells ≤ cells.length := by
  fun_induction biggestArea cells with
  | case1 => exact Nat.le_refl 0
  | case2 c rest ih =>
    have hlength := length_areaOf [c] rest
    simp only [List.length_cons, List.length_nil] at hlength ⊢
    omega

end Block

namespace Checked

open Block

variable {width height : Nat} {m : Array Bool} {cells stack l : List Cell} {c d : Cell}

/-! ## Matrices -/

theorem read_eq_ok_iff {α : Type} {a : Array α} {i : Nat} {v : α} :
    read a i = .ok v ↔ a[i]? = some v := by
  unfold read
  cases a[i]? with
  | none => exact iff_of_false nofun nofun
  | some w => simp

/-- A matrix has these cells marked. -/
structure Shows (width height : Nat) (m : Array Bool) (cells : List Cell) : Prop where
  size_eq : m.size = width * height
  inside : ∀ c ∈ cells, c.1 < width ∧ c.2 < height
  nodup : cells.Nodup
  read_eq : ∀ c : Cell, c.1 < width → c.2 < height →
    read m (c.2 * width + c.1) = .ok (decide (c ∈ cells))

/-- A mark is taken away. -/
theorem Shows.unmark (h : Shows width height m cells) (hx : c.1 < width) (hy : c.2 < height) :
    Shows width height (m.setIfInBounds (c.2 * width + c.1) false) (cells.filter (· ≠ c)) where
  size_eq := Array.size_setIfInBounds.trans h.size_eq
  inside d hd := h.inside d (List.mem_filter.mp hd).1
  nodup := h.nodup.filter _
  read_eq d hdx hdy := by
    have hold := h.read_eq d hdx hdy
    have hd : d.2 * width + d.1 < m.size := by
      rw [h.size_eq]
      exact Raster.index_lt hdx hdy
    rw [read, Array.getElem?_setIfInBounds]
    by_cases heq : d = c
    · subst heq
      simp [hd]
    · have hne : ¬c.2 * width + c.1 = d.2 * width + d.1 := fun hindex =>
        heq ((BlockDetector.index_inj hx hdx).mp hindex).symm
      rw [if_neg hne]
      refine hold.trans ?_
      simp [heq]

/-! ## The cells around one -/

/-- The columns or rows of a grid that are next to one, with itself. -/
def near (side n : Nat) : List Nat :=
  ([-1, 0, 1] : List Int).filterMap fun o =>
    if 0 ≤ (n : Int) + o ∧ (n : Int) + o < side then some ((n : Int) + o).toNat else none

/-- The cells of a grid around one, with itself. -/
def around (width height : Nat) (c : Cell) : List Cell := near width c.1 ×ˢ near height c.2

theorem mem_near {side n k : Nat} : k ∈ near side n ↔ k < side ∧ n ≤ k + 1 ∧ k ≤ n + 1 := by
  unfold near
  simp only [List.mem_filterMap, Option.ite_none_right_eq_some, Option.some.injEq, List.mem_cons,
    List.not_mem_nil, or_false]
  constructor
  · rintro ⟨o, ho, hin, rfl⟩
    omega
  · rintro ⟨hk, hle, hge⟩
    exact ⟨(k : Int) - n, by omega, by omega, by omega⟩

theorem nodup_near (side n : Nat) : (near side n).Nodup := by
  refine List.Nodup.filterMap (fun o o' k ho ho' => ?_) (by decide)
  obtain ⟨hin, ho⟩ := Option.ite_none_right_eq_some.mp ho
  obtain ⟨hin', ho'⟩ := Option.ite_none_right_eq_some.mp ho'
  have heq := Option.some.inj (ho.trans ho'.symm)
  omega

theorem mem_around : d ∈ around width height c ↔ d.1 < width ∧ d.2 < height ∧ Touches c d := by
  rw [around, List.mem_product, mem_near, mem_near, Touches]
  omega

theorem nodup_around (width height : Nat) (c : Cell) : (around width height c).Nodup :=
  (nodup_near width c.1).product (nodup_near height c.2)

/-! ## Marks that are taken away -/

/-- Puts a cell on the stack if it is marked, and takes the mark away. -/
def visit (width height : Nat) (s : Array Bool × List Cell) (c : Cell) :
    Except Misstep (Array Bool × List Cell) := do
  let k ← place width height c
  if ← read s.1 k then .ok (s.1.setIfInBounds k false, c :: s.2) else .ok s

theorem visit_of_mem (h : Shows width height m cells) (hc : c ∈ cells) :
    visit width height (m, stack) c =
      .ok (m.setIfInBounds (c.2 * width + c.1) false, c :: stack) := by
  obtain ⟨hx, hy⟩ := h.inside c hc
  unfold visit
  rw [place_eq_ok hx hy, ok_bind, h.read_eq c hx hy, ok_bind, decide_eq_true hc]
  rfl

theorem visit_of_notMem (h : Shows width height m cells) (hx : c.1 < width) (hy : c.2 < height)
    (hc : c ∉ cells) : visit width height (m, stack) c = .ok (m, stack) := by
  unfold visit
  rw [place_eq_ok hx hy, ok_bind, h.read_eq c hx hy, ok_bind, decide_eq_false hc]
  rfl

/-- **The marked ones of some cells are put on the stack.** -/
theorem exists_foldlM_visit (h : Shows width height m cells) (hl : l.Nodup)
    (hin : ∀ c ∈ l, c.1 < width ∧ c.2 < height) (stack : List Cell) :
    ∃ m',
      l.foldlM (visit width height) (m, stack) = .ok (m', (l.filter (· ∈ cells)).reverse ++ stack) ∧
        Shows width height m' (cells.filter (· ∉ l)) := by
  induction l generalizing m stack cells with
  | nil =>
    refine ⟨m, rfl, ?_⟩
    simpa using h
  | cons c l ih =>
    obtain ⟨hcl, hl⟩ := List.nodup_cons.mp hl
    obtain ⟨hx, hy⟩ := hin c (.head l)
    have hin : ∀ d ∈ l, d.1 < width ∧ d.2 < height := fun d hd => hin d (.tail c hd)
    by_cases hc : c ∈ cells
    · obtain ⟨m', hfold, hm'⟩ := ih (h.unmark hx hy) hl hin (c :: stack)
      refine ⟨m', ?_, ?_⟩
      · have hsame : l.filter (· ∈ cells.filter (· ≠ c)) = l.filter (· ∈ cells) := by
          refine List.filter_congr fun d hd => decide_eq_decide.mpr ?_
          rw [List.mem_filter, decide_eq_true_iff]
          exact and_iff_left fun heq => hcl (heq ▸ hd)
        rw [List.foldlM_cons, visit_of_mem h hc, ok_bind, hfold, hsame,
          List.filter_cons, if_pos (decide_eq_true hc), List.reverse_cons, List.append_assoc]
        rfl
      · rw [List.filter_filter] at hm'
        have hsame : (cells.filter fun d => decide (d ∉ l) && decide (d ≠ c)) =
            cells.filter (· ∉ c :: l) := by
          refine List.filter_congr fun d _ => ?_
          rw [← Bool.decide_and, decide_eq_decide, List.mem_cons, not_or, and_comm]
        rwa [hsame] at hm'
    · obtain ⟨m', hfold, hm'⟩ := ih h hl hin stack
      refine ⟨m', ?_, ?_⟩
      · rw [List.foldlM_cons, visit_of_notMem h hx hy hc, ok_bind, hfold,
          List.filter_cons_of_neg (by simpa using hc)]
      · have hsame : cells.filter (· ∉ c :: l) = cells.filter (· ∉ l) := by
          refine List.filter_congr fun d hd => decide_eq_decide.mpr ?_
          rw [List.mem_cons, not_or]
          exact and_iff_right fun heq => hc (heq ▸ hd)
        rwa [hsame]

/-- A marked cell is around another one if it touches it. -/
theorem Shows.mem_around (h : Shows width height m cells) (hd : d ∈ cells) :
    d ∈ around width height c ↔ Touches c d := by
  obtain ⟨hx, hy⟩ := h.inside d hd
  rw [Checked.mem_around]
  exact ⟨fun h => h.2.2, fun h => ⟨hx, hy, h⟩⟩

/-- **The marked cells that touch one are put on the stack**, and the others stay marked. -/
theorem Shows.exists_foldlM_around (h : Shows width height m cells) (c : Cell) (stack : List Cell) :
    ∃ m' edge, (around width height c).foldlM (visit width height) (m, stack) = .ok (m', edge) ∧
      edge.Perm (stack ++ touching c cells) ∧ Shows width height m' (apart c cells) := by
  obtain ⟨m', hok, hm'⟩ := exists_foldlM_visit h (nodup_around width height c)
    (fun d hd => ⟨(Checked.mem_around.mp hd).1, (Checked.mem_around.mp hd).2.1⟩) stack
  have hrest : cells.filter (· ∉ around width height c) = apart c cells := by
    refine List.filter_congr fun d hd => ?_
    rw [← decide_not, decide_eq_decide]
    exact not_congr (h.mem_around hd)
  have htouching : ((around width height c).filter (· ∈ cells)).Perm (touching c cells) := by
    have hnodup : (touching c cells).Nodup := h.nodup.filter _
    have haround := (nodup_around width height c).filter (· ∈ cells)
    refine (List.perm_ext_iff_of_nodup haround hnodup).mpr fun d => ?_
    rw [List.mem_filter, decide_eq_true_iff, mem_touching, and_comm]
    exact and_congr_right fun hd => h.mem_around hd
  rw [hrest] at hm'
  exact ⟨m', _, hok,
    (((List.reverse_perm _).trans htouching).append_right stack).trans List.perm_append_comm, hm'⟩

/-! ## One area -/

/-- The number of cells that are marked or on the stack. -/
def weight (s : Array Bool × List Cell) : Nat := s.1.toList.count true + s.2.length

/-- A cell that goes on the stack loses its mark. -/
theorem weight_visit {s s' : Array Bool × List Cell} (h : visit width height s c = .ok s') :
    weight s' = weight s := by
  unfold visit at h
  obtain ⟨k, -, h⟩ := exists_of_bind_eq_ok h
  obtain ⟨v, hv, h⟩ := exists_of_bind_eq_ok h
  cases v with
  | false =>
    cases h
    rfl
  | true =>
    cases h
    obtain ⟨hlt, hvalue⟩ := Array.getElem?_eq_some_iff.mp (read_eq_ok_iff.mp hv)
    have hitem : s.1.toList[k] = true := (Array.getElem_toList hlt).trans hvalue
    have hpos : 0 < s.1.toList.count true :=
      List.count_pos_iff.mpr (Array.mem_toList_iff.mpr (Array.mem_of_getElem hvalue))
    have hcount : (s.1.toList.set k false).count true = s.1.toList.count true - 1 := by
      rw [List.count_set hlt, hitem]
      rfl
    unfold weight
    rw [Array.toList_setIfInBounds, hcount, List.length_cons]
    omega

theorem weight_foldlM_visit {s s' : Array Bool × List Cell}
    (h : l.foldlM (visit width height) s = .ok s') : weight s' = weight s :=
  of_foldlM_eq_ok (P := fun t => weight t = weight s) rfl
    (fun _ _ _ ht hvisit => (weight_visit hvisit).trans ht) h

/-- Counts the cells that are taken from the stack. The marked ones around each of them go on the
stack. -/
def fill (width height : Nat) (m : Array Bool) (stack : List Cell) :
    Except Misstep (Nat × Array Bool) :=
  match stack with
  | [] => .ok (0, m)
  | c :: stack =>
    match _hvisits : (around width height c).foldlM (visit width height) (m, stack) with
    | .error e => .error e
    | .ok (m', stack') => do
      let (n, m'') ← fill width height m' stack'
      .ok (n + 1, m'')
termination_by m.toList.count true + stack.length
decreasing_by
  have hweight := weight_foldlM_visit _hvisits
  unfold weight at hweight
  dsimp only at hweight
  rw [List.length_cons]
  omega

/-- **What is filled is an area.** -/
theorem exists_fill (h : Shows width height m cells) (stack : List Cell) :
    ∃ m', fill width height m stack = .ok ((areaOf stack cells).1, m') ∧
      Shows width height m' (areaOf stack cells).2 := by
  fun_induction fill width height m stack generalizing cells with
  | case1 m =>
    rw [areaOf]
    exact ⟨m, rfl, h⟩
  | case2 m c stack e herror =>
    obtain ⟨m', edge, hok, -⟩ := h.exists_foldlM_around c stack
    rw [hok] at herror
    cases herror
  | case3 m c stack m₁ stack₁ hok ih =>
    obtain ⟨m', edge, hok', hedge, hm'⟩ := h.exists_foldlM_around c stack
    rw [hok] at hok'
    obtain ⟨rfl, rfl⟩ := Prod.mk.inj (Except.ok.inj hok')
    obtain ⟨m₂, hfill, hm₂⟩ := ih hm'
    rw [areaOf, ← areaOf_perm hedge, hfill]
    exact ⟨m₂, rfl, hm₂⟩

/-! ## All areas -/

/-- Fills the area of a cell if it is marked, and keeps the size of the biggest one so far. -/
def scanCell (width height : Nat) (s : Array Bool × Nat) (c : Cell) :
    Except Misstep (Array Bool × Nat) := do
  let k ← place width height c
  if ← read s.1 k then
    let (area, m) ← fill width height (s.1.setIfInBounds k false) [c]
    .ok (m, max s.2 area)
  else .ok s

/-- The areas of the marked cells are filled in the order in which they are counted. -/
theorem exists_foldlM_scanCell (h : Shows width height m cells) (hsub : cells.Sublist l)
    (hl : l.Nodup) (hin : ∀ c ∈ l, c.1 < width ∧ c.2 < height) (best : Nat) :
    ∃ m', l.foldlM (scanCell width height) (m, best) =
      .ok (m', max best (Block.biggestArea cells)) := by
  induction l generalizing m cells best with
  | nil =>
    obtain rfl := List.sublist_nil.mp hsub
    rw [Block.biggestArea, Nat.max_zero]
    exact ⟨m, rfl⟩
  | cons c l ih =>
    obtain ⟨hcl, hl⟩ := List.nodup_cons.mp hl
    obtain ⟨hx, hy⟩ := hin c (.head l)
    have hin : ∀ d ∈ l, d.1 < width ∧ d.2 < height := fun d hd => hin d (.tail c hd)
    rw [List.foldlM_cons]
    unfold scanCell
    rw [place_eq_ok hx hy, ok_bind, h.read_eq c hx hy, ok_bind]
    cases hsub with
    | cons _ hsub =>
      have hc : c ∉ cells := fun hc => hcl (hsub.mem hc)
      rw [decide_eq_false hc]
      exact ih h hsub hl hin best
    | @cons_cons rest _ _ hsub =>
      obtain ⟨hcrest, -⟩ := List.nodup_cons.mp h.nodup
      have hunmark := h.unmark hx hy
      have hrest : (c :: rest).filter (· ≠ c) = rest := by
        rw [List.filter_cons_of_neg (by simp)]
        exact List.filter_eq_self.mpr fun d hd => decide_eq_true fun heq => hcrest (heq ▸ hd)
      rw [hrest] at hunmark
      obtain ⟨m₁, hfill, hm₁⟩ := exists_fill hunmark [c]
      have hleft : (areaOf [c] rest).2.Sublist l := by
        classical
        rw [areaOf_snd]
        exact List.filter_sublist.trans hsub
      rw [decide_eq_true List.mem_cons_self, if_pos rfl, hfill, ok_bind, Block.biggestArea,
        ← Nat.max_assoc]
      exact ih hm₁ hleft hl hin _

/-- The size of the biggest area of marked cells. -/
def biggestArea (width height : Nat) (m : Array Bool) : Except Misstep Nat := do
  let (_, best) ← (cellsOf width height fun _ _ => true).foldlM (scanCell width height) (m, 0)
  .ok best

/-- **The search for the biggest area makes no misstep.** -/
theorem biggestArea_eq_ok (h : Shows width height m cells)
    (hsub : cells.Sublist (cellsOf width height fun _ _ => true)) :
    biggestArea width height m = .ok (Block.biggestArea cells) := by
  obtain ⟨m', hscan⟩ := exists_foldlM_scanCell h hsub (nodup_cellsOf ..)
    (fun c hc => ⟨(mem_cellsOf.mp hc).1, (mem_cellsOf.mp hc).2.1⟩) 0
  rw [biggestArea, hscan, ok_bind, Nat.zero_max]

/-- A matrix that is stored in rows has the cells marked where it is true. -/
theorem shows_cellsOf {mark : Nat → Nat → Bool} (hsize : m.size = width * height)
    (hget : ∀ x < width, ∀ y < height, m[y * width + x]? = some (mark x y)) :
    Shows width height m (cellsOf width height mark) where
  size_eq := hsize
  inside c hc := ⟨(mem_cellsOf.mp hc).1, (mem_cellsOf.mp hc).2.1⟩
  nodup := nodup_cellsOf ..
  read_eq c hx hy := by
    have hmem : decide (c ∈ cellsOf width height mark) = mark c.1 c.2 := by
      rw [Bool.eq_iff_iff, decide_eq_true_iff, mem_cellsOf, and_iff_right hx, and_iff_right hy]
    rw [read_eq_ok_iff, hget _ hx _ hy, hmem]

end Checked

namespace Block

/-- **The biggest area of a matrix** of any size is the size of the biggest connected component of
its marked cells, or zero if there are none. The areas that are counted are connected components,
and every marked cell is counted once. The search that fills one area after the other in the matrix
itself comes to an end without a misstep, and finds this size. -/
theorem biggestArea_cellsOf (width height : Nat) (m : Nat → Nat → Bool) :
    IsGreatest (insert 0 (Set.range fun C : Component width height m => C.supp.ncard))
      (biggestArea (cellsOf width height m)) ∧
    IsGreatest (insert 0 {n | ∃ area ∈ areas (cellsOf width height m), area.length = n})
      (biggestArea (cellsOf width height m)) ∧
    (∀ area ∈ areas (cellsOf width height m),
      ∃ C : Component width height m, {c | c ∈ area} = Subtype.val '' C.supp) ∧
    (∀ c ∈ marked width height m, (areas (cellsOf width height m)).flatten.count c = 1) ∧
    Checked.biggestArea width height (Raster.ofFn width height m).cells =
      .ok (biggestArea (cellsOf width height m)) := by
  have hnodup : (cellsOf width height m).Nodup := nodup_cellsOf width height m
  have hwell := Raster.wellSized_ofFn width height m
  have hshows : Checked.Shows width height (Raster.ofFn width height m).cells
      (cellsOf width height m) := by
    refine Checked.shows_cellsOf hwell fun x hx y hy => ?_
    have hget := Raster.getElem?_toList hwell hx hy
    rwa [Raster.get_ofFn m hx hy, Raster.toList, Array.getElem?_toList] at hget
  unfold Component
  rw [marked_eq]
  refine ⟨isGreatest_biggestArea hnodup, isGreatest_length _, fun area => exists_component, ?_,
    Checked.biggestArea_eq_ok hshows (sublist_cellsOf width height m)⟩
  intro c hc
  rw [(perm_flatten_areas _).count_eq]
  exact List.count_eq_one_of_mem hnodup hc

end Block

end MotionWatch
