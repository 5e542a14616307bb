import Mathlib.Logic.Relation
import Mathlib.Order.Bounds.Basic
import MotionWatch.Block.Area

/-!
# The areas of a grid

An area is grown from one cell until no cell is left that touches it. It then has all the cells that
are linked to this one, and the next area is grown from the cells that are left.

* `Linked`: cells that are linked through cells of a list, by steps between cells that touch.
* `areaOf_snd`: what is left when an area was grown are the cells that are not linked to its edge.
* `areas`: the areas that are counted, one after the other. `isGreatest_length`: the biggest area is
  the biggest of them.
* `perm_flatten_areas`: every cell is in one of them; `mem_areas`: each of them has all the cells
  that are linked to one cell.
-/

namespace MotionWatch.Block

variable {a b c d : Cell} {edge rest cells cells' : List Cell}

/-! ## Links -/

theorem Touches.refl (a : Cell) : Touches a a :=
  ⟨Nat.le_succ _, Nat.le_succ _, Nat.le_succ _, Nat.le_succ _⟩

theorem Touches.symm (h : Touches a b) : Touches b a := ⟨h.2.1, h.1, h.2.2.2, h.2.2.1⟩

theorem mem_touching : d ∈ touching c cells ↔ d ∈ cells ∧ Touches c d := by
  rw [touching, List.mem_filter, decide_eq_true_iff]

theorem mem_apart : d ∈ apart c cells ↔ d ∈ cells ∧ ¬Touches c d := by
  rw [apart, List.mem_filter, Bool.not_eq_true', decide_eq_false_iff_not]

/-- The second cell is reached from the first one by steps between cells that touch. All steps lead
to cells of the list. -/
def Linked (cells : List Cell) : Cell → Cell → Prop :=
  Relation.ReflTransGen fun a b => Touches a b ∧ b ∈ cells

namespace Linked

theorem single (h : Touches a b) (hb : b ∈ cells) : Linked cells a b :=
  Relation.ReflTransGen.single ⟨h, hb⟩

theorem mono (h : Linked cells a b) (hsub : ∀ c ∈ cells, c ∈ cells') : Linked cells' a b :=
  Relation.ReflTransGen.mono (fun _ c hc => ⟨hc.1, hsub c hc.2⟩) a b h

theorem mem (h : Linked cells a b) (ha : a ∈ cells) : b ∈ cells := by
  cases h with
  | refl => exact ha
  | tail _ hbc => exact hbc.2

end Linked

/-- The cells that belong to the area of an edge: they are linked to it by the rest. -/
def Belongs (edge rest : List Cell) (d : Cell) : Prop := ∃ c ∈ edge, Linked rest c d

/-- When a cell of the edge has been looked at, the cells that touch it are in its place. -/
theorem belongs_cons_iff (hd : d ∈ rest) : Belongs (c :: edge) rest d ↔
    Touches c d ∨ Belongs (edge ++ touching c rest) (apart c rest) d := by
  have hsub : ∀ x ∈ apart c rest, x ∈ rest := fun x hx => (mem_apart.mp hx).1
  constructor
  · rintro ⟨e, he, hlinked⟩
    -- Along the way from `e`, every cell is `c` itself or belongs to the new edge.
    have hway : d = c ∨ Belongs (edge ++ touching c rest) (apart c rest) d := by
      clear hd
      induction hlinked with
      | refl =>
        rcases List.mem_cons.mp he with rfl | he
        · exact .inl rfl
        · exact .inr ⟨e, List.mem_append_left _ he, .refl⟩
      | @tail x y _ hxy ih =>
        by_cases hcy : Touches c y
        · exact .inr ⟨y, List.mem_append_right _ (mem_touching.mpr ⟨hxy.2, hcy⟩), .refl⟩
        · rcases ih with rfl | ⟨e', he', hx⟩
          · exact absurd hxy.1 hcy
          · exact .inr ⟨e', he', hx.tail ⟨hxy.1, mem_apart.mpr ⟨hxy.2, hcy⟩⟩⟩
    rcases hway with rfl | hbelongs
    · exact .inl (.refl d)
    · exact .inr hbelongs
  · rintro (htouch | ⟨e, he, hlinked⟩)
    · exact ⟨c, .head edge, .single htouch hd⟩
    · have hlinked := hlinked.mono hsub
      rcases List.mem_append.mp he with he | he
      · exact ⟨e, .tail c he, hlinked⟩
      · obtain ⟨he, htouch⟩ := mem_touching.mp he
        exact ⟨c, .head edge, (Linked.single htouch he).trans hlinked⟩

open Classical in
/-- **What is left when an area was grown** are the cells that do not belong to it. -/
theorem areaOf_snd (edge rest : List Cell) :
    (areaOf edge rest).2 = rest.filter fun d => ¬Belongs edge rest d := by
  fun_induction areaOf edge rest with
  | case1 rest =>
    refine (List.filter_eq_self.mpr fun d _ => decide_eq_true ?_).symm
    rintro ⟨c, hc, -⟩
    cases hc
  | case2 rest c edge result ih =>
    show result.2 = _
    rw [ih, apart, List.filter_filter]
    refine List.filter_congr fun d hd => ?_
    rw [← apart]
    simp only [belongs_cons_iff hd, not_or, Bool.decide_and, decide_not]
    exact Bool.and_comm ..

theorem mem_areaOf_snd : d ∈ (areaOf edge rest).2 ↔ d ∈ rest ∧ ¬Belongs edge rest d := by
  classical
  rw [areaOf_snd, List.mem_filter, decide_eq_true_iff]

theorem length_areaOf_snd_le (edge rest : List Cell) :
    (areaOf edge rest).2.length ≤ rest.length := by
  classical
  rw [areaOf_snd]
  exact List.length_filter_le ..

/-! ## One area after the other -/

/-- The areas that are counted, one after the other. Each of them grows from the first cell that is
left. -/
def areas (cells : List Cell) : List (List Cell) :=
  match cells with
  | [] => []
  | c :: rest =>
    (c :: rest.filter fun d => d ∉ (areaOf [c] rest).2) :: areas (areaOf [c] rest).2
termination_by cells.length
decreasing_by exact Nat.lt_succ_of_le (length_areaOf_snd_le [c] rest)

/-- The rest is shared out between an area and what is left. -/
theorem perm_areaOf (edge rest : List Cell) :
    (rest.filter (fun d => d ∉ (areaOf edge rest).2) ++ (areaOf edge rest).2).Perm rest := by
  classical
  have hleft : (areaOf edge rest).2 = rest.filter fun d => d ∈ (areaOf edge rest).2 := by
    conv => lhs; rw [areaOf_snd]
    refine List.filter_congr fun d hd => ?_
    simp only [mem_areaOf_snd, hd, true_and]
  conv => lhs; rhs; rw [hleft]
  have hperm := List.filter_append_perm (fun d => decide (d ∉ (areaOf edge rest).2)) rest
  simpa only [decide_not, Bool.not_not] using hperm

/-- The cells of an area are counted. -/
theorem length_area (c : Cell) (rest : List Cell) :
    (c :: rest.filter fun d => d ∉ (areaOf [c] rest).2).length = (areaOf [c] rest).1 := by
  have hcount := length_areaOf [c] rest
  have hlength := (perm_areaOf [c] rest).length_eq
  rw [List.length_append] at hlength
  simp only [List.length_cons, List.length_nil] at hcount ⊢
  omega

/-- The biggest area is the biggest of those that are counted. -/
theorem isGreatest_length (cells : List Cell) :
    IsGreatest (insert 0 {n | ∃ area ∈ areas cells, area.length = n}) (biggestArea cells) := by
  fun_induction biggestArea cells with
  | case1 =>
    have hempty : {n | ∃ area ∈ areas [], area.length = n} = ∅ := by simp [areas]
    rw [hempty, insert_empty_eq]
    exact isGreatest_singleton
  | case2 c rest ih =>
    have hset : {n | ∃ area ∈ areas (c :: rest), area.length = n} =
        insert (areaOf [c] rest).1
          {n | ∃ area ∈ areas (areaOf [c] rest).2, area.length = n} := by
      ext n
      rw [areas]
      simp only [List.mem_cons, exists_eq_or_imp, length_area, Set.mem_ofPred_eq,
        Set.mem_insert_iff, eq_comm]
    rw [hset, Set.insert_comm]
    exact ih.insert _

/-- **Every cell is counted once**, in one area. -/
theorem perm_flatten_areas (cells : List Cell) : (areas cells).flatten.Perm cells := by
  fun_induction areas cells with
  | case1 => exact .nil
  | case2 c rest ih =>
    rw [List.flatten_cons, List.cons_append]
    exact ((ih.append_left _).trans (perm_areaOf [c] rest)).cons c

/-- What is linked to a cell that is left is left as well. -/
theorem linked_left (hb : b ∈ (areaOf [c] rest).2) (h : Linked (c :: rest) b d) :
    d ∈ (areaOf [c] rest).2 ∧ Linked (areaOf [c] rest).2 b d := by
  induction h with
  | refl => exact ⟨hb, .refl⟩
  | @tail x y _ hxy ih =>
    obtain ⟨hx, hlinked⟩ := ih
    obtain ⟨hxrest, hxnot⟩ := mem_areaOf_snd.mp hx
    have hcx : ¬Linked rest c x := fun hcx => hxnot ⟨c, .head [], hcx⟩
    have hy : y ∈ (areaOf [c] rest).2 := by
      rcases List.mem_cons.mp hxy.2 with rfl | hy
      · exact absurd (.single hxy.1.symm hxrest) hcx
      · refine mem_areaOf_snd.mpr ⟨hy, ?_⟩
        rintro ⟨e, he, hey⟩
        obtain rfl := List.mem_singleton.mp he
        exact hcx (hey.tail ⟨hxy.1.symm, hxrest⟩)
    exact ⟨hy, hlinked.tail ⟨hxy.1, hy⟩⟩

/-- A way that comes back to where it began can be cut short. -/
theorem linked_cons_self (h : Linked (c :: rest) c d) : Linked rest c d := by
  induction h with
  | refl => exact .refl
  | tail _ hxy ih =>
    rcases List.mem_cons.mp hxy.2 with rfl | hy
    · exact .refl
    · exact ih.tail ⟨hxy.1, hy⟩

/-- **Every area** is made of all the cells that are linked to one of its cells. -/
theorem mem_areas {area : List Cell} (h : area ∈ areas cells) :
    ∃ c ∈ cells, ∀ d, d ∈ area ↔ d ∈ cells ∧ Linked cells c d := by
  fun_induction areas cells with
  | case1 => cases h
  | case2 c rest ih =>
    have hsub : ∀ x ∈ (areaOf [c] rest).2, x ∈ c :: rest := fun x hx =>
      .tail c (mem_areaOf_snd.mp hx).1
    rcases List.mem_cons.mp h with rfl | h
    -- The first area grows from `c`. A cell of the rest is in it unless it is left.
    · refine ⟨c, .head rest, fun d => ?_⟩
      constructor
      · intro hd
        rcases List.mem_cons.mp hd with rfl | hd
        · exact ⟨.head rest, .refl⟩
        · obtain ⟨hdrest, hnot⟩ := List.mem_filter.mp hd
          rw [decide_eq_true_iff, mem_areaOf_snd, not_and_not_right] at hnot
          obtain ⟨e, he, hlinked⟩ := hnot hdrest
          obtain rfl := List.mem_singleton.mp he
          exact ⟨.tail e hdrest, hlinked.mono fun x hx => .tail e hx⟩
      · rintro ⟨hd, hlinked⟩
        rcases List.mem_cons.mp hd with rfl | hd
        · exact .head _
        · refine .tail c (List.mem_filter.mpr ⟨hd, decide_eq_true fun hleft => ?_⟩)
          exact (mem_areaOf_snd.mp hleft).2 ⟨c, .head [], linked_cons_self hlinked⟩
    -- The others grow from what is left, and no way from there leads back into the first area.
    · obtain ⟨b, hb, harea⟩ := ih h
      refine ⟨b, hsub b hb, fun d => (harea d).trans ?_⟩
      constructor
      · rintro ⟨hd, hlinked⟩
        exact ⟨hsub d hd, hlinked.mono hsub⟩
      · rintro ⟨-, hlinked⟩
        exact linked_left hb hlinked

end MotionWatch.Block
