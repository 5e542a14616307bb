/-!
# Connected areas

Cells of a grid belong together if they touch at a side or at a corner. An area is grown from one
cell: as long as a cell of its edge is left, the cells that touch it move from the rest into the
edge.

* `Touches`: neighbourhood of cells.
* `areaOf`: the size of an area, and the cells that do not belong to it.
* `biggestArea`: the size of the biggest area.
-/

namespace MotionWatch.Block

/-- A column and a row. -/
abbrev Cell := Nat × Nat

/-- Whether two cells touch at a side or at a corner, or are the same. -/
def Touches (a b : Cell) : Prop :=
  a.1 ≤ b.1 + 1 ∧ b.1 ≤ a.1 + 1 ∧ a.2 ≤ b.2 + 1 ∧ b.2 ≤ a.2 + 1

instance (a b : Cell) : Decidable (Touches a b) := by unfold Touches; infer_instance

/-- The cells that touch a given one. -/
def touching (c : Cell) (cells : List Cell) : List Cell :=
  cells.filter fun d => decide (Touches c d)

/-- The cells that do not touch a given one. -/
def apart (c : Cell) (cells : List Cell) : List Cell := cells.filter fun d => !decide (Touches c d)

theorem length_touching_add_length_apart (c : Cell) (cells : List Cell) :
    (touching c cells).length + (apart c cells).length = cells.length := by
  induction cells with
  | nil => rfl
  | cons d cells ih =>
    simp only [touching, apart] at ih ⊢
    by_cases h : Touches c d <;> simp [h] <;> omega

/-- The number of cells in the edge and of those connected to it among the rest, and the cells
that are not connected. -/
def areaOf (edge rest : List Cell) : Nat × List Cell :=
  match edge with
  | [] => (0, rest)
  | c :: edge =>
    let result := areaOf (edge ++ touching c rest) (apart c rest)
    (result.1 + 1, result.2)
termination_by edge.length + rest.length
decreasing_by
  have := length_touching_add_length_apart c rest
  simp only [List.length_append, List.length_cons]
  omega

theorem length_areaOf (edge rest : List Cell) :
    (areaOf edge rest).1 + (areaOf edge rest).2.length = edge.length + rest.length := by
  fun_induction areaOf edge rest with
  | case1 rest => simp
  | case2 rest c edge result ih =>
    have h := length_touching_add_length_apart c rest
    simp only [List.length_append, List.length_cons, result] at ih ⊢
    omega

/-- The number of cells in the biggest area. -/
def biggestArea (cells : List Cell) : Nat :=
  match cells with
  | [] => 0
  | c :: rest => max (areaOf [c] rest).1 (biggestArea (areaOf [c] rest).2)
termination_by cells.length
decreasing_by
  have := length_areaOf [c] rest
  simp only [List.length_cons, List.length_nil] at this ⊢
  have hpos : 0 < (areaOf [c] rest).1 := by
    rw [areaOf]
    exact Nat.succ_pos _
  omega

end MotionWatch.Block
