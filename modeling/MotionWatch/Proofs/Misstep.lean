import MotionWatch.Proofs.Except

/-!
# Missteps

A computation that looks at values by their places can be written down with a check at every place.
If no check fails, the computation goes nowhere that it must not go.

* `Misstep`: what can be found.
* `Checked.amend`, `Checked.difference`: a slice of a list, and a difference, that are checked.
* `Checked.blacken`: sets a slice to zero. `exists_blacken`: what that does to a list.
-/

namespace MotionWatch

/-- What a computation must not do. -/
inductive Misstep where
  /-- A value is looked up where there is none. -/
  | outside
  /-- Something is divided by zero. -/
  | zeroDivisor
  /-- Something is counted that is too much to be counted. -/
  | overflow
  deriving DecidableEq, Repr

namespace Checked

variable {α : Type} {l part : List α} {i j m n : Nat} {f : List α → Except Misstep (List α)}

/-- Changes the slice of a list from place `i` to place `j`. -/
def amend (l : List α) (i j : Nat) (f : List α → Except Misstep (List α)) :
    Except Misstep (List α) := do
  if i ≤ j ∧ j ≤ l.length then
    let part ← f ((l.take j).drop i)
    .ok (l.take i ++ part ++ l.drop j)
  else .error .outside

/-- The place that is `n` before place `m`. -/
def difference (m n : Nat) : Except Misstep Nat :=
  if n ≤ m then .ok (m - n) else .error .outside

/-- Sets the slice of a list from place `i` to place `j` to zero. -/
def blacken (l : List UInt8) (i j : Nat) : Except Misstep (List UInt8) :=
  amend l i j fun part => .ok (part.map fun _ => 0)

theorem amend_eq_ok (hij : i ≤ j) (hj : j ≤ l.length) (hf : f ((l.take j).drop i) = .ok part) :
    amend l i j f = .ok (l.take i ++ part ++ l.drop j) := by
  unfold amend
  rw [if_pos ⟨hij, hj⟩, hf]
  rfl

theorem difference_eq_ok (h : n ≤ m) : difference m n = .ok (m - n) := if_pos h

/-- **A slice that is in the list is set to zero**, and nothing else. -/
theorem exists_blacken {l : List UInt8} (hij : i ≤ j) (hj : j ≤ l.length) :
    ∃ l', blacken l i j = .ok l' ∧ l'.length = l.length ∧
      ∀ x, l'[x]? = if i ≤ x ∧ x < j then l[x]?.map fun _ => 0 else l[x]? := by
  have hfirst : (l.take i).length = i := List.length_take_of_le (Nat.le_trans hij hj)
  have hslice : (((l.take j).drop i).map fun _ => (0 : UInt8)).length = j - i := by
    rw [List.length_map, List.length_drop, List.length_take_of_le hj]
  refine ⟨_, amend_eq_ok hij hj rfl, ?_, fun x => ?_⟩
  · rw [List.length_append, List.length_append, hfirst, hslice, List.length_drop]
    omega
  · rcases Nat.lt_or_ge x i with hx | hx
    · rw [if_neg (by omega), List.append_assoc, List.getElem?_append_left (by omega),
        List.getElem?_take_of_lt hx]
    · rcases Nat.lt_or_ge x j with hxj | hxj
      · rw [if_pos ⟨hx, hxj⟩, List.getElem?_append_left (by rw [List.length_append]; omega),
          List.getElem?_append_right (by omega), List.getElem?_map, List.getElem?_drop, hfirst,
          Nat.add_sub_cancel' hx, List.getElem?_take_of_lt hxj]
      · rw [if_neg (by omega), List.getElem?_append_right (by rw [List.length_append]; omega),
          List.getElem?_drop, List.length_append, hfirst, hslice]
        congr 1
        omega

end Checked

end MotionWatch
