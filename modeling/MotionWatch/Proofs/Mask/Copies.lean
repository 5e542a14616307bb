import MotionWatch.Mask.Basic

/-!
# What a mask selects

A mask keeps the last copy that it has drawn. Nobody can tell, since the copy is what would be
drawn anew.

* `SelectionMask.ofBits_eq_ok_iff`: what it takes to be made of bits.
* `SelectionMask.bitsAt`: the mask at a resolution, drawn whenever it has to be.
* `Copies`: a mask after some requests. `get_fst`: it still gives what it gave at first;
  `Copies.get`: and it will. `get_ofBits`: at first no copy is kept.
-/

namespace MotionWatch.SelectionMask

variable {m original : SelectionMask} {width height : Nat} {bits : List Bool}

/-- What it takes to be made of bits. -/
theorem ofBits_eq_ok_iff : ofBits width height bits = .ok m ↔
    0 < width ∧ 0 < height ∧ width * height ≤ maxCount ∧ bits.length = width * height ∧
      m = ⟨width, height, bits.toArray, none⟩ := by
  unfold ofBits
  by_cases hzero : width = 0 ∨ height = 0
  · rw [if_pos hzero]
    exact ⟨nofun, fun h => by omega⟩
  by_cases hcount : maxCount < width * height
  · rw [if_neg hzero, if_pos hcount]
    exact ⟨nofun, fun h => by omega⟩
  by_cases hlength : bits.length ≠ width * height
  · rw [if_neg hzero, if_neg hcount, if_pos hlength]
    exact ⟨nofun, fun h => absurd h.2.2.2.1 hlength⟩
  · rw [if_neg hzero, if_neg hcount, if_neg hlength, Except.ok.injEq, eq_comm]
    exact ⟨fun h => ⟨by omega, by omega, by omega, by omega, h⟩, fun h => h.2.2.2.2⟩

/-- The mask at a resolution, whatever copy is kept. -/
def bitsAt (m : SelectionMask) (width height : Nat) : Array Bool :=
  if (width, height) = m.dim then m.bits else m.draw width height

theorem bitsAt_native (m : SelectionMask) : m.bitsAt m.width m.height = m.bits := if_pos rfl

theorem bitsAt_of_ne (h : (width, height) ≠ m.dim) :
    m.bitsAt width height = m.draw width height := if_neg h

/-- The mask `m` is the original after some requests. With itself as the original, it is a mask of
which copies may have been drawn already. -/
structure Copies (m original : SelectionMask) : Prop where
  width : m.width = original.width
  height : m.height = original.height
  bits : m.bits = original.bits
  /-- What is kept is what would be drawn. -/
  faithful : ∀ copy, m.cache = some copy → copy.bits = original.draw copy.width copy.height

namespace Copies

theorem refl (h : m.cache = none) : m.Copies m := by
  refine ⟨rfl, rfl, rfl, fun copy hcopy => ?_⟩
  rw [h] at hcopy
  cases hcopy

theorem dim_eq (h : m.Copies original) : m.dim = original.dim := by
  rw [dim, h.width, h.height]
  rfl

theorem draw_eq (h : m.Copies original) (width height : Nat) :
    m.draw width height = original.draw width height := by
  unfold draw picture
  rw [h.width, h.height, h.bits]

/-- **A mask gives the same after any requests.** -/
theorem get_fst (h : m.Copies original) (width height : Nat) :
    (m.get width height).1 = original.bitsAt width height := by
  unfold SelectionMask.get bitsAt
  rw [h.dim_eq]
  split
  · exact h.bits
  · cases hcopy : m.cache.filter fun copy => (copy.width, copy.height) = (width, height) with
    | none => exact h.draw_eq width height
    | some copy =>
      obtain ⟨hkept, hsize⟩ := Option.filter_eq_some_iff.mp hcopy
      obtain ⟨rfl, rfl⟩ := Prod.mk.inj (of_decide_eq_true hsize)
      exact h.faithful copy hkept

/-- A request keeps that so. -/
theorem get (h : m.Copies original) (width height : Nat) :
    (m.get width height).2.Copies original := by
  unfold SelectionMask.get
  split
  · exact h
  · cases hcopy : m.cache.filter fun copy => (copy.width, copy.height) = (width, height) with
    | some copy => exact h
    | none =>
      refine ⟨h.width, h.height, h.bits, fun copy hkept => ?_⟩
      obtain rfl := Option.some.inj hkept
      exact h.draw_eq width height

end Copies

theorem get_ofBits (h : ofBits width height bits = .ok m) (w k : Nat) :
    (m.get w k).1 = m.bitsAt w k := by
  obtain ⟨-, -, -, -, rfl⟩ := ofBits_eq_ok_iff.mp h
  exact (Copies.refl rfl).get_fst w k

namespace Copies

/-! ## Masks that may be missing -/

section Optional

variable {own mask : Option SelectionMask}

theorem rel_self (h : ∀ m, mask = some m → m.Copies m) : Option.Rel Copies mask mask := by
  cases mask with
  | none => exact .none
  | some m => exact .some (h m rfl)

theorem isSome_eq (h : Option.Rel Copies own mask) : own.isSome = mask.isSome := by
  cases h <;> rfl

theorem map_get_fst (h : Option.Rel Copies own mask) (width height : Nat) :
    own.map (fun m => (m.get width height).1) = mask.map (·.bitsAt width height) := by
  cases h with
  | none => rfl
  | some hcopies => exact congrArg some (hcopies.get_fst width height)

theorem map_get (h : Option.Rel Copies own mask) (width height : Nat) :
    Option.Rel Copies (own.map fun m => (m.get width height).2) mask := by
  cases h with
  | none => exact .none
  | some hcopies => exact .some (hcopies.get width height)

end Optional

end Copies

end MotionWatch.SelectionMask
