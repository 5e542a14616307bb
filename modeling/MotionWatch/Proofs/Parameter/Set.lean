import MotionWatch.Parameter.Set

/-!
# Parameters after a write

* `set_eq_ok_iff`: when a value is written, and what is there then.
* `read_of_set`, `read_of_set_of_ne`: the parameter that was written has the new value, all others
  have their old ones.
-/

namespace MotionWatch.ParameterSet

variable {s s' : ParameterSet} {name other : String} {value : Value}

theorem set_eq_ok_iff : s.set name value = .ok s' ↔
    ∃ p v, s.get? name = some p ∧ value.coerce? p.kind = some v ∧ s' = s.store name p v := by
  unfold set
  cases s.get? name with
  | none => simp
  | some p => cases hv : value.coerce? p.kind <;> simp [hv, eq_comm]

theorem read_of_set (h : s.set name value = .ok s') :
    ∃ p v, s.get? name = some p ∧ value.coerce? p.kind = some v ∧ s'.read name = .ok v := by
  obtain ⟨p, v, hp, hv, rfl⟩ := set_eq_ok_iff.mp h
  refine ⟨p, v, hp, hv, ?_⟩
  rw [read, get?, store, Table.get?_insert_self]

theorem read_of_set_of_ne (h : s.set name value = .ok s') (hne : name ≠ other) :
    s'.read other = s.read other := by
  obtain ⟨p, v, -, -, rfl⟩ := set_eq_ok_iff.mp h
  rw [read, get?, store, Table.get?_insert_of_ne _ _ hne]
  rfl

theorem getBool_of_set {on : Bool} (h : s.set name (.bool on) = .ok s') :
    s'.getBool name = .ok on := by
  obtain ⟨p, v, -, hv, hread⟩ := read_of_set h
  -- A truth value is not coerced.
  obtain rfl : v = .bool on := by
    unfold Value.coerce? at hv
    split at hv
    · exact (Option.some.inj hv).symm
    · cases hv
  rw [getBool, hread]
  rfl

end MotionWatch.ParameterSet
