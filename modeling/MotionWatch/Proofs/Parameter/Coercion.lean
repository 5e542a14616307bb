import MotionWatch.Proofs.Decimal.Widening
import MotionWatch.Proofs.Parameter.Overrides

/-!
# Integers where doubles are wanted

A value is taken as one of its own kind, and an integer also as a double. Most integers of 64 bits
are no doubles, and the closest one stands for them, which does not say so.

* `Value.number?`, `Value.Same`: the number that a value is, and values that mean the same.
* `same_floatOfInt_iff`: which integers mean the same as their doubles.
* `coerce?_lossless_iff`: which values mean the same as what they are taken as, and which integers
  are taken as the same double.
* `neighbours_coerced_alike`: two integers that are.
-/

namespace MotionWatch.Value

open Decimal

/-- The number that a value is, if it is one. -/
def number? : Value → Option ℚ
  | int n => some n.toInt
  | double x => (ofFloat x).toRat?
  | _ => none

/-- Values that mean the same: one and the same value, or the same number. -/
def Same (v w : Value) : Prop := v = w ∨ ∃ q, v.number? = some q ∧ w.number? = some q

variable {n : Int64}

theorem natAbs_toInt_lt (n : Int64) : n.toInt.natAbs < 2 ^ 64 := by
  have hlow := n.le_toInt
  have hhigh := n.toInt_lt
  omega

theorem number?_floatOfInt (n : Int64) :
    (double (floatOfInt n.toInt)).number? = some (rounded n.toInt : ℚ) :=
  toRat?_floatOfInt (natAbs_toInt_lt n)

/-- An integer means the same as its double if it is not rounded. -/
theorem same_floatOfInt_iff : (double (floatOfInt n.toInt)).Same (.int n) ↔
    rounded n.toInt = n.toInt := by
  rw [Same, number?_floatOfInt]
  constructor
  · rintro (h | ⟨q, hq, hn⟩)
    · cases h
    · have hcast := (Option.some.inj hq).trans (Option.some.inj hn).symm
      exact_mod_cast hcast
  · intro h
    exact .inr ⟨_, rfl, by rw [h]; rfl⟩

/-- **When a value means the same as what it is taken as.** That is of the kind that is wanted, and
it means the same unless an integer of more than 53 bits, apart from zeros at the end, is taken as a
double. This is the integer rounded to 53 bits, and so it is the same one for all integers that are
rounded alike, and for no others. -/
theorem coerce?_lossless_iff {v w : Value} {k : Kind} (h : v.coerce? k = some w) :
    w.kind = k ∧
    (w.Same v ↔ v.kind = k ∨ ∃ n, v = .int n ∧
      ∃ (m : ℤ) (e : ℕ), m.natAbs < 2 ^ 53 ∧ n.toInt = m * 2 ^ e) ∧
    ∀ n, v = .int n → k = .double → w.number? = some (rounded n.toInt : ℚ) ∧
      ∀ n' : Int64, (int n').coerce? .double = some w ↔ rounded n'.toInt = rounded n.toInt := by
  refine ⟨kind_coerce? h, ?_⟩
  cases coerce?_eq_some_iff.mp h with
  | same =>
    refine ⟨iff_of_true (.inl rfl) (.inl rfl), ?_⟩
    rintro n rfl hk
    cases hk
  | widened n =>
    constructor
    · rw [same_floatOfInt_iff, rounded_eq_self_iff]
      refine ⟨fun hexact => .inr ⟨n, rfl, hexact⟩, ?_⟩
      rintro (hk | ⟨n', hn, hexact⟩)
      · cases hk
      · cases hn
        exact hexact
    · rintro n' hn -
      cases hn
      refine ⟨number?_floatOfInt n, fun n' => ?_⟩
      show some (double (floatOfInt n'.toInt)) = _ ↔ _
      rw [Option.some_inj, double.injEq, floatOfInt_eq_iff (natAbs_toInt_lt n') (natAbs_toInt_lt n)]

/-- An odd integer of 54 bits, and the even one before it, which is the double of both. -/
theorem coerce?_lossless_iff_odd :
    ∃ x, (int 9007199254740993).coerce? .double = some (.double x) ∧
      (double x).number? = some 9007199254740992 ∧
      (int 9007199254740992).coerce? .double = some (.double x) ∧
      ¬(double x).Same (.int 9007199254740993) := by
  have hodd : (int 9007199254740993).coerce? .double = some _ := rfl
  obtain ⟨-, hsame, hdouble⟩ := coerce?_lossless_iff hodd
  obtain ⟨hnumber, hothers⟩ := hdouble _ rfl rfl
  have hrounded : rounded (9007199254740993 : Int64).toInt = 9007199254740992 := by decide +kernel
  refine ⟨_, hodd, ?_, (hothers 9007199254740992).mpr (by decide +kernel), ?_⟩
  · rw [hnumber, hrounded]
    rfl
  · rw [hsame]
    rintro (hk | ⟨n, hn, hbits⟩)
    · cases hk
    · cases hn
      rw [← rounded_eq_self_iff, hrounded] at hbits
      exact absurd hbits (by decide)

/-- **Two integers that are taken as the same double.** -/
theorem neighbours_coerced_alike :
    (9007199254740992 : Int64) ≠ 9007199254740993 ∧
      (int 9007199254740992).coerce? .double = (int 9007199254740993).coerce? .double ∧
      ∃ x, (int 9007199254740993).coerce? .double = some (.double x) := by
  have hsame : floatOfInt (9007199254740992 : Int64).toInt =
      floatOfInt (9007199254740993 : Int64).toInt :=
    (floatOfInt_eq_iff (by decide) (by decide)).mpr (by decide +kernel)
  exact ⟨by decide, congrArg (fun x => some (double x)) hsame, _, rfl⟩

end MotionWatch.Value
