import MotionWatch.Decimal.Binary

/-!
# Remainders of floating point numbers

The remainder of a division is always a number of the format, so nothing is rounded. It has the
sign of the dividend.

* `Binary.remainder`: the exact remainder.
* `remainder`: the same for doubles.
-/

namespace MotionWatch.Decimal

/-- What is left of a number when another one is taken away as often as possible. Nothing can be
taken away from an infinite number, nor can zero be taken away. -/
def Binary.remainder (f : BinaryFormat) : Binary → Binary → Binary
  | .finite negative m e, .finite _ n k =>
    if n = 0 then .nan
    else
      let unit := min e k
      let rest := m * Nat.pow 2 (e - unit).toNat % (n * Nat.pow 2 (k - unit).toNat)
      let (num, den) := scaleDown rest 1 (-unit)
      nearest f negative num den
  | .finite negative m e, .infinite _ => .finite negative m e
  | _, _ => .nan

/-- What is left of a double when another one is taken away as often as possible. -/
def remainder (x y : Float) : Float :=
  toFloat ((ofFloat x).remainder .binary64 (ofFloat y))

end MotionWatch.Decimal
