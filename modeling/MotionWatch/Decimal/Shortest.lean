import MotionWatch.Decimal.Binary

/-!
# Shortest decimal numerals

A number is shown with the fewest digits that still read back as the same number. All decimals
that read back lie between the midpoints to the two neighbours of the number; the search looks at
coarser decimal grids first, and on each grid only at the two points beside the number.

* `Numeral`: digits times a power of ten.
* `Interval`: the decimals that read back as a number.
* `shortest`: the numeral with the fewest digits, the closest one of those, a half upwards.
-/

namespace MotionWatch.Decimal

/-- The decimal `digits * 10 ^ exponent`. -/
structure Numeral where
  digits : Nat
  exponent : Int
  deriving DecidableEq, Repr

/-- Removes the zeros at the end of the digits, at most `fuel` of them. -/
def trimZeros : Nat → Nat → Int → Numeral
  | 0, digits, exponent => ⟨digits, exponent⟩
  | fuel + 1, digits, exponent =>
    if digits ≠ 0 ∧ digits % 10 = 0 then trimZeros fuel (digits / 10) (exponent + 1)
    else ⟨digits, exponent⟩

/-- The same number without zeros at the end of the digits. -/
def Numeral.normalize (n : Numeral) : Numeral := trimZeros n.digits n.digits n.exponent

/-- A number, and the bounds of the decimals that read back as it, as multiples of a power of
two. -/
structure Interval where
  low : Nat
  value : Nat
  high : Nat
  exponent : Int
  /-- Whether the bounds themselves read back as the number. -/
  closed : Bool
  deriving DecidableEq, Repr

/-- The decimals that read back as `mantissa * 2 ^ exponent`: up to the midpoints, which belong
to the even mantissa. Below a power of two the neighbour is nearer. -/
def Interval.of (f : BinaryFormat) (mantissa : Nat) (exponent : Int) : Interval where
  low := 4 * mantissa -
    (if mantissa = Nat.pow 2 (f.precision - 1) ∧ f.minExponent < exponent then 1 else 2)
  value := 4 * mantissa
  high := 4 * mantissa + 2
  exponent := exponent - 2
  closed := mantissa % 2 == 0

/-- The point of the grid of spacing `10 ^ e` that lies in the interval and is closest to its
number, if there is one. -/
def Interval.gridPoint? (i : Interval) (e : Int) : Option Nat :=
  let p := Nat.pow 2 i.exponent.toNat * Nat.pow 10 (-e).toNat
  let q := Nat.pow 10 e.toNat * Nat.pow 2 (-i.exponent).toNat
  let inside (c : Nat) : Bool :=
    if i.closed then decide (i.low * p ≤ c * q ∧ c * q ≤ i.high * p)
    else decide (i.low * p < c * q ∧ c * q < i.high * p)
  let below := i.value * p / q
  if inside below && inside (below + 1) then
    some (if (2 * below + 1) * q ≤ 2 * (i.value * p) then below + 1 else below)
  else if inside below then some below
  else if inside (below + 1) then some (below + 1)
  else none

/-- The first grid with a point in the interval, among the grids of spacing `10 ^ e`,
`10 ^ (e - 1)` and so on. -/
def Interval.search (i : Interval) : Nat → Int → Numeral
  | 0, e => ⟨0, e⟩
  | fuel + 1, e =>
    match i.gridPoint? e with
    | some c => ⟨c, e⟩
    | none => i.search fuel (e - 1)

/-- A grid that is coarser than the number is large. -/
def Interval.coarsest (i : Interval) : Int := (i.value.log2 + i.exponent) * 30103 / 100000 + 2

/-- The shortest decimal that reads back as `mantissa * 2 ^ exponent`. -/
def shortest (f : BinaryFormat) (mantissa : Nat) (exponent : Int) : Numeral :=
  if mantissa = 0 then ⟨0, 0⟩
  else
    let i := Interval.of f mantissa exponent
    (i.search (f.precision + 3) i.coarsest).normalize

end MotionWatch.Decimal
