import MotionWatch.Decimal.Integer
import MotionWatch.Decimal.Shortest

/-!
# How numbers are laid out

Three layouts of a number: plain positional text with the shortest digits, the same with at least
one place after the point (and a power of ten for very small and very large numbers), and a fixed
number of places.

* `plain`, `Float.plain`: positional, as few characters as possible.
* `detailed`: at least one place; a power of ten below `10 ^ -4` and from `10 ^ 16` on.
* `fixed`: a given number of places, a half to the even last place.
-/

namespace MotionWatch.Decimal

/-- The sign in front of a number. -/
def signText (negative : Bool) : List Char := if negative then ['-'] else []

/-- Digits with a decimal point behind the first `point` of them; zeros fill up missing places. -/
def placePoint (digits : List Char) (point : Int) : List Char :=
  if point ≤ 0 then '0' :: '.' :: (List.replicate (-point).toNat '0' ++ digits)
  else if (digits.length : Int) ≤ point then
    digits ++ List.replicate (point.toNat - digits.length) '0'
  else digits.take point.toNat ++ '.' :: digits.drop point.toNat

/-- A numeral in positional notation. -/
def Numeral.positional (n : Numeral) : List Char :=
  if n.digits = 0 then ['0']
  else
    let ds := ofNat n.digits
    placePoint ds (ds.length + n.exponent)

/-- A numeral with one digit before the point and a power of ten. -/
def Numeral.scientific (n : Numeral) : List Char :=
  let ds := ofNat n.digits
  let mantissa := match ds with
    | [d] => [d]
    | d :: rest => d :: '.' :: rest
    | [] => []
  mantissa ++ 'e' :: ofInt (ds.length + n.exponent - 1)

/-- The text of a number that has no digits, or of its sign and digits. -/
def layout (digits : Nat → Int → List Char) : Binary → String
  | .nan => "NaN"
  | .infinite negative => .ofList (signText negative ++ "inf".toList)
  | .finite negative mantissa exponent =>
    .ofList (signText negative ++ digits mantissa exponent)

/-- Positional notation with the fewest digits that read back. -/
def plain (f : BinaryFormat) : Binary → String :=
  layout fun mantissa exponent => (shortest f mantissa exponent).positional

/-- The fewest digits that read back, but at least one after the point; numbers below `10 ^ -4`
and from `10 ^ 16` on are written with a power of ten. -/
def detailed (f : BinaryFormat) : Binary → String :=
  layout fun mantissa exponent =>
    let n := shortest f mantissa exponent
    let point : Int := (ofNat n.digits).length + n.exponent
    if n.digits ≠ 0 ∧ (point < -3 ∨ 16 < point) then n.scientific
    else
      let text := n.positional
      if text.contains '.' then text else text ++ ['.', '0']

/-- The exact value rounded to a number of places after the point. -/
def fixed (places : Nat) : Binary → String :=
  layout fun mantissa exponent =>
    let (num, den) := scaleDown (mantissa * Nat.pow 10 places) 1 (-exponent)
    let units := divNearestEven num den
    let ds := ofNat units
    let ds := List.replicate (places + 1 - ds.length) '0' ++ ds
    if places = 0 then ds else placePoint ds (ds.length - places)

/-- A double in plain positional notation. -/
def plainFloat (x : Float) : String := plain .binary64 (ofFloat x)

/-- A double with a fixed number of places. -/
def fixedFloat (places : Nat) (x : Float) : String := fixed places (ofFloat x)

/-- A single in plain positional notation. -/
def plainFloat32 (x : Float32) : String := plain .binary32 (ofFloat32 x)

/-- A single in detailed notation. -/
def detailedFloat32 (x : Float32) : String := detailed .binary32 (ofFloat32 x)

end MotionWatch.Decimal
