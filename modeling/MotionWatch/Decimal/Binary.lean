/-!
# Binary floating point numbers, exactly

A binary floating point number is a sign, a natural mantissa and a power of two. Everything that
is printed or read goes through this exact view, in natural number arithmetic.

* `BinaryFormat`: the two interchange formats in use.
* `Binary`: the exact value of a bit pattern; `decode` and `encode` convert.
* `nearest`: the number closest to a fraction, ties to the even mantissa.
* `floatOfInt`: the double closest to an integer.
-/

namespace MotionWatch.Decimal

/-- A binary interchange format. -/
structure BinaryFormat where
  /-- Bits of the mantissa, the leading one included. -/
  precision : Nat
  /-- Bits of the exponent field. -/
  exponentBits : Nat
  deriving DecidableEq, Repr

namespace BinaryFormat

/-- Double precision. -/
def binary64 : BinaryFormat := ⟨53, 11⟩

/-- Single precision. -/
def binary32 : BinaryFormat := ⟨24, 8⟩

/-- The exponent of the smallest positive number. -/
def minExponent (f : BinaryFormat) : Int :=
  3 - (Nat.pow 2 (f.exponentBits - 1) : Nat) - (f.precision : Int)

/-- The value of an exponent field that is all ones. -/
def topField (f : BinaryFormat) : Nat := Nat.pow 2 f.exponentBits - 1

end BinaryFormat

/-- The exact meaning of a bit pattern. -/
inductive Binary where
  | nan
  | infinite (negative : Bool)
  /-- The number `mantissa * 2 ^ exponent`, negated if `negative`. -/
  | finite (negative : Bool) (mantissa : Nat) (exponent : Int)
  deriving DecidableEq, Repr

namespace Binary

variable (f : BinaryFormat)

/-- Splits a bit pattern into sign, exponent and mantissa. -/
def decode (bits : Nat) : Binary :=
  let negative := bits / Nat.pow 2 (f.precision - 1 + f.exponentBits) % 2 == 1
  let field := bits / Nat.pow 2 (f.precision - 1) % Nat.pow 2 f.exponentBits
  let fraction := bits % Nat.pow 2 (f.precision - 1)
  if field = f.topField then
    if fraction = 0 then .infinite negative else .nan
  else if field = 0 then .finite negative fraction f.minExponent
  else .finite negative (Nat.pow 2 (f.precision - 1) + fraction) (f.minExponent + field - 1)

/-- The bit pattern of a number. A mantissa that needs one bit too many is halved, and a number
beyond the greatest one becomes infinite. -/
def encode : Binary → Nat
  | .nan => f.topField * Nat.pow 2 (f.precision - 1) + Nat.pow 2 (f.precision - 2)
  | .infinite negative => sign negative + f.topField * Nat.pow 2 (f.precision - 1)
  | .finite negative mantissa exponent =>
    let (mantissa, exponent) :=
      if mantissa = Nat.pow 2 f.precision then (mantissa / 2, exponent + 1)
      else (mantissa, exponent)
    if mantissa < Nat.pow 2 (f.precision - 1) then sign negative + mantissa
    else
      let field := (exponent - f.minExponent + 1).toNat
      if f.topField ≤ field then sign negative + f.topField * Nat.pow 2 (f.precision - 1)
      else
        sign negative + field * Nat.pow 2 (f.precision - 1) +
          (mantissa - Nat.pow 2 (f.precision - 1))
where
  sign (negative : Bool) : Nat :=
    if negative then Nat.pow 2 (f.precision - 1 + f.exponentBits) else 0

end Binary

/-- The quotient rounded to the nearest integer, a half to the even one. -/
def divNearestEven (num den : Nat) : Nat :=
  let q := num / den
  let r := num % den
  if 2 * r < den then q else if den < 2 * r then q + 1 else if q % 2 = 0 then q else q + 1

/-- The fraction `num / den * 2 ^ (-exponent)` as a numerator and a denominator. -/
def scaleDown (num den : Nat) (exponent : Int) : Nat × Nat :=
  (num * Nat.pow 2 (-exponent).toNat, den * Nat.pow 2 exponent.toNat)

/-- The number of the format that is closest to `num / den`. -/
def nearest (f : BinaryFormat) (negative : Bool) (num den : Nat) : Binary :=
  if num = 0 then .finite negative 0 f.minExponent
  else
    let guess : Int := (num.log2 : Int) - den.log2 - f.precision
    let (n, d) := scaleDown num den guess
    let exponent := max f.minExponent (if n / d < Nat.pow 2 f.precision then guess else guess + 1)
    let (n, d) := scaleDown num den exponent
    .finite negative (divNearestEven n d) exponent

/-- The number of the format that is closest to `digits * 10 ^ exponent`, or an infinity. Powers
of ten that no number of the format can reach are not computed. -/
def nearestDecimal (f : BinaryFormat) (negative : Bool) (digits : Nat) (exponent : Int) : Binary :=
  let width : Int := (Nat.toDigits 10 digits).length + exponent
  if digits = 0 then .finite negative 0 f.minExponent
  else if (Nat.pow 2 f.exponentBits : Nat) < width then .infinite negative
  else if width < -(Nat.pow 2 f.exponentBits : Nat) then .finite negative 0 f.minExponent
  else nearest f negative (digits * Nat.pow 10 exponent.toNat) (Nat.pow 10 (-exponent).toNat)

/-- The exact meaning of a double. -/
def ofFloat (x : Float) : Binary := .decode .binary64 x.toBits.toNat

/-- The double with an exact meaning. -/
def toFloat (b : Binary) : Float := .ofBits (.ofNat (b.encode .binary64))

/-- The double closest to an integer. -/
def floatOfInt (n : Int) : Float := toFloat (nearest .binary64 (decide (n < 0)) n.natAbs 1)

/-- The exact meaning of a single. -/
def ofFloat32 (x : Float32) : Binary := .decode .binary32 x.toBits.toNat

/-- The single with an exact meaning. -/
def toFloat32 (b : Binary) : Float32 := .ofBits (.ofNat (b.encode .binary32))

end MotionWatch.Decimal
