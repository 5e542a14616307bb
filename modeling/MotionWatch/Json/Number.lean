import MotionWatch.Count
import MotionWatch.Decimal.Number

/-!
# Numbers in JSON

A number without fraction and exponent is an integer as long as it fits into 64 bits. All other
numbers become doubles by one multiplication or division of their leading digits, which may be off
in the last place, and are out of range beyond the greatest double.

* `NumberText`: the parts of a number as it is written.
* `JsonNumber`: what it stands for.
* `NumberText.read`: the one from the other.
-/

namespace MotionWatch

open Decimal

/-- What a number in JSON stands for. -/
inductive JsonNumber where
  /-- At most the greatest integer of 64 bits. -/
  | natural (n : Nat)
  /-- Below zero, and at least the least integer of 64 bits. -/
  | negative (n : Int)
  | double (x : Float)
  | outOfRange

/-- A number as it is written, in digits. -/
structure NumberText where
  negative : Bool
  whole : List Char
  fraction : List Char
  /-- The exponent with its sign, negative if `true`. -/
  exponent : Option (Bool × List Char)
  /-- Whether there is a decimal point. -/
  pointed : Bool
  deriving DecidableEq, Repr

/-- The greatest number of leading digits. -/
def maxSignificand : Nat := maxCount

/-- The greatest exponent that is computed with. -/
def maxExponent : Nat := 2147483647

/-- Appends digits to a number as long as it does not become too large, and counts the digits that
are left over. -/
def appendDigits (n : Nat) : List Char → Nat × Nat
  | [] => (n, 0)
  | c :: cs =>
    let next := 10 * n + (digit? c).getD 0
    if next ≤ maxSignificand then appendDigits next cs else (n, cs.length + 1)

/-- A power of ten as a double. -/
def powerOfTen (n : Nat) : Float := toFloat (nearestDecimal .binary64 false 1 n)

/-- Multiplies by a power of ten. Large negative powers take several divisions. -/
def scaleByTen (x : Float) (exponent : Int) : Option Float :=
  if exponent < -308 then
    if x == 0.0 then some x else scaleByTen (x / powerOfTen 308) (exponent + 308)
  else if exponent < 0 then some (x / powerOfTen (-exponent).toNat)
  else if exponent ≤ 308 then
    let y := x * powerOfTen exponent.toNat
    if y.isInf then none else some y
  else if x == 0.0 then some x
  else none
termination_by (-exponent).toNat
decreasing_by omega

/-- The double of a sign, leading digits and a power of ten. -/
def signedDouble (negative : Bool) (significand : Nat) (exponent : Int) : JsonNumber :=
  match scaleByTen (UInt64.ofNat significand).toFloat exponent with
  | some x => .double (if negative then -x else x)
  | none => .outOfRange

/-- An integer of at most 64 bits. Negative zero and what is too far below zero are doubles. -/
def signedInteger (negative : Bool) (n : Nat) : JsonNumber :=
  if !negative then .natural n
  else if n ≠ 0 ∧ n ≤ 9223372036854775808 then .negative (-n)
  else .double (-(UInt64.ofNat n).toFloat)

/-- What a written number stands for. -/
def NumberText.read (t : NumberText) : JsonNumber :=
  let (leading, wholeRest) := appendDigits 0 t.whole
  let (significand, fractionRest) := appendDigits leading t.fraction
  let exponent : Int := wholeRest - ((t.fraction.length - fractionRest : Nat) : Int)
  match t.exponent with
  | some (below, digits) =>
    let n := ofDigits digits
    if maxExponent < n then
      if significand ≠ 0 ∧ !below then .outOfRange else .double (if t.negative then -0.0 else 0.0)
    else signedDouble t.negative significand (if below then exponent - n else exponent + n)
  | none =>
    if wholeRest = 0 ∧ !t.pointed then signedInteger t.negative significand
    else signedDouble t.negative significand exponent

end MotionWatch
