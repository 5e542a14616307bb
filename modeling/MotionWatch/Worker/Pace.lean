import MotionWatch.Decimal.Binary

/-!
# The pace of a loop

A loop can be limited to a number of rounds per second. Each round then lasts for a period, which
is the reciprocal of the rate, rounded to whole nanoseconds.

* `nanosecondsOf`, `secondsOf`: from seconds to nanoseconds and back.
* `periodOf`: the period of a rate.
-/

namespace MotionWatch

open Decimal

/-- How long a round of a loop lasts. -/
inductive Period where
  | unlimited
  | nanoseconds (n : Nat)
  /-- Longer than can be expressed. -/
  | unbounded
  deriving DecidableEq, Repr

/-- So many seconds cannot be expressed any more. -/
def tooManySeconds : Nat := Nat.pow 2 64

/-- The nanoseconds in a second. -/
def nanosPerSecond : Nat := 1000000000

/-- The nanoseconds that are closest to a number of seconds, the even number if two are. There is
no time below zero. -/
def nanosecondsOf : Binary → Option Nat
  | .finite negative mantissa exponent =>
    let (num, den) := scaleDown (mantissa * nanosPerSecond) 1 (-exponent)
    if negative ∧ mantissa ≠ 0 ∨ tooManySeconds * nanosPerSecond * den ≤ num then none
    else some (divNearestEven num den)
  | _ => none

/-- A number of nanoseconds in seconds: the whole seconds and the rest are added as doubles. -/
def secondsOf (nanoseconds : Nat) : Float :=
  Float.ofNat (nanoseconds / nanosPerSecond) + Float.ofNat (nanoseconds % nanosPerSecond) / 1.0e9

/-- The period of so many rounds per second. A rate that is not positive is no limit, nor is an
infinite one. -/
def periodOf (rate : Float) : Period :=
  if 0.0 < rate ∧ rate.isFinite then
    match nanosecondsOf (ofFloat (1.0 / rate)) with
    | some n => .nanoseconds n
    | none => .unbounded
  else .unlimited

end MotionWatch
