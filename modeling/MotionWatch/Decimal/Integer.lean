/-!
# Decimal integers

Integers as people write them: an optional sign and decimal digits, within the bounds of the
place they are stored in.

* `ofInt`: the text of an integer.
* `readInteger`: reads an integer between two bounds, or says why the text is none. The
  characters are judged from left to right, so the first bad digit or the first excess decides.
-/

namespace MotionWatch.Decimal

/-- Why a text is not an integer within its bounds. -/
inductive IntegerError where
  | empty
  | invalidDigit
  | tooLarge
  | tooSmall
  deriving DecidableEq, Repr

/-- What is said about a text that is not an integer. -/
def IntegerError.message : IntegerError → String
  | empty => "cannot parse integer from empty string"
  | invalidDigit => "invalid digit found in string"
  | tooLarge => "number too large to fit in target type"
  | tooSmall => "number too small to fit in target type"

/-- The value of a decimal digit. -/
def digit? (c : Char) : Option Nat :=
  if '0' ≤ c ∧ c ≤ '9' then some (c.toNat - '0'.toNat) else none

/-- The decimal digits of a natural number, most significant first. -/
def ofNat (n : Nat) : List Char := Nat.toDigits 10 n

/-- The decimal text of an integer. -/
def ofInt : Int → List Char
  | .ofNat n => ofNat n
  | .negSucc n => '-' :: ofNat (n + 1)

/-- Appends the digits of a text to the number read so far, up to a limit. -/
def magnitude (limit : Nat) (excess : IntegerError) : Nat → List Char → Except IntegerError Nat
  | n, [] => .ok n
  | n, c :: cs =>
    match digit? c with
    | none => .error .invalidDigit
    | some d =>
      if 10 * n + d ≤ limit then magnitude limit excess (10 * n + d) cs else .error excess

/-- Reads an integer between `lo ≤ 0` and `hi ≥ 0`. A minus sign is only known where negative
numbers are allowed. -/
def readInteger (lo hi : Int) : List Char → Except IntegerError Int
  | [] => .error .empty
  | ['+'] | ['-'] => .error .invalidDigit
  | '+' :: cs => (magnitude hi.toNat .tooLarge 0 cs).map Int.ofNat
  | '-' :: cs =>
    if lo < 0 then (magnitude (-lo).toNat .tooSmall 0 cs).map fun n => -(n : Int)
    else .error .invalidDigit
  | cs => (magnitude hi.toNat .tooLarge 0 cs).map Int.ofNat

/-- The least 64-bit integer. -/
def minInt64 : Int := -9223372036854775808

/-- The greatest 64-bit integer. -/
def maxInt64 : Int := 9223372036854775807

/-- Reads a 64-bit integer. -/
def readInt64 (cs : List Char) : Except IntegerError Int := readInteger minInt64 maxInt64 cs

/-- Reads an integer between 0 and `hi`. -/
def readNat (hi : Nat) (cs : List Char) : Except IntegerError Nat :=
  (readInteger 0 hi cs).map Int.toNat

end MotionWatch.Decimal
