import MotionWatch.Decimal.Binary
import MotionWatch.Decimal.Integer

/-!
# Decimal numbers as they are written

A number is an optional sign, digits with at most one point among or beside them, and an optional
power of ten; the words `inf`, `infinity` and `nan` are numbers too, in any case.

* `readNumeral`: the parts of a number.
* `readBinary`: the number of a binary format that is closest to the written one.
* `readFloat`, `readFloat32`: the same as doubles and singles.
-/

namespace MotionWatch.Decimal

/-- Why a text is not a number. -/
inductive NumberError where
  | empty
  | invalid
  deriving DecidableEq, Repr

/-- What is said about a text that is not a number. -/
def NumberError.message : NumberError → String
  | empty => "cannot parse float from empty string"
  | invalid => "invalid float literal"

/-- Whether a character is a decimal digit. -/
def isDigit (c : Char) : Bool := (digit? c).isSome

/-- The number that a row of digits denotes. -/
def ofDigits (cs : List Char) : Nat := cs.foldl (fun n c => 10 * n + (digit? c).getD 0) 0

/-- The power of ten after a mantissa: nothing, or a mark, an optional sign and digits. -/
def readExponent : List Char → Option Int
  | [] => some 0
  | mark :: cs =>
    if mark = 'e' ∨ mark = 'E' then
      match cs with
      | '-' :: ds => (natural ds).map fun n => -(n : Int)
      | '+' :: ds => (natural ds).map Int.ofNat
      | ds => (natural ds).map Int.ofNat
    else none
where
  natural (ds : List Char) : Option Nat :=
    if ds.isEmpty ∨ ¬ ds.all isDigit then none else some (ofDigits ds)

/-- An unsigned number as its digits without the point, and the power of ten they stand at. -/
def readNumeral (cs : List Char) : Option (Nat × Int) :=
  let whole := cs.takeWhile isDigit
  let rest := cs.dropWhile isDigit
  let (fraction, rest) :=
    match rest with
    | '.' :: ds => (ds.takeWhile isDigit, ds.dropWhile isDigit)
    | _ => ([], rest)
  if whole.isEmpty && fraction.isEmpty then none
  else (readExponent rest).map fun e => (ofDigits (whole ++ fraction), e - fraction.length)

/-- Reads an unsigned number or one of the words for the numbers without digits. -/
def readUnsigned (f : BinaryFormat) (negative : Bool) (cs : List Char) :
    Except NumberError Binary :=
  match readNumeral cs with
  | some (digits, exponent) => .ok (nearestDecimal f negative digits exponent)
  | none =>
    let word := String.ofList (cs.map Char.toLower)
    if word = "inf" ∨ word = "infinity" then .ok (.infinite negative)
    else if word = "nan" then .ok .nan
    else .error .invalid

/-- Reads a number as the closest one of a binary format. -/
def readBinary (f : BinaryFormat) : List Char → Except NumberError Binary
  | [] => .error .empty
  | '-' :: cs => readUnsigned f true cs
  | '+' :: cs => readUnsigned f false cs
  | cs => readUnsigned f false cs

/-- Reads a double. -/
def readFloat (cs : List Char) : Except NumberError Float := (readBinary .binary64 cs).map toFloat

/-- Reads a single. -/
def readFloat32 (cs : List Char) : Except NumberError Float32 :=
  (readBinary .binary32 cs).map toFloat32

end MotionWatch.Decimal
