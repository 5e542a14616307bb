import MotionWatch.Decimal.Number

/-!
# Sums in command lines

Whole numbers with the four operations, remainders and brackets.

* `evaluateSum?`: the value of a sum.
-/

namespace MotionWatch

/-- An operation of a sum. -/
def operation? : Char → Option (Int → Int → Option Int)
  | '+' => some fun a b => some (a + b)
  | '-' => some fun a b => some (a - b)
  | '*' => some fun a b => some (a * b)
  | '/' => some fun a b => if b = 0 then none else some (a.tdiv b)
  | '%' => some fun a b => if b = 0 then none else some (a.tmod b)
  | _ => none

/-- How strongly an operation binds. -/
def isProduct (c : Char) : Bool := c = '*' || c = '/' || c = '%'

mutual

/-- A number, a negated one or a sum in brackets. -/
def readFactor (fuel : Nat) (cs : List Char) : Option (Int × List Char) :=
  match fuel with
  | 0 => none
  | fuel + 1 =>
    match cs with
    | '-' :: rest => do
      let (n, rest) ← readFactor fuel rest
      return (-n, rest)
    | '(' :: rest => do
      let (n, rest) ← readFactor fuel rest
      match ← readTerms fuel false n rest with
      | (n, ')' :: rest) => return (n, rest)
      | _ => none
    | cs =>
      let digits := cs.takeWhile Decimal.isDigit
      if digits.isEmpty then none
      else some (Decimal.ofDigits digits, cs.dropWhile Decimal.isDigit)

/-- What follows a value: operations, or only products. -/
def readTerms (fuel : Nat) (productsOnly : Bool) (n : Int) (cs : List Char) :
    Option (Int × List Char) :=
  match fuel with
  | 0 => none
  | fuel + 1 =>
    match cs with
    | [] => some (n, [])
    | c :: rest =>
      match operation? c with
      | none => some (n, cs)
      | some f =>
        if isProduct c then do
          let (m, rest) ← readFactor fuel rest
          readTerms fuel productsOnly (← f n m) rest
        else if productsOnly then some (n, cs)
        else do
          let (m, rest) ← readFactor fuel rest
          let (m, rest) ← readTerms fuel true m rest
          readTerms fuel productsOnly (← f n m) rest

end

/-- The value of a sum. -/
def evaluateSum? (expression : List Char) : Option Int := do
  let cs := expression.filter (· ≠ ' ')
  let fuel := 3 * cs.length + 3
  let (n, rest) ← readFactor fuel cs
  match ← readTerms fuel false n rest with
  | (n, []) => return n
  | _ => none

end MotionWatch
