import MotionWatch.Json.Number

/-!
# JSON

* `JsonValue`: a value as it is written. A text may contain escapes that stand for no character,
  and a number may be out of range; both only matter to whoever looks at them.
* `JsonValue.parse?`: the value that a text consists of.
-/

namespace MotionWatch

/-- A value in JSON. -/
inductive JsonValue where
  | null
  | bool (b : Bool)
  | number (n : JsonNumber)
  /-- A text, if all of its escapes stand for characters. -/
  | string (s : Option String)
  | array (values : List JsonValue)
  | object (members : List (Option String × JsonValue))

namespace JsonValue

/-- Whether a character is white space in JSON. -/
def isSpace (c : Char) : Bool := c = ' ' || c = '\t' || c = '\n' || c = '\r'

/-- The characters after white space. -/
def skipSpace (cs : List Char) : List Char := cs.dropWhile isSpace

/-! ## Texts -/

/-- A piece of a text: a character, or an escaped number of 16 bits. -/
inductive Piece where
  | char (c : Char)
  | unit (n : Nat)
  deriving DecidableEq, Repr

/-- The value of a hexadecimal digit. -/
def hexDigit? (c : Char) : Option Nat :=
  if '0' ≤ c ∧ c ≤ '9' then some (c.toNat - '0'.toNat)
  else if 'a' ≤ c ∧ c ≤ 'f' then some (c.toNat - 'a'.toNat + 10)
  else if 'A' ≤ c ∧ c ≤ 'F' then some (c.toNat - 'A'.toNat + 10)
  else none

/-- The character of a short escape. -/
def shortEscape? : Char → Option Char
  | '"' => some '"'
  | '\\' => some '\\'
  | '/' => some '/'
  | 'b' => some '\x08'
  | 'f' => some '\x0C'
  | 'n' => some '\n'
  | 'r' => some '\r'
  | 't' => some '\t'
  | _ => none

/-- The pieces up to the closing quotation mark, and what follows it. -/
def readPieces : List Char → Option (List Piece × List Char)
  | '"' :: rest => some ([], rest)
  | '\\' :: 'u' :: a :: b :: c :: d :: rest => do
    let n := 4096 * (← hexDigit? a) + 256 * (← hexDigit? b) + 16 * (← hexDigit? c) + (← hexDigit? d)
    let (pieces, rest) ← readPieces rest
    return (.unit n :: pieces, rest)
  | '\\' :: e :: rest => do
    let c ← shortEscape? e
    let (pieces, rest) ← readPieces rest
    return (.char c :: pieces, rest)
  | c :: rest =>
    if c < ' ' ∨ c = '\\' then none
    else do
      let (pieces, rest) ← readPieces rest
      return (.char c :: pieces, rest)
  | [] => none

/-- Whether a number of 16 bits is the first half of a character. -/
def isHigh (n : Nat) : Bool := 0xD800 ≤ n && n < 0xDC00

/-- Whether a number of 16 bits is the second half of a character. -/
def isLow (n : Nat) : Bool := 0xDC00 ≤ n && n < 0xE000

/-- The characters of pieces, if every half has its other half. -/
def joinPieces : List Piece → Option (List Char)
  | [] => some []
  | .char c :: rest => (c :: ·) <$> joinPieces rest
  | .unit n :: .unit m :: rest =>
    if isHigh n then
      if isLow m then
        (Char.ofNat (0x10000 + 0x400 * (n - 0xD800) + (m - 0xDC00)) :: ·) <$> joinPieces rest
      else none
    else if isLow n then none
    else (Char.ofNat n :: ·) <$> joinPieces (.unit m :: rest)
  | .unit n :: rest =>
    if isHigh n || isLow n then none else (Char.ofNat n :: ·) <$> joinPieces rest

/-- A text after its opening quotation mark. -/
def readString (cs : List Char) : Option (Option String × List Char) := do
  let (pieces, rest) ← readPieces cs
  return ((joinPieces pieces).map .ofList, rest)

/-! ## Numbers -/

/-- At least one digit. -/
def readDigits (cs : List Char) : Option (List Char × List Char) :=
  let digits := cs.takeWhile Decimal.isDigit
  if digits.isEmpty then none else some (digits, cs.dropWhile Decimal.isDigit)

/-- The digits before the decimal point. A zero stands alone. -/
def readWhole : List Char → Option (List Char × List Char)
  | '0' :: rest => some (['0'], rest)
  | cs => readDigits cs

/-- The digits after the decimal point, if there is one. -/
def readFraction : List Char → Option (Option (List Char) × List Char)
  | '.' :: rest => do
    let (digits, rest) ← readDigits rest
    return (some digits, rest)
  | cs => some (none, cs)

/-- The digits of the exponent after its sign. -/
def readSigned : List Char → Option ((Bool × List Char) × List Char)
  | '-' :: rest => do
    let (digits, rest) ← readDigits rest
    return ((true, digits), rest)
  | '+' :: rest => do
    let (digits, rest) ← readDigits rest
    return ((false, digits), rest)
  | cs => do
    let (digits, rest) ← readDigits cs
    return ((false, digits), rest)

/-- The exponent, if there is one. -/
def readExponent : List Char → Option (Option (Bool × List Char) × List Char)
  | 'e' :: rest | 'E' :: rest => do
    let (exponent, rest) ← readSigned rest
    return (some exponent, rest)
  | cs => some (none, cs)

/-- A number after its sign. -/
def readNumber (negative : Bool) (cs : List Char) : Option (JsonValue × List Char) := do
  let (whole, rest) ← readWhole cs
  let (fraction, rest) ← readFraction rest
  let (exponent, rest) ← readExponent rest
  let text : NumberText := ⟨negative, whole, fraction.getD [], exponent, fraction.isSome⟩
  return (.number text.read, rest)

/-! ## Values -/

mutual

/-- A value at the beginning of some characters. The fuel bounds the nesting. -/
def readValue (fuel : Nat) (cs : List Char) : Option (JsonValue × List Char) :=
  match fuel with
  | 0 => none
  | fuel + 1 =>
    match skipSpace cs with
    | 'n' :: 'u' :: 'l' :: 'l' :: rest => some (.null, rest)
    | 't' :: 'r' :: 'u' :: 'e' :: rest => some (.bool true, rest)
    | 'f' :: 'a' :: 'l' :: 's' :: 'e' :: rest => some (.bool false, rest)
    | '"' :: rest => do
      let (s, rest) ← readString rest
      return (.string s, rest)
    | '[' :: rest =>
      match skipSpace rest with
      | ']' :: rest => some (.array [], rest)
      | _ => do
        let (values, rest) ← readElements fuel rest
        return (.array values, rest)
    | '\x7b' :: rest =>
      match skipSpace rest with
      | '\x7d' :: rest => some (.object [], rest)
      | _ => do
        let (members, rest) ← readMembers fuel rest
        return (.object members, rest)
    | '-' :: rest => readNumber true rest
    | rest => readNumber false rest

/-- The rest of an array that is not empty. -/
def readElements (fuel : Nat) (cs : List Char) : Option (List JsonValue × List Char) :=
  match fuel with
  | 0 => none
  | fuel + 1 => do
    let (v, rest) ← readValue fuel cs
    match skipSpace rest with
    | ',' :: rest =>
      let (values, rest) ← readElements fuel rest
      return (v :: values, rest)
    | ']' :: rest => return ([v], rest)
    | _ => none

/-- The rest of an object that is not empty. -/
def readMembers (fuel : Nat) (cs : List Char) :
    Option (List (Option String × JsonValue) × List Char) :=
  match fuel with
  | 0 => none
  | fuel + 1 =>
    match skipSpace cs with
    | '"' :: rest => do
      let (name, rest) ← readString rest
      match skipSpace rest with
      | ':' :: rest =>
        let (v, rest) ← readValue fuel rest
        match skipSpace rest with
        | ',' :: rest =>
          let (members, rest) ← readMembers fuel rest
          return ((name, v) :: members, rest)
        | '\x7d' :: rest => return ([(name, v)], rest)
        | _ => none
      | _ => none
    | _ => none

end

/-- The value that a text consists of. Every level of nesting takes a character, and each of its
members at least two, so there is always enough fuel. -/
def parse? (text : String) : Option JsonValue := do
  let cs := text.toList
  let (v, rest) ← readValue (2 * cs.length + 2) cs
  if (skipSpace rest).isEmpty then some v else none

end JsonValue

end MotionWatch
