import MotionWatch.Json.Basic
import MotionWatch.Parameter.Value
import MotionWatch.Table

/-!
# Reading JSON as something

Each reader accepts the values that its kind of thing can be written as.

* `toText?`, `toNat?`, `toInt?`, `toDouble?`, `toParameterValue?`: single values.
* `toOptional?`, `toPair?`, `toTable?`, `toUnitVariant?`: composed ones.
* `fields?`: the fields of a structure, by name or in order.
-/

namespace MotionWatch.JsonValue

variable {α β : Type}

/-- A text. -/
def toText? : JsonValue → Option String
  | string s => s
  | _ => none

/-- A natural number up to a limit. -/
def toNat? (limit : Nat) : JsonValue → Option Nat
  | number (.natural n) => if n ≤ limit then some n else none
  | _ => none

/-- The greatest natural number of 64 bits. -/
def maxNat : Nat := maxSignificand

/-- An integer of 64 bits. -/
def toInt? : JsonValue → Option Int
  | number (.natural n) => if (n : Int) ≤ Decimal.maxInt64 then some n else none
  | number (.negative n) => some n
  | _ => none

/-- A double. -/
def toDouble? : JsonValue → Option Float
  | number (.natural n) => some (UInt64.ofNat n).toFloat
  | number (.negative n) => some (Int64.ofInt n).toFloat
  | number (.double x) => some x
  | _ => none

/-- The value of a parameter. An integer that is too large is a double. -/
def toParameterValue? : JsonValue → Option Value
  | bool b => some (.bool b)
  | number n =>
    match toInt? (number n) with
    | some i => some (.int (.ofInt i))
    | none => (toDouble? (number n)).map .double
  | string s => s.map .string
  | _ => none

/-- Something, or nothing. -/
def toOptional? (read : JsonValue → Option α) : JsonValue → Option (Option α)
  | null => some none
  | v => (read v).map some

/-- Two things. -/
def toPair? (first : JsonValue → Option α) (second : JsonValue → Option β) :
    JsonValue → Option (α × β)
  | array [a, b] => do return (← first a, ← second b)
  | _ => none

/-- Things by name; a later one replaces an earlier one of the same name. -/
def toTable? (read : JsonValue → Option α) : JsonValue → Option (Table α)
  | object members => do
    let pairs ← members.mapM fun (name, v) => do return (← name, ← read v)
    return .ofList pairs
  | _ => none

/-- One of some names, alone or as the only member of an object without value. -/
def toUnitVariant? (variants : List (String × α)) : JsonValue → Option α
  | string (some name) => variants.lookup name
  | object [(some name, null)] => variants.lookup name
  | _ => none

/-- The value of a field among the members of an object. -/
def field? (members : List (String × JsonValue)) (name : String) : Option JsonValue :=
  (members.find? fun m => m.1 = name).map Prod.snd

/-- The fields of a structure. In an object each of them occurs at most once and others are
ignored; in an array they come in order, and the last ones may be missing. -/
def fields? (names : List String) : JsonValue → Option (List (Option JsonValue))
  | object members => do
    let members ← members.mapM fun (name, v) => do return (← name, v)
    if names.any fun name => 1 < members.countP fun m => m.1 = name then none
    else some (names.map (field? members))
  | array values =>
    if values.length ≤ names.length then
      some (values.map some ++ List.replicate (names.length - values.length) none)
    else none
  | _ => none

/-- A field that has a value even if it is missing. -/
def withDefault (standard : α) (read : JsonValue → Option α) : Option JsonValue → Option α
  | none => some standard
  | some v => read v

/-! ## Writing -/

/-- A text in JSON. -/
def ofText (s : String) : JsonValue := string (some s)

/-- A natural number in JSON. -/
def ofNat (n : Nat) : JsonValue := number (.natural n)

/-- An integer in JSON. -/
def ofInt (n : Int) : JsonValue := if n < 0 then number (.negative n) else ofNat n.toNat

/-- The value of a parameter in JSON. -/
def ofParameterValue : Value → JsonValue
  | .bool b => bool b
  | .int n => ofInt n.toInt
  | .double x => number (.double x)
  | .string s => ofText s

/-- Something in JSON, or nothing. -/
def ofOptional (write : α → JsonValue) : Option α → JsonValue
  | some a => write a
  | none => null

/-- An object of named values. -/
def ofFields (fields : List (String × JsonValue)) : JsonValue :=
  object (fields.map fun (name, v) => (some name, v))

end MotionWatch.JsonValue
