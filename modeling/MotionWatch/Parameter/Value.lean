import MotionWatch.Decimal.Layout

/-!
# Parameter values

A parameter holds a truth value, a 64-bit integer, a double or a text.

* `Kind`, `Value`: the kinds and their values.
* `Value.coerce?`: a value as one of a given kind; integers are taken where doubles are wanted.
* `Value.text`: a value as it is shown.
-/

namespace MotionWatch

/-- The kinds of parameters. -/
inductive Kind where
  | bool
  | int
  | double
  | string
  deriving DecidableEq, Repr

/-- The name of a kind. -/
def Kind.name : Kind → String
  | bool => "Bool"
  | int => "Int"
  | double => "Double"
  | string => "String"

/-- The value of a parameter. -/
inductive Value where
  | bool (b : Bool)
  | int (n : Int64)
  | double (x : Float)
  | string (s : String)

namespace Value

instance : Inhabited Value := ⟨.bool false⟩

/-- The kind of a value. -/
def kind : Value → Kind
  | bool _ => .bool
  | int _ => .int
  | double _ => .double
  | string _ => .string

/-- The value as one of the wanted kind: itself, or the double closest to an integer. -/
def coerce? (v : Value) (wanted : Kind) : Option Value :=
  if v.kind = wanted then some v
  else match v, wanted with
    | int n, .double => some (double (Decimal.floatOfInt n.toInt))
    | _, _ => none

/-- The value as it is shown. -/
def text : Value → String
  | bool b => if b then "true" else "false"
  | int n => .ofList (Decimal.ofInt n.toInt)
  | double x => Decimal.plainFloat x
  | string s => s

theorem kind_coerce? {v w : Value} {k : Kind} (h : v.coerce? k = some w) : w.kind = k := by
  unfold coerce? at h
  split at h
  · next hk => cases h; exact hk
  · split at h
    · cases h; rfl
    · cases h

end Value

end MotionWatch
