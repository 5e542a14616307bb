import MotionWatch.Decimal.Number
import MotionWatch.Parameter.Value
import MotionWatch.Table
import MotionWatch.Text.Blank

/-!
# Parameter sets

The parameters of a trigger are declared once; their names, descriptions and kinds are fixed from
then on, and only the values change. Reading a parameter under a wrong name or kind is a mistake
of the program, writing one is a mistake of the administrator, so the two fail in different ways.

* `ParameterSet.declare`: adds a parameter.
* `ParameterSet.getBool` and its like: typed reads, which fail with a `Misuse`.
* `ParameterSet.set`, `setFromText`, `applyOverrides`: writes, which fail with a `ParameterError`.
* `ParameterSet.list`: all parameters in the order of their names.
-/

namespace MotionWatch

/-- A read that no correct program makes. -/
inductive Misuse where
  | undeclared (name : String)
  | wrongKind (name : String) (stored wanted : Kind)
  deriving DecidableEq, Repr

/-- What is said about a read that no correct program makes. -/
def Misuse.message : Misuse → String
  | undeclared name => s!"internal error: parameter \"{name}\" is not declared"
  | wrongKind name stored wanted =>
    s!"internal error: parameter \"{name}\" is {stored.name}, read as {wanted.name}"

/-- A write that is refused. -/
inductive ParameterError where
  | unknown (name : String)
  | kindMismatch (name : String) (declared got : Kind)
  | notBoolean (name text : String)
  | notInteger (name : String) (cause : Decimal.IntegerError)
  | notNumber (name : String) (cause : Decimal.NumberError)
  deriving DecidableEq, Repr

/-- What is said about a refused write, outermost cause first. -/
def ParameterError.causes : ParameterError → List String
  | unknown name => [s!"unknown parameter \"{name}\""]
  | kindMismatch name declared got =>
    [s!"parameter \"{name}\" is {declared.name}, got {got.name}"]
  | notBoolean name text => [s!"\"{text}\" is not a boolean (parameter \"{name}\")"]
  | notInteger name cause => [s!"parameter \"{name}\" expects an integer", cause.message]
  | notNumber name cause => [s!"parameter \"{name}\" expects a number", cause.message]

/-- A declared parameter. -/
structure Parameter where
  description : String
  kind : Kind
  value : Value

/-- The parameters of a trigger, by name. -/
structure ParameterSet where
  table : Table Parameter

namespace ParameterSet

/-- No parameters. -/
def empty : ParameterSet := ⟨.empty⟩

instance : Inhabited ParameterSet := ⟨empty⟩

/-- Declares a parameter, whose kind is that of its first value. A parameter of the same name is
replaced. -/
def declare (s : ParameterSet) (name description : String) (value : Value) : ParameterSet :=
  ⟨s.table.insert name ⟨description, value.kind, value⟩⟩

/-- The parameter of a name. -/
def get? (s : ParameterSet) (name : String) : Option Parameter := s.table.get? name

/-- Whether a name is declared. -/
def contains (s : ParameterSet) (name : String) : Bool := s.table.contains name

/-- Name, description and value of every parameter, ordered by name. -/
def list (s : ParameterSet) : List (String × String × Value) :=
  s.table.toList.map fun (name, p) => (name, p.description, p.value)

/-! ## Typed reads -/

/-- The value of a declared parameter. -/
def read (s : ParameterSet) (name : String) : Except Misuse Value :=
  match s.get? name with
  | some p => .ok p.value
  | none => .error (.undeclared name)

/-- Reads a truth value. -/
def getBool (s : ParameterSet) (name : String) : Except Misuse Bool := do
  match ← s.read name with
  | .bool b => .ok b
  | v => .error (.wrongKind name v.kind .bool)

/-- Reads an integer. -/
def getInt (s : ParameterSet) (name : String) : Except Misuse Int := do
  match ← s.read name with
  | .int n => .ok n.toInt
  | v => .error (.wrongKind name v.kind .int)

/-- Reads a double. -/
def getDouble (s : ParameterSet) (name : String) : Except Misuse Float := do
  match ← s.read name with
  | .double x => .ok x
  | v => .error (.wrongKind name v.kind .double)

/-- Reads a text. -/
def getString (s : ParameterSet) (name : String) : Except Misuse String := do
  match ← s.read name with
  | .string t => .ok t
  | v => .error (.wrongKind name v.kind .string)

/-! ## Writes -/

/-- The set with another value in a parameter. -/
def store (s : ParameterSet) (name : String) (p : Parameter) (value : Value) : ParameterSet :=
  ⟨s.table.insert name { p with value }⟩

/-- Writes a value. It has to be of the declared kind, or an integer for a double. -/
def set (s : ParameterSet) (name : String) (value : Value) : Except ParameterError ParameterSet :=
  match s.get? name with
  | none => .error (.unknown name)
  | some p =>
    match value.coerce? p.kind with
    | some v => .ok (s.store name p v)
    | none => .error (.kindMismatch name p.kind value.kind)

/-- The truth value that a word stands for, in any case. -/
def readBool (cs : List Char) : Option Bool :=
  let word := String.ofList (cs.map Char.toLower)
  if word = "true" ∨ word = "1" ∨ word = "yes" ∨ word = "on" then some true
  else if word = "false" ∨ word = "0" ∨ word = "no" ∨ word = "off" then some false
  else none

/-- Reads a text as a value of the kind of the named parameter. -/
def readValue (name : String) (kind : Kind) (cs : List Char) : Except ParameterError Value :=
  match kind with
  | .bool =>
    match readBool cs with
    | some b => .ok (.bool b)
    | none => .error (.notBoolean name (.ofList cs))
  | .int =>
    match Decimal.readInt64 cs with
    | .ok n => .ok (.int (.ofInt n))
    | .error e => .error (.notInteger name e)
  | .double =>
    match Decimal.readFloat cs with
    | .ok x => .ok (.double x)
    | .error e => .error (.notNumber name e)
  | .string => .ok (.string (.ofList cs))

/-- Writes the value that a text stands for; white space around it is ignored. -/
def setFromText (s : ParameterSet) (name text : String) : Except ParameterError ParameterSet :=
  match s.get? name with
  | none => .error (.unknown name)
  | some p => (readValue name p.kind (Text.strip text.toList)).map (s.store name p)

/-- Writes one value after the other, up to the first that is refused. -/
def applyOverrides (s : ParameterSet) :
    List (String × Value) → ParameterSet × Except ParameterError Unit
  | [] => (s, .ok ())
  | (name, value) :: rest =>
    match s.set name value with
    | .ok s' => s'.applyOverrides rest
    | .error e => (s, .error e)

end ParameterSet

end MotionWatch
