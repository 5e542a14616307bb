import MotionWatch.Frame.Basic
import MotionWatch.Table

/-!
# Published values

Detectors publish what they see under names. A value may have a time after which it is to be
discarded.

* `MetaValue`, `MetaWrite`: a value, and the order to publish it.
* `MetaBoard`: the last value of each kind under each name.
-/

namespace MotionWatch

/-- A value that is published. -/
inductive MetaValue where
  | int (n : Int)
  | double (x : Float)
  | string (s : String)
  | bitmap (f : Frame)

/-- How long a published value is good. -/
inductive Lifetime where
  | unlimited
  /-- So many microseconds from now on. -/
  | micros (n : Nat)
  deriving DecidableEq, Repr

/-- The order to publish a value. -/
structure MetaWrite where
  key : String
  lifetime : Lifetime
  value : MetaValue

namespace MetaKey

/-- The percentage of changed pixels. -/
def pixelsChanged : String := "$pixels-changed$"
/-- The text of an external detector. -/
def motionText : String := "$motion-meta$"
/-- The column of the centre of motion. -/
def centerX : String := "$motion-center-x$"
/-- The row of the centre of motion. -/
def centerY : String := "$motion-center-y$"

end MetaKey

/-- Values with the times at which they are to be discarded, 0 for never. There is one table for
each kind of value. -/
structure MetaBoard where
  ints : Table (Nat × Int)
  doubles : Table (Nat × Float)
  strings : Table (Nat × String)
  bitmaps : Table (Nat × Frame)

namespace MetaBoard

/-- Without values. -/
def empty : MetaBoard := ⟨.empty, .empty, .empty, .empty⟩

/-- Stores a value to be discarded at the given time. -/
def set (b : MetaBoard) (key : String) (discard : Nat) : MetaValue → MetaBoard
  | .int n => { b with ints := b.ints.insert key (discard, n) }
  | .double x => { b with doubles := b.doubles.insert key (discard, x) }
  | .string s => { b with strings := b.strings.insert key (discard, s) }
  | .bitmap f => { b with bitmaps := b.bitmaps.insert key (discard, f) }

/-- The value under a key, unless its time is over. -/
def current {α : Type} (t : Table (Nat × α)) (now : Nat) (key : String) : Option α :=
  match t.get? key with
  | some (discard, v) => if discard ≠ 0 ∧ discard < now then none else some v
  | none => none

/-- The integer under a key at a time. -/
def getInt (b : MetaBoard) (now : Nat) (key : String) : Option Int := current b.ints now key

/-- The double under a key at a time. -/
def getDouble (b : MetaBoard) (now : Nat) (key : String) : Option Float := current b.doubles now key

/-- The text under a key at a time. -/
def getString (b : MetaBoard) (now : Nat) (key : String) : Option String :=
  current b.strings now key

/-- The frame under a key at a time. -/
def getBitmap (b : MetaBoard) (now : Nat) (key : String) : Option Frame :=
  current b.bitmaps now key

end MetaBoard

end MotionWatch
