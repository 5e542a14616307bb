import MotionWatch.Parameter.Set

/-!
# Faults

* `Fault`: what was asked for cannot be had, or the program stops.
* `Fault.ofRead`: reading a parameter under a wrong name or as a wrong kind stops the program.
-/

namespace MotionWatch

/-- How an operation can end without a result. -/
inductive Fault (ε : Type) where
  /-- Something is wrong with what it was given. -/
  | failed (cause : ε)
  /-- The program stops: a parameter is misused, or a number or a place is out of range. -/
  | crashed (cause : Option Misuse)
  deriving DecidableEq, Repr

namespace Fault

/-- Reads a parameter. -/
def ofRead {ε α : Type} (r : Except Misuse α) : Except (Fault ε) α :=
  r.mapError fun e => .crashed (some e)

@[simp] theorem ofRead_ok {ε α : Type} (x : α) :
    (ofRead (.ok x) : Except (Fault ε) α) = .ok x := rfl

@[simp] theorem ofRead_error {ε α : Type} (e : Misuse) :
    (ofRead (.error e) : Except (Fault ε) α) = .error (.crashed (some e)) := rfl

end Fault

end MotionWatch
