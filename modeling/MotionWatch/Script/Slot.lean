import MotionWatch.Log

/-!
# Script hooks

A trigger can run a script when a recording begins or ends. The script runs beside the trigger;
before the same hook is used again, its previous run is joined.

* `Launch`: what becomes of an attempt to run a script.
* `ScriptSlot.fire`: joins the previous run and starts the next one.
* `ScriptSlot.join`: waits for the run to end.
-/

namespace MotionWatch

/-- What becomes of an attempt to run a script. -/
inductive Launch where
  /-- It is running, and may come to a bad end. -/
  | running (crashes : Bool)
  | refused (cause : String)
  deriving DecidableEq, Repr

/-- What a hook does. -/
inductive ScriptCall where
  | run (path arguments : String)
  | join
  | log (record : LogRecord)
  deriving DecidableEq, Repr

/-- A hook, and whether its run is still to be joined; the run may come to a bad end. -/
structure ScriptSlot where
  path : String
  running : Option Bool
  deriving DecidableEq, Repr

namespace ScriptSlot

/-- A hook without a run. An empty path disables it. -/
def ofPath (path : String) : ScriptSlot := ⟨path, none⟩

/-- A hook that does nothing. -/
def disabled : ScriptSlot := ofPath ""

/-- Waits for the run to end, if there is one. -/
def join (s : ScriptSlot) : ScriptSlot × List ScriptCall :=
  match s.running with
  | none => (s, [])
  | some crashes =>
    ({ s with running := none },
      .join :: if crashes then [.log ⟨.error, "script thread panicked"⟩] else [])

/-- Joins the previous run and attempts the next one, with the given outcome. -/
def fire (s : ScriptSlot) (arguments : String) (launch : Launch) : ScriptSlot × List ScriptCall :=
  if s.path.isEmpty then (s, [])
  else
    let (s, calls) := s.join
    let calls := calls ++ [.run s.path arguments]
    match launch with
    | .running crashes => ({ s with running := some crashes }, calls)
    | .refused cause => (s, calls ++ [.log ⟨.warn, s!"cannot run {s.path}: {cause}"⟩])

/-- Whether firing with the given outcome starts a run. -/
def starts (s : ScriptSlot) : Launch → Bool
  | .running _ => !s.path.isEmpty
  | .refused _ => false

end ScriptSlot

end MotionWatch
