import MotionWatch.Log
import MotionWatch.Script.Shell

/-!
# Hooks that the shell runs

The command line of a hook is its path and its arguments. What becomes of it is logged.

* `runHook`: what remains after a hook, and how it ended.
* `hookRecord`: what is logged about it.
-/

namespace MotionWatch

/-- How the command line of a hook ends. -/
inductive HookEnd where
  | exited (status : Nat)
  | killed (signal : Nat)
  /-- The shell cannot be given such a text. -/
  | unfit
  deriving DecidableEq, Repr

/-- The command line of a hook. -/
def hookCommand (path arguments : String) : String := s!"{path} {arguments}"

/-- Whether a text can be given to a program or name a thread. -/
def isHandedOver (text : String) : Bool := !text.contains '\x00'

/-- How a shell ended. -/
def Shell.ending (s : Shell) : HookEnd :=
  match s.signal with
  | some n => .killed n
  | none => .exited s.status

/-- Runs the command line of a hook. -/
def runHook (settings : Table String) (command : String) : Shell × HookEnd :=
  if isHandedOver command then
    let s := (Shell.fresh settings).run command
    (s, s.ending)
  else (.fresh settings, .unfit)

/-- The name of a signal. -/
def signalName (n : Nat) : String :=
  match Shell.signals.find? fun s => s.2 = n with
  | some (name, _) => s!" (SIG{name})"
  | none => ""

/-- What is logged about the command line of a hook when it has ended. -/
def hookRecord (command : String) : HookEnd → LogRecord
  | .exited 0 => ⟨.debug, s!"{command}: done"⟩
  | .exited status => ⟨.warn, s!"{command}: exit status: {status}"⟩
  | .killed signal => ⟨.warn, s!"{command}: signal: {signal}{signalName signal}"⟩
  | .unfit => ⟨.error, s!"{command}: nul byte found in provided data"⟩

end MotionWatch
