/-!
# Control of a running trigger

The owner of a trigger asks it to stop or to pause, and the trigger looks at that now and then.

* `Control`: what was asked for.
* `Control.check?`: whether to go on; nothing while it is paused.
-/

namespace MotionWatch

/-- What a trigger was asked to do. -/
structure Control where
  stopped : Bool
  paused : Bool
  deriving DecidableEq, Repr

namespace Control

/-- Nothing was asked for yet. -/
def fresh : Control := ⟨false, false⟩

/-- Asks to stop, for good. -/
def stop (c : Control) : Control := { c with stopped := true }

/-- Asks to pause. -/
def pause (c : Control) : Control := { c with paused := true }

/-- Asks to go on after a pause. -/
def resume (c : Control) : Control := { c with paused := false }

/-- Whether to go on. There is no answer as long as a pause lasts; a stop ends it. -/
def check? (c : Control) : Option Bool :=
  if c.stopped then some false else if c.paused then none else some true

/-- Whether to go on after a sleep, which a stop ends early. A pause makes no difference. -/
def afterSleep (c : Control) : Bool := !c.stopped

end Control

end MotionWatch
