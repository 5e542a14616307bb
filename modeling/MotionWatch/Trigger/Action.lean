import MotionWatch.Parameter.Set
import MotionWatch.Record.EventLog
import MotionWatch.Record.MetaBoard
import MotionWatch.Script.Slot

/-!
# What triggers do

A trigger decides what is to be done, and its surroundings do it. What the trigger has to know for
a decision, it is told beforehand.

* `Action`: a thing to be done.
* `Answers`: what a trigger is told.
-/

namespace MotionWatch

/-- The hooks of a motion trigger. -/
inductive Hook where
  /-- A recording began. -/
  | start
  /-- A recording ended. -/
  | stop
  deriving DecidableEq, Repr

/-- A thing to be done for a trigger. -/
inductive Action where
  | log (record : LogRecord)
  | startSource
  | stopSource
  /-- Gets a frame that is newer than a time, and perhaps waits for the camera to come back. -/
  | fetch (block : Bool) (after : Nat)
  /-- Reads so many samples. -/
  | listen (samples : Nat)
  | turn (pan tilt : Float)
  /-- Waits until the trigger's signal is notified, but at most so many nanoseconds. -/
  | await (nanoseconds : Nat)
  /-- Takes the notification of the trigger's signal. -/
  | takeSignal
  /-- Says whether the trigger is recording. -/
  | setMotion (on : Bool)
  | notify (subject : String)
  | publish (write : MetaWrite)
  /-- Begins an event of the named trigger. -/
  | beginEvent (trigger : String) (kind : EventKind) (note : String)
  | endEvent (id : Nat)
  | runScript (hook : Hook) (path arguments : String)
  | joinScript (hook : Hook)
  | demand (target : Nat) (on : Bool)
  | startTarget (target : Nat) (frames : List Frame) (event : Option Nat)
  | stopTarget (target : Nat)
  /-- Sleeps for so many nanoseconds, or until a stop is asked for. -/
  | sleep (nanoseconds : Nat)

/-- What a hook does, as a thing to be done. -/
def Action.ofScript (hook : Hook) : ScriptCall → Action
  | .run path arguments => .runScript hook path arguments
  | .join => .joinScript hook
  | .log record => .log record

/-- What a trigger is told before it decides. -/
structure Answers where
  params : ParameterSet
  /-- Whether the trigger's signal was notified. -/
  signalled : Bool
  /-- Whether a trigger that this one follows is recording. -/
  upstream : Bool
  /-- Where the camera points to. -/
  angle : Float × Float
  /-- The number of the next event, or why there is none. -/
  newEvent : Except String Nat
  /-- Whether an event can be ended. -/
  eventEnd : Nat → Except String Unit
  /-- What becomes of an attempt to run the script of a hook. -/
  launch : Hook → Launch

/-- The actions that start all targets, in order. The frames go to the first one. -/
def startTargets (targets : Nat) (frames : List Frame) (event : Option Nat) : List Action :=
  (List.range targets).flatMap fun i =>
    [.demand i true, .startTarget i (if i = 0 then frames else []) event]

/-- The actions that stop all targets, in order. -/
def stopTargets (targets : Nat) : List Action := (List.range targets).map .stopTarget

end MotionWatch
