import MotionWatch.Log

/-!
# Notifications

A trigger publishes what it notices through a hub, and others leave a signal with that hub. A
signal remembers that it was notified until somebody takes the notification. The hub does not keep
a signal alive, and a registration ends when its guard is dropped.

* `Exchange`: all hubs, signals and guards, under their numbers.
* `register`, `subscribe`, `dropGuard`, `dropSignal`, `dropHub`: who listens to whom.
* `notify`, `direct`, `take`: notifications on their way.
-/

namespace MotionWatch

/-- The registration of a signal with a hub. -/
structure Registration where
  key : Nat
  signal : Nat
  deriving DecidableEq, Repr

/-- Where a trigger publishes, and whether it is recording. -/
structure Hub where
  nextKey : Nat
  registrations : List Registration
  motion : Bool
  deriving DecidableEq, Repr

/-- A notification flag, and the subject of the latest notification. -/
structure Signal where
  pending : Bool
  lastSubject : Option String
  deriving DecidableEq, Repr

/-- What keeps a registration up. -/
structure Guard where
  hub : Nat
  key : Nat
  deriving DecidableEq, Repr

/-- All hubs, signals and guards. What was dropped leaves its number behind. -/
structure Exchange where
  hubs : List (Option Hub)
  signals : List (Option Signal)
  guards : List (Option Guard)
  deriving DecidableEq, Repr

namespace Hub

/-- A new hub. -/
def fresh : Hub := ⟨0, [], false⟩

/-- The number of registrations. -/
def length (h : Hub) : Nat := h.registrations.length

/-- The hub with one more registration. -/
def add (h : Hub) (signal : Nat) : Hub :=
  { h with nextKey := h.nextKey + 1, registrations := h.registrations ++ [⟨h.nextKey, signal⟩] }

/-- The hub without a registration, if it has that. -/
def remove? (h : Hub) (key : Nat) : Option Hub :=
  if h.registrations.any fun r => r.key == key then
    some { h with registrations := h.registrations.eraseP fun r => r.key == key }
  else none

end Hub

namespace Signal

/-- A new signal. -/
def fresh : Signal := ⟨false, none⟩

/-- The signal after a notification. -/
def notify (subject : String) (_ : Signal) : Signal := ⟨true, some subject⟩

/-- The signal after its notification was taken. -/
def take (s : Signal) : Signal := { s with pending := false }

end Signal

namespace Exchange

/-- Without anything. -/
def empty : Exchange := ⟨[], [], []⟩

/-- The hub of a number. -/
def hub? (e : Exchange) (hub : Nat) : Option Hub := (e.hubs[hub]?).join

/-- The signal of a number. -/
def signal? (e : Exchange) (signal : Nat) : Option Signal := (e.signals[signal]?).join

/-- The guard of a number. -/
def guard? (e : Exchange) (guard : Nat) : Option Guard := (e.guards[guard]?).join

/-- Changes a hub. -/
def modifyHub (e : Exchange) (hub : Nat) (f : Hub → Hub) : Exchange :=
  { e with hubs := e.hubs.modify hub (Option.map f) }

/-- Changes a signal. -/
def modifySignal (e : Exchange) (signal : Nat) (f : Signal → Signal) : Exchange :=
  { e with signals := e.signals.modify signal (Option.map f) }

/-! ## Who listens to whom -/

/-- One more hub, and its number. -/
def addHub (e : Exchange) : Exchange × Nat :=
  ({ e with hubs := e.hubs ++ [some .fresh] }, e.hubs.length)

/-- One more signal, and its number. -/
def addSignal (e : Exchange) : Exchange × Nat :=
  ({ e with signals := e.signals ++ [some .fresh] }, e.signals.length)

/-- Leaves a signal with a hub, and returns the number of the guard. -/
def register (e : Exchange) (hub signal : Nat) : Exchange × Option Nat :=
  match e.hub? hub, e.signal? signal with
  | some h, some _ =>
    ({ e.modifyHub hub (·.add signal) with guards := e.guards ++ [some ⟨hub, h.nextKey⟩] },
      some e.guards.length)
  | _, _ => (e, none)

/-- Leaves a signal with some hubs, and returns the numbers of the guards. -/
def subscribe (e : Exchange) (signal : Nat) (hubs : List Nat) : Exchange × List Nat :=
  hubs.foldl
    (fun (e, guards) hub =>
      let (e, guard) := e.register hub signal
      (e, guards ++ guard.toList))
    (e, [])

/-- Ends the registration of a guard. The hub may be gone, but never only the registration. -/
def unregister (e : Exchange) (g : Guard) : Exchange × List LogRecord :=
  match e.hub? g.hub with
  | none => (e, [])
  | some h =>
    match h.remove? g.key with
    | some h => (e.modifyHub g.hub fun _ => h, [])
    | none => (e, [⟨.error, s!"unregister: subscriber {g.key} not found"⟩])

/-- Drops a guard. -/
def dropGuard (e : Exchange) (guard : Nat) : Exchange × List LogRecord :=
  match e.guard? guard with
  | none => (e, [])
  | some g => { e with guards := e.guards.set guard none }.unregister g

/-- Drops a signal. It stays registered, but is not notified any more. -/
def dropSignal (e : Exchange) (signal : Nat) : Exchange :=
  { e with signals := e.signals.set signal none }

/-- Drops a hub. -/
def dropHub (e : Exchange) (hub : Nat) : Exchange := { e with hubs := e.hubs.set hub none }

/-! ## Notifications -/

/-- The signals that are registered with a hub and were not dropped. -/
def listeners (e : Exchange) (h : Hub) : List Nat :=
  (h.registrations.map Registration.signal).filter fun s => (e.signal? s).isSome

/-- Notifies a signal. -/
def direct (e : Exchange) (signal : Nat) (subject : String) : Exchange :=
  e.modifySignal signal (.notify subject)

/-- Notifies all signals that are registered with a hub. -/
def notify (e : Exchange) (hub : Nat) (subject : String) : Exchange × List LogRecord :=
  match e.hub? hub with
  | none => (e, [])
  | some h =>
    let signals := e.listeners h
    (signals.foldl (fun e s => e.direct s subject) e,
      [⟨.trace, s!"notify {signals.length} subscribers of {subject}"⟩])

/-- Whether a signal was notified since its notification was last taken. -/
def isPending (e : Exchange) (signal : Nat) : Bool := (e.signal? signal).any Signal.pending

/-- Takes the notification of a signal. -/
def take (e : Exchange) (signal : Nat) : Exchange := e.modifySignal signal .take

/-! ## Whether triggers are recording -/

/-- Whether the trigger that publishes through a hub is recording. -/
def motion (e : Exchange) (hub : Nat) : Bool := (e.hub? hub).any Hub.motion

/-- Says whether the trigger that publishes through a hub is recording. -/
def setMotion (e : Exchange) (hub : Nat) (on : Bool) : Exchange :=
  e.modifyHub hub fun h => { h with motion := on }

end Exchange

end MotionWatch
