/-!
# The log of events

Every recording belongs to an event, which begins and ends. Events are numbered from 1 in the
order in which they begin.

* `EventLog.register`: begins an event.
* `EventLog.endEvent`: ends one, or says why it cannot be ended.
-/

namespace MotionWatch

/-- What caused an event. -/
inductive EventKind where
  | motion
  | audio
  deriving DecidableEq, Repr

/-- The name of a kind of event. -/
def EventKind.name : EventKind → String
  | motion => "Motion"
  | audio => "Audio"

/-- An event of a trigger. -/
structure EventRecord where
  id : Nat
  trigger : String
  kind : EventKind
  note : String
  ended : Bool
  deriving DecidableEq, Repr

/-- Why an event cannot be ended. -/
inductive EventError where
  | unknown (id : Nat)
  | alreadyEnded (id : Nat)
  deriving DecidableEq, Repr

/-- What is said about an event that cannot be ended. -/
def EventError.message : EventError → String
  | unknown id => s!"no event with id {id}"
  | alreadyEnded id => s!"event {id} already ended"

/-- The events so far, in the order in which they began. -/
structure EventLog where
  events : List EventRecord
  deriving DecidableEq, Repr

namespace EventLog

/-- Without events. -/
def empty : EventLog := ⟨[]⟩

/-- The number of the next event. -/
def nextId (l : EventLog) : Nat := l.events.length + 1

/-- Begins an event, which gets the next number. -/
def register (l : EventLog) (trigger : String) (kind : EventKind) (note : String) : EventLog :=
  ⟨l.events ++ [⟨l.nextId, trigger, kind, note, false⟩]⟩

/-- The event of a number. -/
def find? (l : EventLog) (id : Nat) : Option EventRecord := l.events.find? fun e => e.id = id

/-- The log in which an event is over. -/
def markEnded (l : EventLog) (id : Nat) : EventLog :=
  ⟨l.events.map fun e => if e.id = id then { e with ended := true } else e⟩

/-- Ends an event. -/
def endEvent (l : EventLog) (id : Nat) : Except EventError EventLog :=
  match l.find? id with
  | none => .error (.unknown id)
  | some e => if e.ended then .error (.alreadyEnded id) else .ok (l.markEnded id)

end EventLog

end MotionWatch
