import MotionWatch.Trigger.Action

/-!
# What actions are about

Most theorems on triggers are about a few of the things that a trigger has done. Here actions are
sorted by what they are about, so that the rest of a list can be left out.

* `Action.concern`: what an action is about.
* `concerning c actions`: the actions that are about `c`.
* `essentials actions`: without the ones that only the operator, the scripts, the board and the
  camera's motor notice, and without all waiting. What a trigger decides by its counters shows in
  the essential actions, in their order.
-/

namespace MotionWatch

/-- What an action is about. -/
inductive Concern where
  | log
  /-- Starting and stopping the camera or the microphone. -/
  | source
  /-- Getting frames and samples, and waiting. -/
  | input
  /-- The angle of the camera. -/
  | angle
  /-- The trigger's own signal. -/
  | signal
  /-- The trigger's own hub, with its motion flag. -/
  | hub
  | board
  | events
  | scripts
  | targets
  deriving DecidableEq, Repr

/-- What an action is about. -/
def Action.concern : Action → Concern
  | .log _ => .log
  | .startSource | .stopSource => .source
  | .fetch _ _ | .listen _ | .await _ | .sleep _ => .input
  | .turn _ _ => .angle
  | .takeSignal => .signal
  | .setMotion _ | .notify _ => .hub
  | .publish _ => .board
  | .beginEvent _ _ _ | .endEvent _ => .events
  | .runScript _ _ _ | .joinScript _ => .scripts
  | .demand _ _ | .startTarget _ _ _ | .stopTarget _ => .targets

/-- The concerns that are essential (module doc). -/
def Concern.isEssential : Concern → Bool
  | source | signal | hub | events | targets => true
  | log | input | angle | board | scripts => false

/-- The actions that are about `c`. -/
def concerning (c : Concern) (actions : List Action) : List Action :=
  actions.filter fun a => a.concern = c

/-- The essential actions. -/
def essentials (actions : List Action) : List Action :=
  actions.filter fun a => a.concern.isEssential

section Lists

variable {c : Concern} {a : Action} {l l' : List Action}

@[simp] theorem concerning_nil : concerning c [] = [] := rfl

@[simp] theorem concerning_append : concerning c (l ++ l') = concerning c l ++ concerning c l' :=
  List.filter_append ..

theorem concerning_cons :
    concerning c (a :: l) = if a.concern = c then a :: concerning c l else concerning c l := by
  simp [concerning, List.filter_cons]

@[simp] theorem essentials_nil : essentials [] = [] := rfl

@[simp] theorem essentials_append : essentials (l ++ l') = essentials l ++ essentials l' :=
  List.filter_append ..

/-- No list loses an essential action by leaving out the others. -/
theorem concerning_essentials (h : c.isEssential = true) :
    concerning c (essentials l) = concerning c l := by
  rw [concerning, essentials, List.filter_filter]
  refine List.filter_congr fun a _ => ?_
  by_cases hc : a.concern = c
  · simp [hc, h]
  · simp [hc]

/-- A reading of actions that finds nothing in the others can be made of the essential ones. -/
theorem filterMap_essentials {β : Type} {g : Action → Option β}
    (h : ∀ a, a.concern.isEssential = false → g a = none) :
    (essentials l).filterMap g = l.filterMap g := by
  rw [essentials, List.filterMap_filter]
  congr 1
  funext a
  cases he : a.concern.isEssential with
  | true => rfl
  | false => simp [h a he]

/-- A reading of actions that finds nothing in the ones that are not about `c` can be made of those
that are. -/
theorem filterMap_concerning {β : Type} {g : Action → Option β}
    (h : ∀ a, a.concern ≠ c → g a = none) : (concerning c l).filterMap g = l.filterMap g := by
  rw [concerning, List.filterMap_filter]
  refine congrArg (List.filterMap · l) (funext fun a => ?_)
  by_cases hc : a.concern = c
  · simp [hc]
  · simp [hc, h a hc]

/-- What no other action satisfies can be looked for among the essential ones. -/
theorem any_essentials {p : Action → Bool}
    (h : ∀ a, a.concern.isEssential = false → p a = false) : (essentials l).any p = l.any p := by
  rw [essentials, List.any_filter]
  congr 1
  funext a
  cases he : a.concern.isEssential with
  | true => rfl
  | false => simp [h a he]

theorem essentials_eq_nil (h : ∀ a ∈ l, a.concern.isEssential = false) : essentials l = [] := by
  refine List.filter_eq_nil_iff.mpr fun a ha => ?_
  simp [h a ha]

theorem essentials_eq_self (h : ∀ a ∈ l, a.concern.isEssential = true) : essentials l = l :=
  List.filter_eq_self.mpr h

theorem concerning_eq_nil (h : ∀ a ∈ l, a.concern ≠ c) : concerning c l = [] := by
  refine List.filter_eq_nil_iff.mpr fun a ha => ?_
  simp [h a ha]

theorem concerning_eq_self (h : ∀ a ∈ l, a.concern = c) : concerning c l = l :=
  List.filter_eq_self.mpr fun a ha => by simp [h a ha]

end Lists

/-! ## Single actions -/

section Single

variable {l : List Action}

@[simp] theorem essentials_log (r : LogRecord) : essentials (.log r :: l) = essentials l := rfl

@[simp] theorem essentials_turn (pan tilt : Float) :
    essentials (.turn pan tilt :: l) = essentials l := rfl

@[simp] theorem essentials_publish (w : MetaWrite) :
    essentials (.publish w :: l) = essentials l := rfl

@[simp] theorem essentials_takeSignal :
    essentials (.takeSignal :: l) = .takeSignal :: essentials l := rfl

@[simp] theorem essentials_setMotion (on : Bool) :
    essentials (.setMotion on :: l) = .setMotion on :: essentials l := rfl

@[simp] theorem essentials_notify (subject : String) :
    essentials (.notify subject :: l) = .notify subject :: essentials l := rfl

@[simp] theorem essentials_beginEvent (trigger : String) (kind : EventKind) (note : String) :
    essentials (.beginEvent trigger kind note :: l) =
      .beginEvent trigger kind note :: essentials l := rfl

@[simp] theorem essentials_endEvent (id : Nat) :
    essentials (.endEvent id :: l) = .endEvent id :: essentials l := rfl

@[simp] theorem essentials_startSource :
    essentials (.startSource :: l) = .startSource :: essentials l := rfl

@[simp] theorem essentials_stopSource :
    essentials (.stopSource :: l) = .stopSource :: essentials l := rfl

end Single

/-! ## Targets -/

theorem concern_of_mem_startTargets {n : Nat} {frames : List Frame} {event : Option Nat}
    {a : Action} (h : a ∈ startTargets n frames event) : a.concern = .targets := by
  obtain ⟨i, -, ha⟩ := List.mem_flatMap.mp h
  simp only [List.mem_cons, List.not_mem_nil, or_false] at ha
  rcases ha with rfl | rfl <;> rfl

theorem concern_of_mem_stopTargets {n : Nat} {a : Action} (h : a ∈ stopTargets n) :
    a.concern = .targets := by
  obtain ⟨i, -, rfl⟩ := List.mem_map.mp h
  rfl

@[simp] theorem essentials_startTargets (n : Nat) (frames : List Frame) (event : Option Nat) :
    essentials (startTargets n frames event) = startTargets n frames event :=
  essentials_eq_self fun a h => by rw [concern_of_mem_startTargets h]; rfl

@[simp] theorem essentials_stopTargets (n : Nat) : essentials (stopTargets n) = stopTargets n :=
  essentials_eq_self fun a h => by rw [concern_of_mem_stopTargets h]; rfl

@[simp] theorem concerning_targets_startTargets (n : Nat) (frames : List Frame)
    (event : Option Nat) :
    concerning .targets (startTargets n frames event) = startTargets n frames event :=
  concerning_eq_self fun _ h => concern_of_mem_startTargets h

@[simp] theorem concerning_targets_stopTargets (n : Nat) :
    concerning .targets (stopTargets n) = stopTargets n :=
  concerning_eq_self fun _ h => concern_of_mem_stopTargets h

/-- What is about something else is not among the calls that start the targets. -/
theorem concerning_startTargets {c : Concern} (hc : c ≠ .targets) (n : Nat) (frames : List Frame)
    (event : Option Nat) : concerning c (startTargets n frames event) = [] :=
  concerning_eq_nil fun _ h => by rw [concern_of_mem_startTargets h]; exact hc.symm

/-- What is about something else is not among the calls that stop the targets. -/
theorem concerning_stopTargets {c : Concern} (hc : c ≠ .targets) (n : Nat) :
    concerning c (stopTargets n) = [] :=
  concerning_eq_nil fun _ h => by rw [concern_of_mem_stopTargets h]; exact hc.symm

/-! ## Readings -/

namespace Action

/-- The subject that is published. -/
def subject? : Action → Option String
  | .notify subject => some subject
  | _ => none

/-- The target that is started. -/
def started? : Action → Option Nat
  | .startTarget i _ _ => some i
  | _ => none

/-- The target that is stopped. -/
def stopped? : Action → Option Nat
  | .stopTarget i => some i
  | _ => none

/-- An action that is not essential is not about anything essential. -/
theorem concern_ne {a : Action} {c : Concern} (ha : a.concern.isEssential = false)
    (hc : c.isEssential = true) : a.concern ≠ c := by
  rintro rfl
  rw [ha] at hc
  cases hc

theorem subject?_eq_none {a : Action} (h : a.concern ≠ .hub) : a.subject? = none := by
  cases a <;> first | rfl | exact absurd rfl h

theorem started?_eq_none {a : Action} (h : a.concern ≠ .targets) : a.started? = none := by
  cases a <;> first | rfl | exact absurd rfl h

theorem stopped?_eq_none {a : Action} (h : a.concern ≠ .targets) : a.stopped? = none := by
  cases a <;> first | rfl | exact absurd rfl h

end Action

section Readings

variable (n : Nat) (frames : List Frame) (event : Option Nat)

theorem subjects_essentials (l : List Action) :
    (essentials l).filterMap Action.subject? = l.filterMap Action.subject? :=
  filterMap_essentials fun _ h => Action.subject?_eq_none (Action.concern_ne h rfl)

theorem started_essentials (l : List Action) :
    (essentials l).filterMap Action.started? = l.filterMap Action.started? :=
  filterMap_essentials fun _ h => Action.started?_eq_none (Action.concern_ne h rfl)

theorem stopped_essentials (l : List Action) :
    (essentials l).filterMap Action.stopped? = l.filterMap Action.stopped? :=
  filterMap_essentials fun _ h => Action.stopped?_eq_none (Action.concern_ne h rfl)

@[simp] theorem subjects_startTargets :
    (startTargets n frames event).filterMap Action.subject? = [] := by
  simp [startTargets, List.filterMap_flatMap, Action.subject?]

@[simp] theorem started_startTargets :
    (startTargets n frames event).filterMap Action.started? = List.range n := by
  rw [startTargets, List.filterMap_flatMap]
  exact List.flatMap_singleton' (List.range n)

@[simp] theorem stopped_startTargets :
    (startTargets n frames event).filterMap Action.stopped? = [] := by
  simp [startTargets, List.filterMap_flatMap, Action.stopped?]

@[simp] theorem subjects_stopTargets : (stopTargets n).filterMap Action.subject? = [] := by
  simp [stopTargets, List.filterMap_map, Function.comp_def, Action.subject?]

@[simp] theorem started_stopTargets : (stopTargets n).filterMap Action.started? = [] := by
  simp [stopTargets, List.filterMap_map, Function.comp_def, Action.started?]

@[simp] theorem stopped_stopTargets :
    (stopTargets n).filterMap Action.stopped? = List.range n := by
  simp [stopTargets, List.filterMap_map, Function.comp_def, Action.stopped?]

end Readings

/-! ## Scripts -/

theorem concern_ofScript (hook : Hook) (call : ScriptCall) :
    (Action.ofScript hook call).concern.isEssential = false := by
  cases call <;> rfl

@[simp] theorem essentials_ofScript (hook : Hook) (calls : List ScriptCall) :
    essentials (calls.map (.ofScript hook)) = [] :=
  essentials_eq_nil fun a h => by
    obtain ⟨call, -, rfl⟩ := List.mem_map.mp h
    exact concern_ofScript hook call

end MotionWatch
