import MotionWatch.Proofs.Trigger.Concern

/-!
# Recordings in a trace

A recording shows in what a trigger has done: all its targets are started, and later all of them
are stopped.

* `Recording.calls`: what is done with the targets for one recording.
* `motionAfter`: the motion flag after some actions.
* `Bracketed`: the trace of a trigger that is, or is not, recording. `start`, `stop` and `stay`:
  what keeps it.
* `targetCalls_calls`: what a single target sees of a recording.
-/

namespace MotionWatch

/-- What the targets are started with. -/
structure Recording where
  frames : List Frame
  event : Option Nat

namespace Recording

/-- What is done with `n` targets when a recording begins. -/
def opening (n : Nat) (r : Recording) : List Action := startTargets n r.frames r.event

/-- What is done with `n` targets for a whole recording. -/
def calls (n : Nat) (r : Recording) : List Action := r.opening n ++ stopTargets n

end Recording

/-- A call of a target. -/
inductive TargetCall where
  | start
  | stop
  deriving DecidableEq, Repr

/-- What an action means to target `i`. -/
def Action.targetCall? (i : Nat) : Action → Option TargetCall
  | .startTarget j _ _ => if i = j then some .start else none
  | .stopTarget j => if i = j then some .stop else none
  | _ => none

/-- The calls that target `i` sees. -/
def targetCalls (i : Nat) (l : List Action) : List TargetCall :=
  l.filterMap (Action.targetCall? i)

/-- What an action says about the motion flag. -/
def Action.motion? : Action → Option Bool
  | .setMotion on => some on
  | _ => none

/-- The motion flag after some actions. -/
def motionAfter (on : Bool) (l : List Action) : Bool :=
  (l.filterMap Action.motion?).foldl (fun _ on => on) on

/-! ## What targets see -/

section Targets

variable {i n : Nat} {l l' : List Action}

theorem targetCalls_append : targetCalls i (l ++ l') = targetCalls i l ++ targetCalls i l' :=
  List.filterMap_append ..

theorem targetCall?_eq_none {a : Action} (h : a.concern ≠ .targets) :
    a.targetCall? i = none := by
  cases a <;> first | rfl | exact absurd rfl h

/-- A target sees nothing of what is not about targets. -/
theorem targetCalls_concerning : targetCalls i (concerning .targets l) = targetCalls i l :=
  filterMap_concerning fun _ h => targetCall?_eq_none h

/-- A target only sees essential actions. -/
theorem targetCalls_essentials : targetCalls i (essentials l) = targetCalls i l :=
  filterMap_essentials fun _ h => targetCall?_eq_none (Action.concern_ne h rfl)

/-- A target sees its own part of what is done with all targets in turn. -/
theorem targetCalls_flatMap_range {part : Nat → List Action} {c : TargetCall}
    (h : ∀ j, targetCalls i (part j) = if i = j then [c] else []) (n : Nat) :
    targetCalls i ((List.range n).flatMap part) = if i < n then [c] else [] := by
  induction n with
  | zero => rfl
  | succ n ih =>
    rw [List.range_succ, List.flatMap_append, targetCalls_append, ih, List.flatMap_singleton, h]
    rcases Nat.lt_trichotomy i n with hi | rfl | hi
    · simp [hi, Nat.ne_of_lt hi, Nat.lt_succ_of_lt hi]
    · simp
    · have hn : ¬i < n + 1 := by omega
      simp [Nat.ne_of_gt hi, Nat.not_lt_of_gt hi, hn]

theorem targetCalls_startTargets (frames : List Frame) (event : Option Nat) :
    targetCalls i (startTargets n frames event) = if i < n then [.start] else [] := by
  refine targetCalls_flatMap_range (fun j => ?_) n
  by_cases hj : i = j
  · subst hj
    simp [targetCalls, List.filterMap_cons, Action.targetCall?]
  · simp [targetCalls, Action.targetCall?, hj]

theorem targetCalls_stopTargets :
    targetCalls i (stopTargets n) = if i < n then [.stop] else [] := by
  rw [stopTargets, List.map_eq_flatMap]
  refine targetCalls_flatMap_range (fun j => ?_) n
  by_cases hj : i = j
  · subst hj
    simp [targetCalls, Action.targetCall?]
  · simp [targetCalls, Action.targetCall?, hj]

/-- **A target sees a recording as a start and a stop.** -/
theorem targetCalls_calls (h : i < n) (r : Recording) :
    targetCalls i (r.calls n) = [.start, .stop] := by
  rw [Recording.calls, targetCalls_append, Recording.opening, targetCalls_startTargets,
    targetCalls_stopTargets, if_pos h, if_pos h]
  rfl

end Targets

/-! ## The motion flag -/

section Motion

variable {on : Bool} {l l' : List Action}

theorem motionAfter_append : motionAfter on (l ++ l') = motionAfter (motionAfter on l) l' := by
  rw [motionAfter, List.filterMap_append, List.foldl_append]
  rfl

theorem motion?_eq_none {a : Action} (h : a.concern ≠ .hub) : a.motion? = none := by
  cases a <;> first | rfl | exact absurd rfl h

theorem motionAfter_essentials : motionAfter on (essentials l) = motionAfter on l := by
  rw [motionAfter, filterMap_essentials fun _ h => motion?_eq_none (Action.concern_ne h rfl)]
  rfl

/-- Only what is done with the hub has an effect on the flag. -/
theorem motionAfter_concerning : motionAfter on (concerning .hub l) = motionAfter on l := by
  rw [motionAfter, filterMap_concerning fun _ h => motion?_eq_none h]
  rfl

theorem motionAfter_of_concerning (h : concerning .hub l = []) : motionAfter on l = on := by
  rw [← motionAfter_concerning, h]
  rfl

end Motion

/-! ## Traces -/

/-- The trace of a trigger with `n` targets: recordings that are over, then perhaps one that is
running. -/
structure Bracketed (n : Nat) (recording : Bool) (l : List Action) : Prop where
  calls : ∃ (past : List Recording) (running : Option Recording),
    concerning .targets l =
      past.flatMap (Recording.calls n) ++ running.toList.flatMap (Recording.opening n) ∧
    running.isSome = recording
  motion : motionAfter false l = recording

namespace Bracketed

variable {n : Nat} {recording : Bool} {l l' : List Action}

theorem nil : Bracketed n false [] := ⟨⟨[], none, rfl, rfl⟩, rfl⟩

/-- The targets are started. -/
theorem start (h : Bracketed n false l) (r : Recording)
    (hcalls : concerning .targets (essentials l') = r.opening n)
    (hmotion : motionAfter false (essentials l') = true) : Bracketed n true (l ++ l') := by
  rw [concerning_essentials rfl] at hcalls
  rw [motionAfter_essentials] at hmotion
  obtain ⟨past, running, hl, hrunning⟩ := h.calls
  obtain rfl : running = none := by simpa using hrunning
  refine ⟨⟨past, some r, ?_, rfl⟩, ?_⟩
  · rw [concerning_append, hl, hcalls]
    simp
  · rw [motionAfter_append, h.motion, hmotion]

/-- The targets are stopped. -/
theorem stop (h : Bracketed n true l)
    (hcalls : concerning .targets (essentials l') = stopTargets n)
    (hmotion : motionAfter true (essentials l') = false) : Bracketed n false (l ++ l') := by
  rw [concerning_essentials rfl] at hcalls
  rw [motionAfter_essentials] at hmotion
  obtain ⟨past, running, hl, hrunning⟩ := h.calls
  obtain ⟨r, rfl⟩ := Option.isSome_iff_exists.mp hrunning
  refine ⟨⟨past ++ [r], none, ?_, rfl⟩, ?_⟩
  · rw [concerning_append, hl, hcalls]
    simp [Recording.calls]
  · rw [motionAfter_append, h.motion, hmotion]

/-- Nothing is done with the targets. -/
theorem stay (h : Bracketed n recording l) (hcalls : concerning .targets (essentials l') = [])
    (hmotion : motionAfter recording (essentials l') = recording) :
    Bracketed n recording (l ++ l') := by
  rw [concerning_essentials rfl] at hcalls
  rw [motionAfter_essentials] at hmotion
  obtain ⟨past, running, hl, hrunning⟩ := h.calls
  refine ⟨⟨past, running, ?_, hrunning⟩, ?_⟩
  · rw [concerning_append, hl, hcalls, List.append_nil]
  · rw [motionAfter_append, h.motion, hmotion]

/-- Nothing essential is done. -/
theorem append_of_essentials (h : Bracketed n recording l) (hl : essentials l' = []) :
    Bracketed n recording (l ++ l') := by
  refine h.stay ?_ ?_
  · rw [hl]
    rfl
  · rw [hl]
    rfl

/-- All recordings are over. -/
theorem calls_of_not_recording (h : Bracketed n false l) :
    ∃ past : List Recording, concerning .targets l = past.flatMap (Recording.calls n) := by
  obtain ⟨past, running, hl, hrunning⟩ := h.calls
  obtain rfl : running = none := by simpa using hrunning
  exact ⟨past, by simpa using hl⟩

end Bracketed

/-- A target sees recordings as starts and stops in turn. -/
theorem targetCalls_of_calls {i n : Nat} {l : List Action} {past : List Recording}
    (h : concerning .targets l = past.flatMap (Recording.calls n)) (hi : i < n) :
    targetCalls i l = past.flatMap fun _ => [.start, .stop] := by
  rw [← targetCalls_concerning, h, targetCalls, List.filterMap_flatMap]
  exact congrArg (past.flatMap ·) (funext fun r => targetCalls_calls hi r)

end MotionWatch
