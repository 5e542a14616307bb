import MotionWatch.Proofs.Trigger.MotionRun
import MotionWatch.Proofs.Trigger.Outline
import MotionWatch.Proofs.Trigger.Rounds

/-!
# When scripts are run

A motion trigger runs a script when it tells its subscribers of motion, and another one when a
recording ends.

* `Milestone`: what is told of recordings, and which scripts are run. `Milestone.opened`,
  `Milestone.whole`: the milestones of one recording.
* `milestones_outline`: the milestones of a frame; `milestones_shutdown_snd`: of the end of all.
* `Told`: milestones that are those of recordings. `heralded_rounds`: in every run they are.
* `launches_of_run`: which scripts a run launches. They are run in turns exactly if no recording
  sees motion again.
* `started_twice`: the first script is run twice for one recording.
-/

namespace MotionWatch

/-- What is told of recordings, and which scripts are run. -/
inductive Milestone where
  /-- Subscribers are told of motion. -/
  | told
  | ran (hook : Hook)
  | begins
  | ends
  deriving DecidableEq, Repr

namespace Milestone

/-- The milestones of a recording that goes on, and has seen so many further frames with motion. -/
def opened (further : Nat) : List Milestone :=
  [told, ran .start, begins] ++ (List.replicate further [told, ran .start]).flatten

/-- The milestones of a recording that has ended. -/
def whole (further : Nat) : List Milestone := opened further ++ [ran .stop, ends]

/-- The script that is run. -/
def hook? : Milestone → Option Hook
  | ran hook => some hook
  | _ => none

end Milestone

/-- What an action tells of recordings. -/
def Action.milestone? : Action → Option Milestone
  | .notify _ => some .told
  | .runScript hook _ _ => some (.ran hook)
  | .beginEvent _ _ _ => some .begins
  | .setMotion false => some .ends
  | _ => none

/-- The milestones among actions. -/
def milestones (actions : List Action) : List Milestone := actions.filterMap Action.milestone?

/-- The script that is run. -/
def Action.launched? : Action → Option Hook
  | .runScript hook _ _ => some hook
  | _ => none

/-- The scripts that are run, in order. -/
def launches (actions : List Action) : List Hook := actions.filterMap Action.launched?

/-- The milestones of a frame, by the verdict on it. -/
def Verdict.milestones : Verdict → List Milestone
  | motion true => [.told, .ran .start, .begins]
  | motion false => [.told, .ran .start]
  | quiet _ true => [.ran .stop, .ends]
  | _ => []

theorem Verdict.milestones_of_isSilent {v : Verdict} (h : v.isSilent = true) :
    v.milestones = [] := by
  match v with
  | .muted _ | .gathering _ _ | .quiet _ false | .idle => rfl

theorem launches_eq (l : List Action) : launches l = (milestones l).filterMap Milestone.hook? := by
  unfold launches milestones
  rw [List.filterMap_filterMap]
  congr 1
  funext x
  cases x with
  | setMotion on => cases on <;> rfl
  | _ => rfl

theorem milestones_append (l l' : List Action) :
    milestones (l ++ l') = milestones l ++ milestones l' := List.filterMap_append

/-- What is about neither the hub nor scripts nor events is no milestone. -/
theorem milestone?_eq_none {x : Action} (hhub : x.concern ≠ .hub) (hscripts : x.concern ≠ .scripts)
    (hevents : x.concern ≠ .events) : x.milestone? = none := by
  cases x <;> first
    | rfl | exact absurd rfl hhub | exact absurd rfl hscripts | exact absurd rfl hevents

namespace MotionTrigger

variable {t t' : MotionTrigger} {a : Answers} {p : MotionParameters} {f : Frame} {d : Detection}
  {allow : Bool} {l actions : List Action}

/-! ## Parts of a reaction -/

theorem milestones_join (s : ScriptSlot) (hook : Hook) :
    milestones (s.join.2.map (Action.ofScript hook)) = [] := by
  unfold ScriptSlot.join
  match s.running with
  | none | some false | some true => rfl

/-- A script is run whether the attempt succeeds or not. -/
theorem milestones_fire {s : ScriptSlot} (hs : s.path ≠ "") (hook : Hook) (launch : Launch) :
    milestones ((s.fire "" launch).2.map (Action.ofScript hook)) = [.ran hook] := by
  have hpath : s.path.isEmpty = false := by simpa using hs
  unfold ScriptSlot.fire
  rw [hpath]
  cases launch with
  | running crashes =>
    show milestones ((s.join.2 ++ [ScriptCall.run s.join.1.path ""]).map (.ofScript hook)) = _
    rw [List.map_append, milestones_append, milestones_join]
    rfl
  | refused cause =>
    show milestones ((s.join.2 ++ [ScriptCall.run s.join.1.path ""] ++ [_]).map
      (.ofScript hook)) = _
    rw [List.append_assoc, List.map_append, milestones_append, milestones_join]
    rfl

theorem readsOutline_milestone? : ReadsOutline Action.milestone? := by
  intro c hc x hx
  rw [← hx] at hc
  exact milestone?_eq_none (ne_of_mem_of_not_mem hc (by decide))
    (ne_of_mem_of_not_mem hc (by decide)) (ne_of_mem_of_not_mem hc (by decide))

theorem milestones_aside (h : Aside l) : milestones l = [] := by
  refine h.filterMap_eq_nil (readsOutline_milestone? .log (by decide)) fun x hx => ?_
  exact milestone?_eq_none (by rw [hx]; decide) (by rw [hx]; decide) (by rw [hx]; decide)

theorem milestones_windingUp (hstop : t.onStop.path ≠ "") :
    milestones (t.windingUp a) = [.ran .stop, .ends] := by
  have hfired : milestones (t.fireStop a).2 = [.ran .stop] := milestones_fire hstop ..
  rw [windingUp, milestones_append, milestones_append, hfired]
  cases t.event <;> rfl

/-- What follows from a verdict, as far as it tells of recordings. -/
theorem milestones_outline (hstart : t.onStart.path ≠ "") (hstop : t.onStop.path ≠ "")
    (v : Verdict) : milestones (t.outline a p f d v) = v.milestones := by
  have hfired : milestones (t.fireStart a).2 = [.ran .start] := milestones_fire hstart ..
  match v with
  | .muted last =>
    show milestones (if last && (p.panTilt && t.steerable) then [.turn 0.0 0.0] else []) = []
    split <;> rfl
  | .gathering _ _ | .idle | .quiet _ false => rfl
  | .motion false =>
    show .told :: milestones ((t.fireStart a).2 ++ []) = _
    rw [List.append_nil, hfired]
    rfl
  | .motion true =>
    have hsteering : ∀ panTilt, milestones (t.steering a f d panTilt) = [] := by
      intro panTilt
      unfold steering
      split
      · split <;> rfl
      · rfl
    show .told :: milestones ((t.fireStart a).2 ++ .beginEvent _ _ _ :: t.steering a f d _) = _
    rw [milestones_append, hfired]
    exact congrArg (fun l => [.told, .ran .start, .begins] ++ l) (hsteering _)
  | .quiet _ true => exact milestones_windingUp hstop

/-! ## Calls -/

theorem milestones_shutdown_snd (hstop : t.onStop.path ≠ "") :
    milestones (t.shutdown a).2 =
      if t.counters.recording then [.ran .stop, .ends] else [] := by
  have hjoined : ∀ t : MotionTrigger, milestones t.joinScripts.2 = [] := by
    intro t
    show milestones (t.onStart.join.2.map (.ofScript .start) ++
      t.onStop.join.2.map (.ofScript .stop)) = []
    rw [milestones_append, milestones_join, milestones_join]
    rfl
  have hstopped : milestones ({ t with prerecord := .empty }.stopRecording a).2 =
      [.ran .stop, .ends] :=
    readsOutline_milestone?.stopRecording.trans (milestones_windingUp hstop)
  rw [shutdown_eq, milestones_append, milestones_append, hjoined, stopped]
  split
  · rw [hstopped]
    rfl
  · rfl

end MotionTrigger

/-! ## Recordings -/

/-- The two scripts in turns, `n` times, and perhaps the first one once more. -/
def inTurns (n : Nat) (ongoing : Bool) : List Hook :=
  (List.replicate n [Hook.start, .stop]).flatten ++ if ongoing then [.start] else []

/-- The scripts that are run for recordings with so many further frames of motion. -/
def launchesFor (further : List Nat) (current : Option Nat) : List Hook :=
  further.flatMap (fun n => List.replicate (n + 1) .start ++ [.stop]) ++
    current.elim [] fun n => List.replicate (n + 1) .start

theorem hooks_opened (n : Nat) :
    (Milestone.opened n).filterMap Milestone.hook? = List.replicate (n + 1) .start := by
  unfold Milestone.opened
  induction n with
  | zero => rfl
  | succ n ih =>
    rw [List.replicate_succ', List.flatten_append, ← List.append_assoc, List.filterMap_append, ih,
      List.replicate_succ' (n := n + 1)]
    rfl

theorem hooks_told (further : List Nat) (current : Option Nat) :
    (further.flatMap Milestone.whole ++ current.elim [] Milestone.opened).filterMap
      Milestone.hook? = launchesFor further current := by
  have hwhole : ∀ n, (Milestone.whole n).filterMap Milestone.hook? =
      List.replicate (n + 1) .start ++ [.stop] := by
    intro n
    rw [Milestone.whole, List.filterMap_append, hooks_opened]
    rfl
  rw [List.filterMap_append, List.filterMap_flatMap, launchesFor]
  congr 1
  · exact congrArg (further.flatMap ·) (funext hwhole)
  · cases current with
    | none => rfl
    | some n => exact hooks_opened n

/-- The scripts are run in turns exactly if no recording has further frames of motion. -/
theorem launchesFor_eq_inTurns_iff (further : List Nat) (current : Option Nat) :
    launchesFor further current = inTurns further.length current.isSome ↔
      (∀ n ∈ further, n = 0) ∧ ∀ n ∈ current, n = 0 := by
  induction further with
  | nil =>
    cases current with
    | none => simp [launchesFor, inTurns]
    | some n => cases n <;> simp [launchesFor, inTurns, List.replicate_succ]
  | cons n further ih =>
    cases n with
    | zero => simpa [launchesFor, inTurns, List.replicate_succ] using ih
    | succ n => simp [launchesFor, inTurns, List.replicate_succ]

/-- Milestones that are those of recordings: of some that have ended, and perhaps of one that goes
on. -/
def Told (recording : Bool) (l : List Milestone) : Prop :=
  ∃ (further : List Nat) (current : Option Nat),
    l = further.flatMap Milestone.whole ++ current.elim [] Milestone.opened ∧
      current.isSome = recording

namespace Told

variable {l : List Milestone}

theorem nil : Told false [] := ⟨[], none, rfl, rfl⟩

theorem starts (h : Told false l) : Told true (l ++ [.told, .ran .start, .begins]) := by
  obtain ⟨further, current, rfl, hnone⟩ := h
  cases current with
  | some n => cases hnone
  | none => exact ⟨further, some 0, by simp [Milestone.opened], rfl⟩

theorem goesOn (h : Told true l) : Told true (l ++ [.told, .ran .start]) := by
  obtain ⟨further, current, rfl, hsome⟩ := h
  obtain ⟨n, rfl⟩ := Option.isSome_iff_exists.mp hsome
  refine ⟨further, some (n + 1), ?_, rfl⟩
  simp [Milestone.opened, List.replicate_succ']

theorem stops (h : Told true l) : Told false (l ++ [.ran .stop, .ends]) := by
  obtain ⟨further, current, rfl, hsome⟩ := h
  obtain ⟨n, rfl⟩ := Option.isSome_iff_exists.mp hsome
  exact ⟨further ++ [n], none, by simp [Milestone.whole], rfl⟩

/-- A verdict tells what it does to the recording. -/
theorem turn {recording recording' : Bool} {v : Verdict} (h : Told recording l)
    (hv : v.Turns recording recording') : Told recording' (l ++ v.milestones) := by
  cases hv with
  | starts => exact h.starts
  | goesOn => exact h.goesOn
  | stops seen => exact h.stops
  | stays silent =>
    rw [Verdict.milestones_of_isSilent silent, List.append_nil]
    exact h

end Told

namespace MotionTrigger

variable {t t' : MotionTrigger} {a : Answers} {f : Frame} {allow : Bool} {l actions : List Action}

theorem path_join (s : ScriptSlot) : s.join.1.path = s.path := by
  unfold ScriptSlot.join
  cases s.running <;> rfl

theorem path_fire (s : ScriptSlot) (arguments : String) (launch : Launch) :
    (s.fire arguments launch).1.path = s.path := by
  unfold ScriptSlot.fire
  split
  · rfl
  · cases launch <;> exact path_join s

theorem path_onStartAfter (v : Verdict) : (t.onStartAfter a v).path = t.onStart.path := by
  match v with
  | .motion _ => exact path_fire ..
  | .muted _ | .gathering _ _ | .quiet _ _ | .idle => rfl

theorem path_onStopAfter (v : Verdict) : (t.onStopAfter a v).path = t.onStop.path := by
  match v with
  | .quiet _ true => exact path_fire ..
  | .muted _ | .gathering _ _ | .motion _ | .quiet _ false | .idle => rfl

/-- A trigger with both scripts, whose milestones are those of its recordings. -/
structure Heralded (t : MotionTrigger) (l : List Action) : Prop where
  onStart : t.onStart.path ≠ ""
  onStop : t.onStop.path ≠ ""
  told : Told t.counters.recording (milestones l)

namespace Heralded

/-- What is no milestone changes nothing. -/
theorem congr (h : Heralded t l) (hactions : milestones actions = [])
    (hstart : t'.onStart = t.onStart) (hstop : t'.onStop = t.onStop)
    (hcounters : t'.counters = t.counters) : Heralded t' (l ++ actions) := by
  refine ⟨hstart ▸ h.onStart, hstop ▸ h.onStop, ?_⟩
  rw [hcounters, milestones_append, hactions, List.append_nil]
  exact h.told

/-- **A frame tells of the recordings.** -/
theorem processFrame (h : Heralded t l) (hp : t.processFrame a f allow = .ok (t', actions)) :
    Heralded t' (l ++ actions) := by
  obtain ⟨rfl, hnil⟩ | ⟨d, p, hc, hread⟩ := readsOutline_milestone?.processFrame hp
  · exact h.congr hnil rfl rfl rfl
  · have hmilestones : milestones actions = (t.judge a p d allow).2.milestones :=
      hread.trans (milestones_outline h.onStart h.onStop _)
    rw [hc.left]
    refine ⟨?_, ?_, ?_⟩
    · show (t.onStartAfter a (t.judge a p d allow).2).path ≠ ""
      rw [path_onStartAfter]
      exact h.onStart
    · show (t.onStopAfter a (t.judge a p d allow).2).path ≠ ""
      rw [path_onStopAfter]
      exact h.onStop
    · rw [milestones_append, hmilestones]
      exact h.told.turn (t.counters.turns (a.isActive d allow) p.limits)

/-- **The end tells of the last recording.** -/
theorem shutdown (h : Heralded t l) (a : Answers) :
    Heralded (t.shutdown a).1 (l ++ (t.shutdown a).2) := by
  have htold := h.told
  rw [shutdown_fst]
  refine ⟨?_, ?_, ?_⟩
  · show t.onStart.join.1.path ≠ ""
    rw [path_join]
    exact h.onStart
  · show (if t.counters.recording then (t.onStop.fire "" (a.launch .stop)).1
      else t.onStop).join.1.path ≠ ""
    rw [path_join]
    split
    · rw [path_fire]
      exact h.onStop
    · exact h.onStop
  · rw [milestones_append, milestones_shutdown_snd h.onStop]
    cases hrec : t.counters.recording with
    | true =>
      rw [hrec] at htold
      exact htold.stops
    | false =>
      rw [hrec] at htold
      show Told false (milestones l ++ [])
      rw [List.append_nil]
      exact htold

end Heralded

section Runs

variable {σ : Type} {h : Host σ} {r r' : Running σ}

theorem Round.heralded (hr : Round r r') (hh : Heralded r.trigger r.trace) :
    Heralded r'.trigger r'.trace := by
  cases hr with
  | looks l detector lastTs aside trigger trace outcome =>
    rw [trace, trigger]
    exact hh.congr (milestones_aside aside) rfl rfl rfl
  | frame a f allow before actions after asides call trace outcome =>
    have hbefore : Heralded { r.trigger with lastTs := f.ts } (r.trace ++ before) :=
      hh.congr (milestones_aside asides.1) rfl rfl rfl
    rw [trace, ← List.append_assoc, ← List.append_assoc]
    exact (hbefore.processFrame call).congr (milestones_aside asides.2) rfl rfl rfl
  | ends a trigger trace =>
    rw [trace, trigger]
    exact hh.shutdown a

theorem heralded_rounds {t : MotionTrigger} (hrec : t.counters.recording = false)
    (hstart : t.onStart.path ≠ "") (hstop : t.onStop.path ≠ "") (world : σ) (k : Nat) :
    let r := Run.rounds (step h) k (startRun h t world)
    Heralded r.trigger r.trace := by
  refine rounds_keep (P := fun r => Heralded r.trigger r.trace) ?_
    (fun _ _ hh hr => hr.heralded hh) k
  refine ⟨hstart, hstop, ?_⟩
  show Told t.counters.recording []
  rw [hrec]
  exact .nil

/-- **Which scripts a run launches.** The first script is run when a recording begins, and again
for each further frame with motion on which subscribers are told; the other one when the recording
ends, be it at the end of the run. So the scripts are run in turns, one pair for each recording,
exactly if no recording sees motion again. -/
theorem launches_of_run (h : Host σ) (t : MotionTrigger) (world : σ) (k : Nat)
    (hrec : t.counters.recording = false) (hstart : t.onStart.path ≠ "")
    (hstop : t.onStop.path ≠ "") :
    let r := Run.rounds (step h) k (startRun h t world)
    ∃ (further : List Nat) (current : Option Nat),
      milestones r.trace =
        further.flatMap Milestone.whole ++ current.elim [] Milestone.opened ∧
      current.isSome = r.trigger.counters.recording ∧
      (∀ o, r.outcome? = some o → (∀ cause, o ≠ .crashed cause) → current = none) ∧
      (launches r.trace = inTurns further.length current.isSome ↔
        (∀ n ∈ further, n = 0) ∧ ∀ n ∈ current, n = 0) := by
  intro r
  obtain ⟨further, current, hmilestones, hcurrent⟩ :=
    (heralded_rounds (h := h) hrec hstart hstop world k).told
  refine ⟨further, current, hmilestones, hcurrent, fun o ho hcrash => ?_, ?_⟩
  · have hover : r.trigger.counters.recording = false := closed_rounds t world k o ho hcrash
    cases current with
    | none => rfl
    | some n =>
      rw [hover] at hcurrent
      cases hcurrent
  · rw [launches_eq, hmilestones, hooks_told]
    exact launchesFor_eq_inTurns_iff further current

end Runs

/-- Surroundings as in a noisy place, in which scripts can be run. -/
def alarmed : Host Nat :=
  { noisy with
    answers := fun left => { noisy.answers left with launch := fun _ => .running false } }

/-- A run in such surroundings, with so many frames after the warm-up. -/
def alarmedRun (frames : Nat) : Running Nat :=
  Run.rounds (step alarmed) (frames + 4) (startRun alarmed
    { create "hall" "lens" (.builtin fun _ => none) with
      onStart := .ofPath "begin", onStop := .ofPath "end", warmUp := 1 } (frames + 1))

/-- With a single frame of motion the scripts are run in turns. -/
theorem launches_of_run_alarmedRun :
    (alarmedRun 1).outcome? = some .completed ∧ launches (alarmedRun 1).trace = [.start, .stop] ∧
    ∃ (further : List Nat) (current : Option Nat),
      milestones (alarmedRun 1).trace =
        further.flatMap Milestone.whole ++ current.elim [] Milestone.opened ∧
      current.isSome = (alarmedRun 1).trigger.counters.recording ∧
      (∀ o, (alarmedRun 1).outcome? = some o → (∀ cause, o ≠ .crashed cause) → current = none) ∧
      (launches (alarmedRun 1).trace = inTurns further.length current.isSome ↔
        (∀ n ∈ further, n = 0) ∧ ∀ n ∈ current, n = 0) := by
  refine ⟨by decide, by decide, ?_⟩
  exact launches_of_run alarmed _ 2 5 rfl (by decide) (by decide)

/-- With a second one, the script for the start is run twice for one recording. -/
theorem started_twice :
    (alarmedRun 2).outcome? = some .completed ∧
      (milestones (alarmedRun 2).trace).count .begins = 1 ∧
      launches (alarmedRun 2).trace = [.start, .start, .stop] ∧
      launches (alarmedRun 2).trace ≠ inTurns 1 false := by
  decide

end MotionTrigger

end MotionWatch
