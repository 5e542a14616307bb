import MotionWatch.Proofs.Trigger.Crash
import MotionWatch.Proofs.Trigger.Outline

/-!
# What a motion trigger does about requests

The owner of a trigger may ask it to stop, to pause or to go on, at any time. The trigger learns of
that between two rounds.

* `Request`: what is asked for. `Control.after`: the control after some requests.
* `Host.Owned`: surroundings whose control is what an owner has asked for so far.
* `fetches`: how often a frame was asked for. `fetches_step`: a round asks once or not at all.
* `fetches_of_stop`: after a stop no frame is asked for. `returns_of_stop`: soon the run has
  returned.
* `asks_of_pause`: during a pause a frame is only asked for in the warm-up.
* `Obeys`: a run that does what it is asked for. `obeys_iff`: which runs obey.
-/

namespace MotionWatch

/-! ## Requests -/

/-- What the owner of a trigger may ask for. -/
inductive Request where
  | stop
  | pause
  /-- To go on after a pause. -/
  | resume
  deriving DecidableEq, Repr

namespace Control

/-- The control after one more request. -/
def obey (c : Control) : Request → Control
  | .stop => c.stop
  | .pause => c.pause
  | .resume => c.resume

/-- The control after some requests. -/
def after (requests : List Request) : Control := requests.foldl obey fresh

variable {l : List Request}

theorem after_concat (l : List Request) (r : Request) : after (l ++ [r]) = (after l).obey r :=
  List.foldl_concat ..

/-- A stop is for good. -/
theorem stopped_after : (after l).stopped = true ↔ .stop ∈ l := by
  induction l using List.reverseRecOn with
  | nil => exact iff_of_false nofun nofun
  | append_singleton l r ih =>
    rw [after_concat, List.mem_append, List.mem_singleton, ← ih]
    cases r with
    | stop => exact iff_of_true rfl (.inr rfl)
    | pause | resume => exact (or_iff_left nofun).symm

/-- There is a pause until something else is asked for. -/
theorem paused_after (h : l.getLast? = some .pause) : (after l).paused = true := by
  obtain ⟨earlier, rfl⟩ := List.getLast?_eq_some_iff.mp h
  rw [after_concat]
  rfl

theorem check?_of_stop (h : .stop ∈ l) : (after l).check? = some false :=
  if_pos (stopped_after.mpr h)

/-- During a pause there is no answer, unless there was a stop. -/
theorem check?_ne_of_pause (h : l.getLast? = some .pause) : (after l).check? ≠ some true := by
  unfold check?
  rw [paused_after h]
  split <;> nofun

end Control

/-- Surroundings with an owner whose requests so far are known. The control is what they ask for,
and none is ever taken back. -/
structure Host.Owned {σ : Type} (h : Host σ) (requests : σ → List Request) : Prop where
  control : ∀ w, h.control w = .after (requests w)
  idle : ∀ w, requests w <+: requests (h.idle w)
  isAllowed : ∀ w, requests w <+: requests (h.isAllowed w).2
  nextFrame : ∀ block after w, requests w <+: requests (h.nextFrame block after w).2
  perform : ∀ a w, requests w <+: requests (h.perform a w)

/-! ## Frames that are asked for -/

/-- The time after which a frame is asked for. -/
def Action.fetch? : Action → Option Nat
  | .fetch _ after => some after
  | _ => none

/-- The times after which frames were asked for. -/
def fetches (l : List Action) : List Nat := l.filterMap Action.fetch?

theorem fetches_append {l l' : List Action} : fetches (l ++ l') = fetches l ++ fetches l' :=
  List.filterMap_append ..

theorem fetch?_eq_none {x : Action} (h : x.concern ≠ .input) : x.fetch? = none := by
  cases x <;> first | rfl | exact absurd rfl h

theorem fetches_eq_nil {l : List Action} (h : ∀ x ∈ l, x.concern ≠ .input) : fetches l = [] :=
  List.filterMap_eq_nil_iff.mpr fun x hx => fetch?_eq_none (h x hx)

namespace MotionTrigger

section Calls

variable {t t' : MotionTrigger} {a : Answers} {p : MotionParameters} {f : Frame} {d : Detection}
  {allow : Bool} {actions : List Action}

theorem readsOutline_fetch? : ReadsOutline Action.fetch? := by
  intro c hc x hx
  rw [← hx] at hc
  exact fetch?_eq_none (ne_of_mem_of_not_mem hc (by decide))

theorem fetches_ofScript (hook : Hook) (calls : List ScriptCall) :
    fetches (calls.map (.ofScript hook)) = [] := by
  refine fetches_eq_nil fun x hx => ?_
  obtain ⟨call, -, rfl⟩ := List.mem_map.mp hx
  cases call <;> nofun

theorem fetches_windingUp : fetches (t.windingUp a) = [] := by
  have hfired : fetches (t.fireStop a).2 = [] := fetches_ofScript ..
  rw [windingUp, fetches_append, fetches_append, hfired]
  cases t.event <;> rfl

/-- What follows from a verdict needs no other frame. -/
theorem fetches_outline (v : Verdict) : fetches (t.outline a p f d v) = [] := by
  have hfired : fetches (t.fireStart a).2 = [] := fetches_ofScript ..
  match v with
  | .muted last =>
    show fetches (if last && (p.panTilt && t.steerable) then [.turn 0.0 0.0] else []) = []
    split <;> rfl
  | .gathering _ _ | .idle | .quiet _ false => rfl
  | .motion false =>
    show fetches ((t.fireStart a).2 ++ []) = []
    rw [List.append_nil, hfired]
  | .motion true =>
    show fetches ((t.fireStart a).2 ++ .beginEvent _ _ _ :: t.steering a f d _) = []
    rw [fetches_append, hfired]
    show fetches (t.steering a f d _) = []
    unfold steering
    split
    · split <;> rfl
    · rfl
  | .quiet _ true => exact fetches_windingUp

theorem fetches_processFrame (h : t.processFrame a f allow = .ok (t', actions)) :
    fetches actions = [] := by
  obtain ⟨-, hnil⟩ | ⟨d, p, -, hread⟩ := readsOutline_fetch?.processFrame h
  · exact hnil
  · exact hread.trans (fetches_outline _)

theorem fetches_shutdown : fetches (t.shutdown a).2 = [] := by
  have hjoined : ∀ t : MotionTrigger, fetches t.joinScripts.2 = [] := by
    intro t
    show fetches (t.onStart.join.2.map (.ofScript .start) ++
      t.onStop.join.2.map (.ofScript .stop)) = []
    rw [fetches_append, fetches_ofScript, fetches_ofScript]
    rfl
  have hstopped : fetches ({ t with prerecord := .empty }.stopRecording a).2 = [] :=
    readsOutline_fetch?.stopRecording.trans fetches_windingUp
  rw [shutdown_eq, fetches_append, fetches_append, hjoined, stopped]
  split
  · rw [hstopped]
    rfl
  · rfl

end Calls

/-! ## Rounds -/

section Rounds

variable {σ : Type} {h : Host σ} {r : Running σ}

/-- Whether a run is in its warm-up, which needs more frames. -/
def lacksFrames (r : Running σ) : Bool :=
  match r.stage with
  | .going (.warmingUp seen _) => seen < r.trigger.neededFrames
  | _ => false

/-- Whether a round asks for a frame. The warm-up only heeds a stop. -/
def asks (h : Host σ) (r : Running σ) : Bool :=
  match r.stage with
  | .going (.warmingUp _ _) => lacksFrames r && !(h.control r.world).stopped
  | .going .watching => (h.control r.world).check? = some true
  | _ => false

theorem asks_warmingUp {seen : Nat} {last : Option Frame}
    (hs : r.stage = .going (.warmingUp seen last)) :
    asks h r = (decide (seen < r.trigger.neededFrames) && !(h.control r.world).stopped) := by
  unfold asks lacksFrames
  rw [hs]

theorem asks_watching (hs : r.stage = .going .watching) :
    asks h r = decide ((h.control r.world).check? = some true) := by
  unfold asks
  rw [hs]

theorem asks_of_not_going (hs : ∀ phase, r.stage ≠ .going phase) : asks h r = false := by
  unfold asks
  split
  · next hgoing => exact absurd hgoing (hs _)
  · next hgoing => exact absurd hgoing (hs _)
  · rfl

theorem lacksFrames_of_not_warmingUp (hs : ∀ seen last, r.stage ≠ .going (.warmingUp seen last)) :
    lacksFrames r = false := by
  unfold lacksFrames
  split
  · next hwarm => exact absurd hwarm (hs _ _)
  · rfl

theorem fetches_ready (t : MotionTrigger) : fetches t.ready = [] := by
  unfold ready
  split <;> rfl

theorem fetches_finishWarmUp (last : Option Frame) :
    fetches (finishWarmUp h last r).trace = fetches r.trace := by
  have hready (t : MotionTrigger) : fetches (r.trace ++ t.ready) = fetches r.trace := by
    rw [fetches_append, fetches_ready, List.append_nil]
  unfold finishWarmUp
  split
  · exact hready _
  · split
    · rfl
    · exact hready _

theorem fetches_warmUpRound (seen : Nat) (last : Option Frame) :
    fetches (warmUpRound h seen last r).trace = fetches r.trace ++
      if decide (seen < r.trigger.neededFrames) && !(h.control r.world).stopped then
        [r.trigger.lastTs] else [] := by
  unfold warmUpRound
  split
  · next henough =>
    rw [fetches_finishWarmUp, decide_eq_false (Nat.not_lt_of_le henough)]
    exact (List.append_nil _).symm
  next hmore =>
  rw [decide_eq_true (Nat.lt_of_not_le hmore)]
  split
  · next hstopped =>
    rw [hstopped]
    exact (List.append_nil _).symm
  · next hgoing =>
    rw [Bool.eq_false_iff.mpr hgoing]
    dsimp only
    split <;> exact fetches_append

theorem fetches_pace (r : Running σ) : fetches (pace h r).trace = fetches r.trace := by
  unfold pace
  split
  · rfl
  · split
    · rfl
    · exact fetches_append.trans (List.append_nil _)
    · rfl

theorem fetches_watchFrame (allow : Bool) (f : Frame) (r : Running σ) :
    fetches (watchFrame h allow f r).trace = fetches r.trace := by
  unfold watchFrame
  split
  · next step hstep =>
    rw [fetches_pace]
    show fetches (r.trace ++ step.2) = _
    rw [fetches_append, fetches_processFrame hstep, List.append_nil]
  · rfl
  · rfl

theorem fetches_watch (r : Running σ) :
    fetches (watch h r).trace = fetches r.trace ++ [r.trigger.lastTs] := by
  unfold watch
  dsimp only [Run.trigger_askSchedule]
  split
  · exact fetches_append
  · exact (fetches_watchFrame _ _ _).trans fetches_append

/-- **A round asks for a frame once, or not at all.** -/
theorem fetches_step (h : Host σ) (r : Running σ) : fetches (step h r).trace =
    fetches r.trace ++ if asks h r then [r.trigger.lastTs] else [] := by
  unfold step
  cases hs : r.stage with
  | going phase =>
    cases phase with
    | warmingUp seen last =>
      rw [asks_warmingUp hs]
      exact fetches_warmUpRound seen last
    | watching =>
      rw [asks_watching hs]
      dsimp only
      unfold Run.round
      split
      · next hcheck =>
        rw [hcheck]
        exact fetches_watch r
      · next hcheck =>
        rw [hcheck]
        exact (List.append_nil _).symm
      · next hcheck =>
        rw [hcheck]
        exact (List.append_nil _).symm
  | ending o =>
    rw [asks_of_not_going (by rw [hs]; nofun)]
    show fetches (r.trace ++ (r.trigger.shutdown _).2) = _
    rw [fetches_append, fetches_shutdown]
    rfl
  | returned o =>
    rw [asks_of_not_going (by rw [hs]; nofun)]
    exact (List.append_nil _).symm

theorem fetches_step_eq_iff : fetches (step h r).trace = fetches r.trace ↔ asks h r = false := by
  rw [fetches_step]
  cases asks h r with
  | true =>
    refine iff_of_false (fun heq => ?_) nofun
    exact List.cons_ne_nil _ _ (List.append_right_eq_self.mp heq)
  | false => exact iff_of_true (List.append_nil _) rfl

end Rounds

/-! ## Owners -/

section Owners

variable {σ : Type} {h : Host σ} {requests : σ → List Request} {r : Running σ}

theorem prefix_act (ho : h.Owned requests) (actions : List Action) :
    requests r.world <+: requests (r.act h actions).world := by
  show requests r.world <+: requests (actions.foldl (fun w a => h.perform a w) r.world)
  generalize r.world = w
  induction actions generalizing w with
  | nil => exact List.prefix_rfl
  | cons a actions ih => exact (ho.perform a w).trans (ih _)

theorem prefix_warmUpRound (ho : h.Owned requests) (seen : Nat) (last : Option Frame) :
    requests r.world <+: requests (warmUpRound h seen last r).world := by
  unfold warmUpRound
  split
  · unfold finishWarmUp
    split
    · exact prefix_act ho _
    · split
      · exact List.prefix_rfl
      · exact prefix_act ho _
  split
  · exact List.prefix_rfl
  · have hfetched := ho.nextFrame true r.trigger.lastTs r.world
    dsimp only
    split
    · exact hfetched
    · exact hfetched

theorem prefix_watchFrame (ho : h.Owned requests) (allow : Bool) (f : Frame) :
    requests r.world <+: requests (watchFrame h allow f r).world := by
  unfold watchFrame
  split
  · next step _ =>
    refine (prefix_act ho step.2).trans ?_
    unfold pace
    split
    · exact List.prefix_rfl
    · split
      · exact List.prefix_rfl
      · exact prefix_act (r := r.proceed h step) ho _
      · exact List.prefix_rfl
  · exact List.prefix_rfl
  · exact List.prefix_rfl

theorem prefix_watch (ho : h.Owned requests) :
    requests r.world <+: requests (watch h r).world := by
  have hfetched := (ho.isAllowed r.world).trans (ho.nextFrame false r.trigger.lastTs _)
  unfold watch
  dsimp only [Run.trigger_askSchedule]
  split
  · exact hfetched
  · next f _ => exact hfetched.trans (prefix_watchFrame (r := shownRun h r f) ho _ f)

/-- What was asked for in a round was asked for in every later one. -/
theorem prefix_step (ho : h.Owned requests) :
    requests r.world <+: requests (step h r).world := by
  unfold step
  split
  · exact prefix_warmUpRound ho _ _
  · unfold Run.round
    split
    · exact prefix_watch ho
    · exact List.prefix_rfl
    · exact ho.idle r.world
  · exact prefix_act ho _
  · exact List.prefix_rfl

/-! ## Stops -/

theorem asks_of_stop (ho : h.Owned requests) (hstop : .stop ∈ requests r.world) :
    asks h r = false := by
  unfold asks
  rw [ho.control]
  split
  · rw [Control.stopped_after.mpr hstop]
    exact Bool.and_false _
  · rw [Control.check?_of_stop hstop]
    rfl
  · rfl

/-- **After a stop no frame is asked for**, in any phase of a run and whatever else is asked for. -/
theorem fetches_of_stop (ho : h.Owned requests) (hstop : .stop ∈ requests r.world) (n : Nat) :
    fetches (Run.rounds (step h) n r).trace = fetches r.trace := by
  induction n generalizing r with
  | zero => rfl
  | succ n ih =>
    -- After a round the stop is still among the requests.
    exact (ih ((prefix_step ho).mem hstop)).trans (fetches_step_eq_iff.mpr (asks_of_stop ho hstop))

theorem stage_pace (r : Running σ) : (pace h r).stage = r.stage ∨
    ∃ cause, (pace h r).stage = .returned (.crashed cause) := by
  unfold pace
  split
  · exact .inr ⟨_, rfl⟩
  · split
    · exact .inl rfl
    · exact .inl rfl
    · exact .inr ⟨_, rfl⟩

/-- No round leaves a run on its way to a crash. A crash ends it at once. -/
theorem ending_step (hr : ∀ cause, r.stage ≠ .ending (.crashed cause)) (cause : Option Misuse) :
    (step h r).stage ≠ .ending (.crashed cause) := by
  cases hcall : call? h r with
  | none =>
    by_cases hstage : ∃ o, r.stage = .ending o
    · obtain ⟨o, ho⟩ := hstage
      unfold step
      rw [ho]
      nofun
    · obtain ⟨l, detector, lastTs, aside, trigger, trace, stage⟩ :=
        looks_of_call? hcall fun o ho => hstage ⟨o, ho⟩
      rcases stage with hs | ⟨phase, hs⟩ | hs | ⟨failure, hs⟩
      · exact hs ▸ hr cause
      · rw [hs]
        nofun
      · rw [hs]
        nofun
      · rw [hs]
        nofun
  | some call =>
    have hgoing := (call?_eq_some hcall).1
    rw [(step_eq_watchFrame hcall).1]
    unfold watchFrame
    split
    · next result _ =>
      obtain hs | ⟨misuse, hs⟩ := stage_pace (h := h) ((shownRun h r call.frame).proceed h result)
      · have hsame : ((shownRun h r call.frame).proceed h result).stage = .going .watching := hgoing
        rw [hs, hsame]
        nofun
      · rw [hs]
        nofun
    · nofun
    · nofun

/-- A run has returned after some more rounds, and it has not crashed. -/
def Returns (h : Host σ) (r : Running σ) (n : Nat) : Prop :=
  ∃ o, (Run.rounds (step h) n r).outcome? = some o ∧ ∀ cause, o ≠ .crashed cause

theorem returns_of_ending {o : Outcome Failure} (hs : r.stage = .ending o)
    (hr : ∀ cause, r.stage ≠ .ending (.crashed cause)) : Returns h r 1 := by
  refine ⟨o, ?_, fun cause ho => hr cause (hs.trans (congrArg _ ho))⟩
  show (step h r).outcome? = some o
  unfold step
  rw [hs]
  rfl

theorem returns_of_watching (ho : h.Owned requests) (hstop : .stop ∈ requests r.world)
    (hs : r.stage = .going .watching) : Returns h r 2 := by
  have hstep : step h r = r.goTo (.ending .completed) := by
    unfold step
    rw [hs]
    dsimp only
    unfold Run.round
    rw [ho.control, Control.check?_of_stop hstop]
  show Returns h (step h r) 1
  rw [hstep]
  exact returns_of_ending rfl nofun

theorem returns_of_warmingUp (ho : h.Owned requests) (hstop : .stop ∈ requests r.world)
    {seen : Nat} {last : Option Frame} (hs : r.stage = .going (.warmingUp seen last)) :
    ∃ n ≤ 3, Returns h r n := by
  have hstep : step h r = warmUpRound h seen last r := by
    unfold step
    rw [hs]
  have hlater : .stop ∈ requests (step h r).world := (prefix_step ho).mem hstop
  have hcalm : ∀ cause, (step h r).stage ≠ .ending (.crashed cause) :=
    ending_step (by rw [hs]; nofun)
  -- The warm-up ends in this round. It has all its frames, or it heeds the stop.
  have hnext : (step h r).stage = .going .watching ∨ ∃ o, (step h r).stage = .ending o := by
    rw [hstep]
    unfold warmUpRound
    split
    · unfold finishWarmUp
      split
      · exact .inl rfl
      · split
        · exact .inr ⟨_, rfl⟩
        · exact .inl rfl
    · rw [ho.control, Control.stopped_after.mpr hstop, if_pos rfl]
      exact .inr ⟨_, rfl⟩
  obtain hwatching | ⟨o, hending⟩ := hnext
  · exact ⟨3, Nat.le_refl 3, returns_of_watching ho hlater hwatching⟩
  · exact ⟨2, by decide, returns_of_ending hending hcalm⟩

/-- **A run that has not crashed before a stop returns soon after it**, whatever else is asked
for. -/
theorem returns_of_stop (ho : h.Owned requests) (hstop : .stop ∈ requests r.world)
    (hr : ∀ cause, r.stage ≠ .ending (.crashed cause))
    (hcalm : ∀ cause, r.outcome? ≠ some (.crashed cause)) : ∃ n ≤ 3, Returns h r n := by
  cases hs : r.stage with
  | going phase =>
    cases phase with
    | warmingUp seen last => exact returns_of_warmingUp ho hstop hs
    | watching => exact ⟨2, by decide, returns_of_watching ho hstop hs⟩
  | ending o => exact ⟨1, by decide, returns_of_ending hs hr⟩
  | returned o =>
    have hout : r.outcome? = some o := by rw [Run.outcome?, hs]
    exact ⟨0, Nat.zero_le 3, o, hout, fun cause hcause => hcalm cause (hcause ▸ hout)⟩

/-! ## Pauses -/

/-- During a pause a round asks for a frame only in the warm-up. -/
theorem asks_of_pause (ho : h.Owned requests)
    (hpause : (requests r.world).getLast? = some .pause) :
    asks h r = true ↔ lacksFrames r = true ∧ .stop ∉ requests r.world := by
  unfold asks
  rw [ho.control]
  split
  · rw [Bool.and_eq_true, Bool.not_eq_true', ← Bool.not_eq_true, Control.stopped_after]
  · next hs =>
    rw [lacksFrames_of_not_warmingUp (by rw [hs]; nofun)]
    exact iff_of_false (by simp [Control.check?_ne_of_pause hpause]) nofun
  · next hwarm _ =>
    rw [lacksFrames_of_not_warmingUp hwarm]
    exact iff_of_false nofun nofun

end Owners

/-! ## Runs -/

section Runs

variable {σ : Type} {h : Host σ} {requests : σ → List Request} {r : Running σ}

theorem ending_rounds (hr : ∀ cause, r.stage ≠ .ending (.crashed cause)) (k : Nat) :
    ∀ cause, (Run.rounds (step h) k r).stage ≠ .ending (.crashed cause) := by
  induction k generalizing r with
  | zero => exact hr
  | succ k ih => exact ih (ending_step hr)

theorem rounds_of_outcome {o : Outcome Failure} (hr : r.outcome? = some o) (n : Nat) :
    Run.rounds (step h) n r = r := by
  induction n with
  | zero => rfl
  | succ n ih => rw [Run.rounds, step_of_outcome hr, ih]

/-- Once a run has returned, it does not matter how many rounds follow. -/
theorem rounds_min {n : Nat} {o : Outcome Failure}
    (hr : (Run.rounds (step h) n r).outcome? = some o) (k : Nat) :
    Run.rounds (step h) k r = Run.rounds (step h) (min k n) r := by
  rcases Nat.le_total k n with hle | hle
  · rw [Nat.min_eq_left hle]
  · rw [Nat.min_eq_right hle, ← Nat.add_sub_cancel' hle, Run.rounds_add, rounds_of_outcome hr]

/-- A run that has crashed is not going to return. -/
theorem Returns.not_crashed {n : Nat} (hr : Returns h r n) (cause : Option Misuse) :
    r.outcome? ≠ some (.crashed cause) := by
  intro hout
  obtain ⟨o, ho, hcalm⟩ := hr
  rw [rounds_of_outcome hout, hout] at ho
  exact hcalm cause (Option.some.inj ho).symm

/-- A run that does what it is asked for, from the round after the one in which it was asked.
Between a pause and what is asked for next, no round asks for a frame. After a stop no round does
either, and the run returns. -/
structure Obeys (h : Host σ) (requests : σ → List Request) (start : Running σ) : Prop where
  pauses : ∀ k, (requests (Run.rounds (step h) k start).world).getLast? = some .pause →
    fetches (Run.rounds (step h) (k + 1) start).trace = fetches (Run.rounds (step h) k start).trace
  stops : ∀ k, .stop ∈ requests (Run.rounds (step h) k start).world → ∀ n,
    fetches (Run.rounds (step h) (k + n) start).trace = fetches (Run.rounds (step h) k start).trace
  returns : ∀ k, .stop ∈ requests (Run.rounds (step h) k start).world →
    ∃ n, Returns h (Run.rounds (step h) k start) n

/-- **What a run does about requests.** After a stop no frame is asked for any more, and within
three rounds the run has returned, unless it had crashed. During a pause no frame is asked for,
unless the warm-up needs one and there was no stop. So a run obeys unless it is paused in its
warm-up, or crashes in the very round in which it is asked to stop. -/
theorem obeys_iff (ho : h.Owned requests) (t : MotionTrigger) (world : σ) :
    let run k := Run.rounds (step h) k (startRun h t world)
    (∀ k, .stop ∈ requests (run k).world →
      ∀ n, fetches (run (k + n)).trace = fetches (run k).trace) ∧
    (∀ k, .stop ∈ requests (run k).world →
      ((∃ n ≤ 3, Returns h (run k) n) ↔ ∀ cause, (run k).outcome? ≠ some (.crashed cause))) ∧
    (∀ k, (requests (run k).world).getLast? = some .pause →
      (fetches (run (k + 1)).trace = fetches (run k).trace ↔
        (lacksFrames (run k) = true → .stop ∈ requests (run k).world))) ∧
    (Obeys h requests (startRun h t world) ↔
      (∀ k, (requests (run k).world).getLast? = some .pause → lacksFrames (run k) = true →
        .stop ∈ requests (run k).world) ∧
      ∀ k, .stop ∈ requests (run k).world →
        ∀ cause, (run k).outcome? ≠ some (.crashed cause)) := by
  intro run
  have hending : ∀ k cause, (run k).stage ≠ .ending (.crashed cause) := ending_rounds nofun
  have hadd : ∀ k n, run (k + n) = Run.rounds (step h) n (run k) := fun k n =>
    Run.rounds_add (step h) k n _
  have hstops : ∀ k, .stop ∈ requests (run k).world →
      ∀ n, fetches (run (k + n)).trace = fetches (run k).trace := by
    intro k hstop n
    rw [hadd]
    exact fetches_of_stop ho hstop n
  have hreturns : ∀ k, .stop ∈ requests (run k).world →
      ((∃ n ≤ 3, Returns h (run k) n) ↔
        ∀ cause, (run k).outcome? ≠ some (.crashed cause)) := fun k hstop =>
    ⟨fun ⟨_, _, hr⟩ => hr.not_crashed, returns_of_stop ho hstop (hending k)⟩
  have hpauses : ∀ k, (requests (run k).world).getLast? = some .pause →
      (fetches (run (k + 1)).trace = fetches (run k).trace ↔
        (lacksFrames (run k) = true → .stop ∈ requests (run k).world)) := by
    intro k hpause
    rw [hadd]
    show fetches (step h (run k)).trace = _ ↔ _
    rw [fetches_step_eq_iff, ← Bool.not_eq_true, asks_of_pause ho hpause, not_and_not_right]
  refine ⟨hstops, hreturns, hpauses, ?_⟩
  constructor
  · intro hobeys
    refine ⟨fun k hpause => (hpauses k hpause).mp (hobeys.pauses k hpause), fun k hstop => ?_⟩
    obtain ⟨n, hr⟩ := hobeys.returns k hstop
    exact hr.not_crashed
  · rintro ⟨hwarm, hcalm⟩
    refine ⟨fun k hpause => (hpauses k hpause).mpr (hwarm k hpause), hstops, fun k hstop => ?_⟩
    obtain ⟨n, -, hr⟩ := (hreturns k hstop).mpr (hcalm k hstop)
    exact ⟨n, hr⟩

/-- Surroundings with an owner who asks for something whenever a frame is asked for and whenever
the trigger is paused. They hold what was asked for so far, and what is going to be. -/
def attended : Host (List Request × List (List Request)) where
  control w := .after w.1
  idle w := (w.1 ++ w.2.headD [], w.2.tail)
  isAllowed w := (true, w)
  nextFrame _ after w := (some (blackFrame (after + 1)), w.1 ++ w.2.headD [], w.2.tail)
  nextSamples _ w := (.ok [], w)
  answers _ := reel.answers []
  perform _ w := w

theorem owned_attended : attended.Owned Prod.fst where
  control _ := rfl
  idle _ := List.prefix_append ..
  isAllowed _ := List.prefix_rfl
  nextFrame _ _ _ := List.prefix_append ..
  perform _ _ := List.prefix_rfl

/-- A run is paused after its warm-up, goes on later and is then stopped. It obeys. -/
theorem obeys_attended :
    let start := startRun attended hasty ([], [[], [.pause], [], [.resume], [.stop]])
    let run k := Run.rounds (step attended) k start
    (run 3).world.1 = [.pause] ∧ fetches (run 5).trace = fetches (run 3).trace ∧
      (run 8).world.1 = [.pause, .resume, .stop] ∧ fetches (run 8).trace = [0, 1, 2] ∧
      Obeys attended Prod.fst start := by
  intro start run
  have hsame : ∀ k, run k = run (min k 8) :=
    rounds_min (show (run 8).outcome? = some .completed by decide)
  have hpauses : ∀ k ≤ 8, (run k).world.1.getLast? = some .pause → lacksFrames (run k) = true →
      .stop ∈ (run k).world.1 := by decide
  have houtcome : ∀ k ≤ 8, (run k).outcome? = none ∨ (run k).outcome? = some .completed := by
    decide
  obtain ⟨-, -, -, hiff⟩ := obeys_iff owned_attended hasty
    ([], [[], [.pause], [], [.resume], [.stop]])
  refine ⟨by decide, by decide, by decide, by decide, hiff.mpr ⟨?_, ?_⟩⟩
  · intro k
    show (run k).world.1.getLast? = _ → lacksFrames (run k) = _ → _ ∈ (run k).world.1
    rw [hsame]
    exact hpauses _ (Nat.min_le_right k 8)
  · intro k _ cause
    show (run k).outcome? ≠ _
    rw [hsame]
    obtain hnone | hcompleted := houtcome _ (Nat.min_le_right k 8)
    · rw [hnone]
      nofun
    · rw [hcompleted]
      nofun

/-- What is asked for by a camera with a reel: to stop at its end. -/
def stopAtEnd (left : List Frame) : List Request := if left.isEmpty then [.stop] else []

theorem owned_limitedReel (rate : Float) : (limitedReel rate []).Owned stopAtEnd where
  control left := by cases left <;> rfl
  idle _ := List.prefix_rfl
  isAllowed _ := List.prefix_rfl
  nextFrame _ _ left := by
    cases left with
    | nil => exact List.prefix_rfl
    | cons f left => exact List.nil_prefix
  perform _ _ := List.prefix_rfl

/-- A run that is paused in its warm-up asks for one more frame. A run that crashes while it waits
does not return after a stop. -/
theorem disobedient_runs :
    attended.Owned Prod.fst ∧
      ¬Obeys attended Prod.fst (startRun attended { hasty with warmUp := 2 } ([], [[.pause]])) ∧
    (limitedReel 1e-20 []).Owned stopAtEnd ∧
      ¬Obeys (limitedReel 1e-20 []) stopAtEnd
        (startRun (limitedReel 1e-20 []) hasty [blackFrame 1, blackFrame 2]) := by
  refine ⟨owned_attended, fun hobeys => ?_, owned_limitedReel _, fun hobeys => ?_⟩
  · exact absurd (hobeys.pauses 1 (by decide)) (by decide)
  · obtain ⟨n, hr⟩ := hobeys.returns 3 (by decide)
    exact hr.not_crashed none (by decide)

end Runs

end MotionTrigger

end MotionWatch
