import MotionWatch.Proofs.Trigger.HandOver
import MotionWatch.Proofs.Trigger.Launches

/-!
# The instances of scripts

A motion trigger starts scripts that run beside it. Whatever becomes of an attempt, and however an
instance ends, it is joined once, and before the next one is attempted.

* `ScriptEvent`: an attempt to start a script, or the join of an instance.
* `InTurn`: events of which each is possible after the ones before it. `InTurn.attempts_eq`: these
  are attempts, and joins of the instances that were launched.
* `Serves`: what happens to a hook. `serves_fire`, `serves_join`, `serves_processFrame`,
  `serves_shutdown`: by the hook itself, and by the calls of a trigger.
* `scriptEvents`: the events of a run. `serves_step`: the ones of a round; `serves_rounds`: so it
  is with all of them.
* `instances_of_run`: what becomes of the instances in a run.
-/

namespace MotionWatch

/-- What happens to the instances of a script. -/
inductive ScriptEvent where
  | attempted (launch : Launch)
  | joined
  deriving DecidableEq, Repr

namespace ScriptEvent

/-- Whether it is an attempt. -/
def isAttempt : ScriptEvent → Bool
  | attempted _ => true
  | joined => false

/-- Whether there is a new instance. -/
def isLaunch : ScriptEvent → Bool
  | attempted (.running _) => true
  | _ => false

/-- The instance that is to be joined after an event. A script is only attempted when there is no
such instance, and is only joined when there is one. -/
def after? : Option Bool → ScriptEvent → Option (Option Bool)
  | none, attempted (.running crashes) => some (some crashes)
  | none, attempted (.refused _) => some none
  | some _, joined => some none
  | _, _ => none

end ScriptEvent

/-- All that becomes of an attempt: an instance is joined. -/
def Launch.whole : Launch → List ScriptEvent
  | running crashes => [.attempted (.running crashes), .joined]
  | refused cause => [.attempted (.refused cause)]

/-- The number of instances. -/
def launched (l : List ScriptEvent) : Nat := l.countP ScriptEvent.isLaunch

/-- The number of joins. -/
def joins (l : List ScriptEvent) : Nat := l.count .joined

theorem launched_cons (e : ScriptEvent) (l : List ScriptEvent) :
    launched (e :: l) = launched l + if e.isLaunch then 1 else 0 := List.countP_cons

theorem joins_cons (e : ScriptEvent) (l : List ScriptEvent) :
    joins (e :: l) = joins l + if e = .joined then 1 else 0 := by
  unfold joins
  rw [List.count_cons]
  simp only [beq_iff_eq]

/-- The launch of an instance that is still to be joined. -/
def leftover (running : Option Bool) : List ScriptEvent :=
  running.toList.map fun crashes => .attempted (.running crashes)

/-- Events of which each is possible after the ones before it, and the instances that are to be
joined before and after them. -/
def InTurn (running : Option Bool) (l : List ScriptEvent) (running' : Option Bool) : Prop :=
  l.foldlM ScriptEvent.after? running = some running'

namespace InTurn

variable {x y z : Option Bool} {l l' : List ScriptEvent} {e : ScriptEvent}

theorem nil : InTurn x [] x := rfl

theorem append (h : InTurn x l y) (h' : InTurn y l' z) : InTurn x (l ++ l') z := by
  unfold InTurn at h h' ⊢
  rw [List.foldlM_append, h]
  exact h'

theorem split (h : InTurn x (l ++ l') z) : ∃ y, InTurn x l y ∧ InTurn y l' z := by
  unfold InTurn at h
  rw [List.foldlM_append] at h
  exact Option.bind_eq_some_iff.mp h

theorem cons_inv (h : InTurn x (e :: l) z) : ∃ y, e.after? x = some y ∧ InTurn y l z :=
  Option.bind_eq_some_iff.mp h

theorem of_leftover (x : Option Bool) : InTurn none (leftover x) x := by
  cases x <;> rfl

/-- Nothing is attempted while there is an instance. -/
theorem attempted_inv {launch : Launch} (h : InTurn x (.attempted launch :: l) z) : x = none := by
  obtain ⟨y, hy, -⟩ := h.cons_inv
  cases x with
  | none => rfl
  | some crashes => cases hy

/-- **Such events are attempts, and joins of the instances that were launched.** -/
theorem attempts_eq (h : InTurn x l y) :
    ∃ attempts : List Launch,
      leftover x ++ l = attempts.flatMap Launch.whole ++ leftover y := by
  induction l generalizing x with
  | nil =>
    obtain rfl : x = y := Option.some.inj h
    exact ⟨[], List.append_nil _⟩
  | cons e l ih =>
    obtain ⟨x', hx', hrest⟩ := h.cons_inv
    obtain ⟨attempts, hattempts⟩ := ih hrest
    match x, e with
    | none, .attempted (.running crashes) =>
      obtain rfl := Option.some.inj hx'
      exact ⟨attempts, hattempts⟩
    | none, .attempted (.refused cause) =>
      obtain rfl := Option.some.inj hx'
      refine ⟨.refused cause :: attempts, ?_⟩
      exact congrArg (ScriptEvent.attempted (.refused cause) :: ·) hattempts
    | some crashes, .joined =>
      obtain rfl := Option.some.inj hx'
      refine ⟨.running crashes :: attempts, ?_⟩
      exact congrArg (ScriptEvent.attempted (.running crashes) :: .joined :: ·) hattempts
    | none, .joined | some _, .attempted _ => cases hx'

/-- The instances that were not joined are those that are still to be joined. -/
theorem launched_eq (h : InTurn x l y) :
    x.toList.length + launched l = joins l + y.toList.length := by
  induction l generalizing x with
  | nil =>
    obtain rfl : x = y := Option.some.inj h
    exact (Nat.zero_add _).symm
  | cons e l ih =>
    obtain ⟨x', hx', hrest⟩ := h.cons_inv
    have hlength := ih hrest
    match x, e with
    | none, .attempted (.running crashes) =>
      obtain rfl := Option.some.inj hx'
      rw [launched_cons, joins_cons]
      change 1 + launched l = _ at hlength
      show 0 + (launched l + 1) = joins l + 0 + _
      omega
    | none, .attempted (.refused cause) =>
      obtain rfl := Option.some.inj hx'
      exact hlength
    | some crashes, .joined =>
      obtain rfl := Option.some.inj hx'
      rw [launched_cons, joins_cons]
      change 0 + launched l = _ at hlength
      show 1 + (launched l + 0) = joins l + 1 + _
      omega
    | none, .joined | some _, .attempted _ => cases hx'

end InTurn

/-! ## Hooks -/

/-- What happens to a hook, whose path stays the same. Nothing is attempted if that is empty. -/
structure Serves (s : ScriptSlot) (l : List ScriptEvent) (s' : ScriptSlot) : Prop where
  inTurn : InTurn s.running l s'.running
  path : s'.path = s.path
  disabled : s.path = "" → ∀ launch, .attempted launch ∉ l

/-- What a call of a hook says about the instances, if attempts have the given outcome. -/
def ScriptCall.event? (launch : Launch) : ScriptCall → Option ScriptEvent
  | .run _ _ => some (.attempted launch)
  | .join => some .joined
  | .log _ => none

section Hooks

variable {s s' s'' : ScriptSlot} {l l' : List ScriptEvent}

theorem serves_refl (s : ScriptSlot) : Serves s [] s := ⟨.nil, rfl, nofun⟩

theorem Serves.trans (h : Serves s l s') (h' : Serves s' l' s'') : Serves s (l ++ l') s'' := by
  refine ⟨h.inTurn.append h'.inTurn, h'.path.trans h.path, fun hpath launch hmem => ?_⟩
  rcases List.mem_append.mp hmem with hmem | hmem
  · exact h.disabled hpath launch hmem
  · exact h'.disabled (h.path.trans hpath) launch hmem

theorem serves_join (s : ScriptSlot) (launch : Launch) :
    Serves s (s.join.2.filterMap (ScriptCall.event? launch)) s.join.1 := by
  obtain ⟨path, running⟩ := s
  cases running with
  | none => exact serves_refl _
  | some crashes =>
    refine ⟨?_, rfl, fun _ launch hmem => ?_⟩
    · cases crashes <;> rfl
    · cases crashes <;> cases List.mem_singleton.mp hmem

theorem running_join (s : ScriptSlot) : s.join.1.running = none := by
  obtain ⟨path, running⟩ := s
  cases running <;> rfl

/-- A script is attempted. -/
theorem serves_attempt {launch : Launch} (hrunning : s.running = none) (hpath : s.path ≠ "")
    (hs' : s' = match launch with
      | .running crashes => { s with running := some crashes }
      | .refused _ => s) : Serves s [.attempted launch] s' := by
  refine ⟨?_, ?_, fun hempty => absurd hempty hpath⟩
  · rw [hrunning, hs']
    cases launch with
    | running crashes => rfl
    | refused cause => exact congrArg some hrunning.symm
  · rw [hs']
    cases launch <;> rfl

/-- **A hook joins its last instance before it attempts the next one.** -/
theorem serves_fire (s : ScriptSlot) (arguments : String) (launch : Launch) :
    Serves s ((s.fire arguments launch).2.filterMap (ScriptCall.event? launch))
      (s.fire arguments launch).1 := by
  unfold ScriptSlot.fire
  split
  · exact serves_refl s
  · next hpath =>
    have hpath : s.join.1.path ≠ "" := by
      rw [MotionTrigger.path_join]
      simpa using hpath
    have hjoined := serves_join s launch
    dsimp only
    cases launch with
    | running crashes =>
      rw [List.filterMap_append]
      exact hjoined.trans (serves_attempt (running_join s) hpath rfl)
    | refused cause =>
      rw [List.filterMap_append, List.filterMap_append]
      exact (hjoined.trans (serves_attempt (running_join s) hpath rfl)).trans (serves_refl _)

end Hooks

/-! ## Calls -/

/-- What an action says about the instances of a script, by the answers that it was decided by. -/
def Action.scriptEvent? (a : Answers) (hook : Hook) : Action → Option ScriptEvent
  | .runScript other _ _ => if other = hook then some (.attempted (a.launch hook)) else none
  | .joinScript other => if other = hook then some .joined else none
  | _ => none

/-- The events of a script among actions. -/
def eventsOf (a : Answers) (hook : Hook) (l : List Action) : List ScriptEvent :=
  l.filterMap (Action.scriptEvent? a hook)

/-- Whether an action attempts to run a script, or joins an instance. -/
def Action.attempts? (hook : Hook) : Action → Option Bool
  | .runScript other _ _ => if other = hook then some true else none
  | .joinScript other => if other = hook then some false else none
  | _ => none

theorem isAttempt_eventsOf (a : Answers) (hook : Hook) (l : List Action) :
    (eventsOf a hook l).map ScriptEvent.isAttempt = l.filterMap (Action.attempts? hook) := by
  unfold eventsOf
  rw [List.map_filterMap]
  congr 1
  funext x
  cases x with
  | runScript other path arguments =>
    by_cases heq : other = hook <;> simp [Action.scriptEvent?, Action.attempts?, heq,
      ScriptEvent.isAttempt]
  | joinScript other =>
    by_cases heq : other = hook <;> simp [Action.scriptEvent?, Action.attempts?, heq,
      ScriptEvent.isAttempt]
  | _ => rfl

namespace MotionTrigger

variable {t t' : MotionTrigger} {a : Answers} {p : MotionParameters} {f : Frame} {d : Detection}
  {allow : Bool} {l l' actions : List Action} {hook other : Hook}

/-- The hook of a trigger for one of its scripts. -/
def slot (t : MotionTrigger) : Hook → ScriptSlot
  | .start => t.onStart
  | .stop => t.onStop

theorem eventsOf_append : eventsOf a hook (l ++ l') = eventsOf a hook l ++ eventsOf a hook l' :=
  List.filterMap_append

/-- What is not about scripts is no event of them. -/
theorem scriptEvent?_eq_none {x : Action} (h : x.concern ≠ .scripts) :
    x.scriptEvent? a hook = none := by
  cases x <;> first | rfl | exact absurd rfl h

theorem readsOutline_scriptEvent? (a : Answers) (hook : Hook) :
    ReadsOutline (Action.scriptEvent? a hook) := by
  intro c hc x hx
  rw [← hx] at hc
  exact scriptEvent?_eq_none (ne_of_mem_of_not_mem hc (by decide))

theorem eventsOf_aside (h : Aside l) : eventsOf a hook l = [] :=
  h.filterMap_eq_nil (fun _ hx => scriptEvent?_eq_none (by rw [hx]; decide))
    fun _ hx => scriptEvent?_eq_none (by rw [hx]; decide)

/-- The calls of a hook are events of its own script only. -/
theorem eventsOf_ofScript (calls : List ScriptCall) :
    eventsOf a hook (calls.map (.ofScript other)) =
      if other = hook then calls.filterMap (ScriptCall.event? (a.launch hook)) else [] := by
  unfold eventsOf
  rw [List.filterMap_map]
  split
  · next heq =>
    congr 1
    funext call
    cases call with
    | run path arguments => exact if_pos heq
    | join => exact if_pos heq
    | log record => rfl
  · next hne =>
    refine List.filterMap_eq_nil_iff.mpr fun call _ => ?_
    cases call with
    | run path arguments => exact if_neg hne
    | join => exact if_neg hne
    | log record => rfl

theorem serves_fireStart (hook : Hook) :
    Serves (t.slot hook) (eventsOf a hook (t.fireStart a).2) ((t.fireStart a).1.slot hook) := by
  show Serves _ (eventsOf a hook ((t.onStart.fire "" (a.launch .start)).2.map (.ofScript .start))) _
  rw [eventsOf_ofScript]
  cases hook with
  | start => exact serves_fire ..
  | stop => exact serves_refl _

theorem serves_fireStop (hook : Hook) :
    Serves (t.slot hook) (eventsOf a hook (t.fireStop a).2) ((t.fireStop a).1.slot hook) := by
  show Serves _ (eventsOf a hook ((t.onStop.fire "" (a.launch .stop)).2.map (.ofScript .stop))) _
  rw [eventsOf_ofScript]
  cases hook with
  | start => exact serves_refl _
  | stop => exact serves_fire ..

theorem serves_joinScripts (a : Answers) (hook : Hook) :
    Serves (t.slot hook) (eventsOf a hook t.joinScripts.2) (t.joinScripts.1.slot hook) := by
  show Serves _ (eventsOf a hook (t.onStart.join.2.map (.ofScript .start) ++
    t.onStop.join.2.map (.ofScript .stop))) _
  rw [eventsOf_append, eventsOf_ofScript, eventsOf_ofScript]
  cases hook with
  | start => exact (serves_join ..).trans (serves_refl _)
  | stop => exact (serves_refl _).trans (serves_join ..)

theorem running_joinScripts (hook : Hook) : (t.joinScripts.1.slot hook).running = none := by
  cases hook <;> exact running_join _

theorem serves_windingUp (hook : Hook) :
    Serves (t.slot hook) (eventsOf a hook (t.windingUp a)) ((t.fireStop a).1.slot hook) := by
  have hended : eventsOf a hook (t.event.toList.map .endEvent) = [] := by
    cases t.event <;> rfl
  rw [windingUp, eventsOf_append, eventsOf_append, hended]
  exact (serves_fireStop hook).trans (serves_refl _)

theorem eventsOf_steering (panTilt : Bool) : eventsOf a hook (t.steering a f d panTilt) = [] := by
  unfold steering
  split
  · split <;> rfl
  · rfl

/-- What follows from a verdict, as far as it is about scripts. -/
theorem serves_outline (hook : Hook) (v : Verdict) :
    Serves (t.slot hook) (eventsOf a hook (t.outline a p f d v))
      ({ t with onStart := t.onStartAfter a v, onStop := t.onStopAfter a v }.slot hook) := by
  match v with
  | .muted last =>
    have hnil : eventsOf a hook (t.outline a p f d (.muted last)) = [] := by
      show eventsOf a hook (if last && (p.panTilt && t.steerable) then [.turn 0.0 0.0] else []) = []
      split <;> rfl
    rw [hnil]
    cases hook <;> exact serves_refl _
  | .gathering _ _ | .idle | .quiet _ false => cases hook <;> exact serves_refl _
  | .motion starts =>
    have hfired : eventsOf a hook (t.outline a p f d (.motion starts)) =
        eventsOf a hook (t.fireStart a).2 := by
      cases starts with
      | false =>
        show eventsOf a hook ((t.fireStart a).2 ++ []) = _
        rw [List.append_nil]
      | true =>
        show eventsOf a hook ((t.fireStart a).2 ++ .beginEvent _ _ _ :: t.steering a f d _) = _
        rw [eventsOf_append]
        exact (congrArg (_ ++ ·) (eventsOf_steering _)).trans (List.append_nil _)
    rw [hfired]
    cases hook <;> exact serves_fireStart _
  | .quiet _ true => cases hook <;> exact serves_windingUp _

/-- **A frame is served.** -/
theorem serves_processFrame (hp : t.processFrame a f allow = .ok (t', actions)) (hook : Hook) :
    Serves (t.slot hook) (eventsOf a hook actions) (t'.slot hook) := by
  obtain ⟨rfl, hnil⟩ | ⟨d, p, hc, hread⟩ := (readsOutline_scriptEvent? a hook).processFrame hp
  · rw [show eventsOf a hook actions = [] from hnil]
    exact serves_refl _
  · rw [show eventsOf a hook actions = eventsOf a hook (t.outline a p f d _) from hread, hc.left]
    have houtline := serves_outline (t := t) (a := a) (p := p) (f := f) (d := d) hook
      (t.judge a p d allow).2
    cases hook <;> exact houtline

/-- **So is the end of all.** -/
theorem serves_shutdown (a : Answers) (hook : Hook) :
    Serves (t.slot hook) (eventsOf a hook (t.shutdown a).2) ((t.shutdown a).1.slot hook) := by
  have hstopped :
      Serves (t.slot hook) (eventsOf a hook (t.stopped a).2) ((t.stopped a).1.slot hook) := by
    unfold stopped
    split
    · have hread : eventsOf a hook ({ t with prerecord := .empty }.stopRecording a).2 =
          eventsOf a hook (t.windingUp a) := (readsOutline_scriptEvent? a hook).stopRecording
      rw [hread, stopRecording_fst]
      cases hook <;> exact serves_windingUp _
    · cases hook <;> exact serves_refl _
  rw [shutdown_eq, eventsOf_append, eventsOf_append]
  exact (hstopped.trans (serves_joinScripts a hook)).trans (serves_refl _)

theorem running_shutdown (a : Answers) (hook : Hook) :
    ((t.shutdown a).1.slot hook).running = none :=
  running_joinScripts hook

/-! ## Rounds -/

section Rounds

variable {σ : Type} {h : Host σ} {r r' : Running σ}

/-- The answers that a round decides by. -/
def answersOf (h : Host σ) (r : Running σ) : Answers :=
  (call? h r).elim (h.answers r.world) Call.answers

/-- All actions of a round. -/
def newActions (h : Host σ) (r : Running σ) : List Action :=
  (step h r).trace.drop r.trace.length

/-- The events of a script in so many rounds. -/
def scriptEvents (h : Host σ) (hook : Hook) : Nat → Running σ → List ScriptEvent
  | 0, _ => []
  | k + 1, r => eventsOf (answersOf h r) hook (newActions h r) ++ scriptEvents h hook k (step h r)

theorem newActions_of_trace (htrace : (step h r).trace = r.trace ++ l) : newActions h r = l := by
  rw [newActions, htrace, List.drop_left]

theorem trace_step (h : Host σ) (r : Running σ) : (step h r).trace = r.trace ++ newActions h r := by
  have hsome : ∃ l, (step h r).trace = r.trace ++ l := by
    cases round_step h r with
    | looks l detector lastTs aside trigger trace outcome => exact ⟨l, trace⟩
    | frame a f allow before actions after asides call trace outcome => exact ⟨_, trace⟩
    | ends a trigger trace => exact ⟨_, trace⟩
  obtain ⟨l, hl⟩ := hsome
  rw [newActions_of_trace hl]
  exact hl

/-- What a round does with a frame: the trigger processes it, or it cannot. -/
theorem handled_of_call? {call : Call} (hcall : call? h r = some call) :
    (∃ actions after, Aside after ∧
      { r.trigger with lastTs := call.frame.ts }.processFrame call.answers call.frame call.allow =
        .ok ((step h r).trigger, actions) ∧
      (step h r).trace = r.trace ++ ([.fetch false r.trigger.lastTs] ++ actions ++ after)) ∨
    (step h r).trigger = { r.trigger with lastTs := call.frame.ts } ∧
      (step h r).trace = r.trace ++ [.fetch false r.trigger.lastTs] := by
  obtain ⟨hstep, hanswers⟩ := step_eq_watchFrame hcall
  rw [hstep]
  unfold watchFrame
  rw [hanswers]
  cases hp : (shownRun h r call.frame).trigger.processFrame call.answers call.frame
      call.allow with
  | ok result =>
    obtain ⟨after, hafter, htrigger, htrace, -⟩ :=
      pace_spec (h := h) ((shownRun h r call.frame).proceed h result)
    refine .inl ⟨result.2, after, hafter, ?_, ?_⟩
    · dsimp only
      rw [htrigger]
      exact hp
    · dsimp only
      rw [htrace]
      show r.trace ++ [Action.fetch false r.trigger.lastTs] ++ result.2 ++ after = _
      simp only [List.append_assoc]
  | error cause => cases cause <;> exact .inr ⟨rfl, rfl⟩

/-- **A round serves both hooks.** -/
theorem serves_step (h : Host σ) (r : Running σ) (hook : Hook) :
    Serves (r.trigger.slot hook) (eventsOf (answersOf h r) hook (newActions h r))
      ((step h r).trigger.slot hook) := by
  cases hcall : call? h r with
  | some call =>
    have hanswers : answersOf h r = call.answers := by rw [answersOf, hcall, Option.elim_some]
    rw [hanswers]
    rcases handled_of_call? hcall with ⟨actions, after, hafter, hp, htrace⟩ | ⟨htrigger, htrace⟩
    · have hserved := serves_processFrame hp hook
      rw [newActions_of_trace htrace, eventsOf_append, eventsOf_append, eventsOf_aside hafter,
        List.append_nil]
      cases hook <;> exact hserved
    · rw [newActions_of_trace htrace, htrigger]
      cases hook <;> exact serves_refl _
  | none =>
    by_cases hstage : ∃ o, r.stage = .ending o
    · obtain ⟨o, ho⟩ := hstage
      have hanswers : answersOf h r = h.answers r.world := by
        rw [answersOf, hcall, Option.elim_none]
      have hstep : step h r =
          (r.proceed h (r.trigger.shutdown (h.answers r.world))).goTo (.returned o) := by
        unfold step
        rw [ho]
      have htrace : (step h r).trace = r.trace ++ (r.trigger.shutdown (h.answers r.world)).2 := by
        rw [hstep]
        rfl
      rw [newActions_of_trace htrace, hanswers, hstep]
      exact serves_shutdown ..
    · obtain ⟨l, detector, lastTs, haside, htrigger, htrace, -⟩ :=
        looks_of_call? hcall fun o ho => hstage ⟨o, ho⟩
      rw [newActions_of_trace htrace, htrigger, eventsOf_aside haside]
      cases hook <;> exact serves_refl _

theorem serves_rounds (h : Host σ) (k : Nat) (r : Running σ) (hook : Hook) :
    Serves (r.trigger.slot hook) (scriptEvents h hook k r)
      ((Run.rounds (step h) k r).trigger.slot hook) := by
  induction k generalizing r with
  | zero => exact serves_refl _
  | succ k ih => exact (serves_step h r hook).trans (ih (step h r))

/-- No instance remains when a run has returned, unless it crashed. -/
def Joined (r : Running σ) : Prop :=
  ∀ o, r.outcome? = some o → (∀ cause, o ≠ .crashed cause) →
    ∀ hook, (r.trigger.slot hook).running = none

theorem Round.joined (hr : Round r r') (hj : Joined r) : Joined r' := by
  intro o ho hcrash hook
  cases hr with
  | looks l detector lastTs aside trigger trace outcome =>
    obtain hsame | ⟨cause, hcause⟩ := outcome
    · rw [trigger]
      have hnone := hj o (hsame.symm.trans ho) hcrash hook
      cases hook <;> exact hnone
    · exact absurd (Option.some.inj (ho.symm.trans hcause)) (hcrash cause)
  | frame a f allow before actions after asides call trace outcome =>
    obtain hnone | ⟨cause, hcause⟩ := outcome
    · rw [hnone] at ho
      cases ho
    · exact absurd (Option.some.inj (ho.symm.trans hcause)) (hcrash cause)
  | ends a trigger trace =>
    rw [trigger]
    exact running_shutdown a hook

theorem joined_rounds (t : MotionTrigger) (world : σ) (k : Nat) :
    Joined (Run.rounds (step h) k (startRun h t world)) :=
  rounds_keep (fun _ => nofun) (fun _ _ hj hr => hr.joined hj) k

/-- The events of a run are its attempts and joins, in order. -/
theorem attempts_rounds (h : Host σ) (hook : Hook) (k : Nat) (r : Running σ) :
    (Run.rounds (step h) k r).trace.filterMap (Action.attempts? hook) =
      r.trace.filterMap (Action.attempts? hook) ++
        (scriptEvents h hook k r).map ScriptEvent.isAttempt := by
  induction k generalizing r with
  | zero => exact (List.append_nil _).symm
  | succ k ih =>
    rw [scriptEvents, List.map_append, isAttempt_eventsOf, ← List.append_assoc,
      ← List.filterMap_append, ← trace_step]
    exact ih (step h r)

/-- **What becomes of the instances of scripts in a run**, whatever the outcome of attempts, and
however instances end. They are joined one by one: an instance that was launched is joined before
the next attempt, and an attempt that was refused leaves nothing to join. So at any moment at most
one instance of a script is to be joined. A script without a path is never attempted. Nothing is
left to join when the run has returned, and whenever the trigger is dropped all is joined. -/
theorem instances_of_run (h : Host σ) (t : MotionTrigger) (world : σ) (k : Nat) (hook : Hook) :
    let r := Run.rounds (step h) k (startRun h t world)
    let events := scriptEvents h hook k (startRun h t world)
    let history := leftover (t.slot hook).running ++ events
    r.trace.filterMap (Action.attempts? hook) = events.map ScriptEvent.isAttempt ∧
    (∃ attempts : List Launch,
      history = attempts.flatMap Launch.whole ++ leftover (r.trigger.slot hook).running) ∧
    (∀ before after, history = before ++ after →
      joins before ≤ launched before ∧ launched before ≤ joins before + 1) ∧
    (∀ before launch after, history = before ++ .attempted launch :: after →
      joins before = launched before) ∧
    ((t.slot hook).path = "" → ∀ path arguments, .runScript hook path arguments ∉ r.trace) ∧
    (∀ o, r.outcome? = some o → (∀ cause, o ≠ .crashed cause) →
      (r.trigger.slot hook).running = none ∧ launched history = joins history) ∧
    ∀ a, let dropped := eventsOf a hook r.trigger.joinScripts.2
      launched (history ++ dropped) = joins (history ++ dropped) := by
  intro r events history
  have hserves : Serves (t.slot hook) events (r.trigger.slot hook) :=
    serves_rounds h k (startRun h t world) hook
  have htrace : r.trace.filterMap (Action.attempts? hook) = events.map ScriptEvent.isAttempt :=
    attempts_rounds h hook k (startRun h t world)
  have hhistory : InTurn none history (r.trigger.slot hook).running :=
    (InTurn.of_leftover _).append hserves.inTurn
  refine ⟨htrace, hserves.inTurn.attempts_eq, ?_, ?_, ?_, ?_, ?_⟩
  · intro before after hsplit
    rw [hsplit] at hhistory
    obtain ⟨y, hbefore, -⟩ := hhistory.split
    have hcount : 0 + launched before = joins before + y.toList.length := hbefore.launched_eq
    have hone : y.toList.length ≤ 1 := by
      cases y with
      | none => exact Nat.zero_le 1
      | some _ => exact Nat.le_refl 1
    omega
  · intro before launch after hsplit
    rw [hsplit] at hhistory
    obtain ⟨y, hbefore, hafter⟩ := hhistory.split
    obtain rfl := hafter.attempted_inv
    have hcount : 0 + launched before = joins before + 0 := hbefore.launched_eq
    omega
  · intro hpath path arguments hmem
    have htrue : true ∈ events.map ScriptEvent.isAttempt := by
      rw [← htrace]
      exact List.mem_filterMap.mpr ⟨_, hmem, if_pos rfl⟩
    obtain ⟨e, he, hattempt⟩ := List.mem_map.mp htrue
    cases e with
    | attempted launch => exact hserves.disabled hpath launch he
    | joined => cases hattempt
  · intro o ho hcrash
    have hnone : (r.trigger.slot hook).running = none := joined_rounds t world k o ho hcrash hook
    rw [hnone] at hhistory
    have hcount : 0 + launched history = joins history + 0 := hhistory.launched_eq
    exact ⟨hnone, by omega⟩
  · intro a dropped
    have hall : InTurn none (history ++ dropped) (r.trigger.joinScripts.1.slot hook).running :=
      hhistory.append (serves_joinScripts a hook).inTurn
    rw [running_joinScripts] at hall
    have hcount : 0 + launched (history ++ dropped) = joins (history ++ dropped) + 0 :=
      hall.launched_eq
    omega

end Rounds

/-- Surroundings as in a noisy place, in which every other script cannot be run, and all others come
to a bad end. -/
def troubled : Host Nat :=
  { noisy with
    answers := fun left =>
      { noisy.answers left with
        launch := fun _ => if left % 2 = 0 then .running true else .refused "" } }

/-- A run in such surroundings, with four frames after the warm-up. -/
def troubledRun : Running Nat :=
  startRun troubled
    { create "hall" "lens" (.builtin fun _ => none) with
      onStart := .ofPath "begin", onStop := .ofPath "end", warmUp := 1 } 5

/-- The script for the start of a recording is attempted on four frames. -/
example :
    (Run.rounds (step troubled) 8 troubledRun).outcome? = some .completed ∧
      scriptEvents troubled .start 8 troubledRun =
        [.attempted (.refused ""), .attempted (.running true), .joined,
          .attempted (.refused ""), .attempted (.running true), .joined] := by
  decide

end MotionTrigger

end MotionWatch
