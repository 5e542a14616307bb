import MotionWatch.Proofs.Detection.Overload
import MotionWatch.Proofs.Trigger.HandOver
import MotionWatch.Proofs.Worker.Rate

/-!
# What can crash a motion trigger

A motion trigger can always read its parameters, whatever an administrator writes. Still there are
frames that are too large for it, and the wait for the next frame can fail, because there are rates
without a period.

* `processFrame_eq_crashed_iff`: at which frames a trigger stops the program.
* `Fatal`: something stops the program in a round, a frame or the wait for the next one.
  `fatal_iff_of_call?`: what that is.
* `Fate`: whether a run has crashed. `fate_step`: a round crashes a run exactly if something in it
  is fatal. `fate_rounds`: so that decides about a whole run.
* `crashed_iff`: which runs crash.
-/

namespace MotionWatch

/-- **At which frames a trigger stops the program.** -/
theorem MotionTrigger.processFrame_eq_crashed_iff {t : MotionTrigger} {a : Answers} {f : Frame}
    {allow : Bool} {cause : Option Misuse} (hs : Complete a.params) (ht : t.detector.Genuine) :
    t.processFrame a f allow = .error (.crashed cause) ↔
      cause = none ∧ t.detector.Overwhelmed a.params f := by
  cases hresized : t.resized? f with
  | some r =>
    unfold processFrame
    rw [hresized]
    refine iff_of_false nofun ?_
    rintro ⟨-, hover⟩
    have hnone : t.resized? f = none := by
      cases hover with
      | uncounted unlearned _ =>
        unfold resized? MotionDetector.dim
        rw [unlearned]
        rfl
      | cutOff learned same _ _ _ _ _ | stopped learned same _ _ _ =>
        exact (resized?_eq_none_iff (MotionDetector.dim_of_reference learned)).mpr same
    rw [hresized] at hnone
    cases hnone
  | none =>
    have hsize : ∀ prev, t.detector.reference = some prev → f.dim = prev.dim := fun prev hprev =>
      (resized?_eq_none_iff (MotionDetector.dim_of_reference hprev)).mp hresized
    rw [← MotionDetector.process_eq_crashed_iff hs ht hsize]
    obtain ⟨p, hp⟩ := MotionParameters.exists_read hs
    unfold processFrame examine
    rw [hresized, hp]
    cases t.detector.process a.params f with
    | ok result => exact iff_of_false nofun nofun
    | error e =>
      cases e with
      | failed e => exact iff_of_false nofun nofun
      | crashed e =>
        simp [Except.mapError]

namespace MotionTrigger

/-! ## Rounds -/

section Rounds

variable {σ : Type} {h : Host σ} {r : Running σ} {call : Call}

/-- The rate that a round waits by, if it processes a frame. -/
def rate? (h : Host σ) (r : Running σ) : Option Float :=
  (call? h r).bind fun call =>
    let shown := shownRun h r call.frame
    match shown.trigger.processFrame call.answers call.frame call.allow with
    | .ok step =>
      ((h.answers (shown.proceed h step).world).params.getDouble ParameterName.maxFps).toOption
    | .error _ => none

/-- What stops the program in a round. -/
inductive Fatal (h : Host σ) (r : Running σ) : Prop
  /-- A frame does. -/
  | frame {call : Call} (called : call? h r = some call)
    (overwhelmed : r.trigger.detector.Overwhelmed call.answers.params call.frame)
  /-- The wait for the next frame does, because no period belongs to the rate. -/
  | wait {rate : Float} (waits : rate? h r = some rate) (positive : 0.0 < rate)
    (low : rate ≤ lowestRate)

/-- Without a frame nothing is fatal. -/
theorem not_fatal_of_call? (hcall : call? h r = none) : ¬Fatal h r := by
  intro hfatal
  cases hfatal with
  | frame called _ =>
    rw [hcall] at called
    cases called
  | wait waits _ _ =>
    rw [rate?, hcall] at waits
    cases waits

/-- What is fatal in a round that processes a frame. -/
theorem fatal_iff_of_call? (hcall : call? h r = some call) :
    Fatal h r ↔ r.trigger.detector.Overwhelmed call.answers.params call.frame ∨
      ∃ rate, rate? h r = some rate ∧ 0.0 < rate ∧ rate ≤ lowestRate := by
  constructor
  · intro hfatal
    cases hfatal with
    | frame called overwhelmed =>
      obtain rfl := Option.some.inj (hcall.symm.trans called)
      exact .inl overwhelmed
    | wait waits positive low => exact .inr ⟨_, waits, positive, low⟩
  · rintro (overwhelmed | ⟨rate, waits, positive, low⟩)
    · exact .frame hcall overwhelmed
    · exact .wait waits positive low

/-- The rate is read when the round is through with the frame. -/
theorem rate?_of_ok (hcall : call? h r = some call) {result : MotionTrigger × List Action}
    (hp : (shownRun h r call.frame).trigger.processFrame call.answers call.frame call.allow =
      .ok result) :
    rate? h r = ((h.answers ((shownRun h r call.frame).proceed h result).world).params.getDouble
      ParameterName.maxFps).toOption := by
  rw [rate?, hcall, Option.bind_some]
  dsimp only
  rw [hp]

theorem rate?_of_error (hcall : call? h r = some call) {e : Fault Resized}
    (hp : (shownRun h r call.frame).trigger.processFrame call.answers call.frame call.allow =
      .error e) : rate? h r = none := by
  rw [rate?, hcall, Option.bind_some]
  dsimp only
  rw [hp]

/-- No crash is the end of a run, nor is it going to be. -/
structure Calm (r : Running σ) : Prop where
  ending : ∀ cause, r.stage ≠ .ending (.crashed cause)
  returned : ∀ cause, r.stage ≠ .returned (.crashed cause)

theorem calm_going {phase : Phase} (hs : r.stage = .going phase) : Calm r := by
  constructor <;> (rw [hs]; nofun)

theorem calm_failed (cause : Failure) : Calm (r.goTo (.ending (.failed cause))) := ⟨nofun, nofun⟩

/-- Looking around is no reason to crash. -/
theorem Looks.calm {r' : Running σ} (hl : Looks r r') (hr : Calm r) : Calm r' := by
  obtain ⟨l, detector, lastTs, aside, trigger, trace, stage⟩ := hl
  rcases stage with hs | ⟨phase, hs⟩ | hs | ⟨cause, hs⟩
  · exact ⟨fun cause => hs ▸ hr.ending cause, fun cause => hs ▸ hr.returned cause⟩
  · exact calm_going hs
  · constructor <;> (rw [hs]; nofun)
  · constructor <;> (rw [hs]; nofun)

/-- A round without a frame is no reason to crash. -/
theorem calm_of_call? (hcall : call? h r = none) (hr : Calm r) : Calm (step h r) := by
  by_cases hstage : ∃ o, r.stage = .ending o
  · obtain ⟨o, ho⟩ := hstage
    unfold step
    rw [ho]
    refine ⟨nofun, fun cause hcause => hr.ending cause ?_⟩
    rw [ho, Stage.returned.inj hcause]
  · exact (looks_of_call? hcall fun o ho => hstage ⟨o, ho⟩).calm hr

/-- How a round ends that goes on from `r`: it has crashed if `fatal` holds, and else it has not. -/
inductive Fate (fatal : Prop) (r : Running σ) : Prop
  | spared (survives : ¬fatal) (calm : Calm r)
  | crashed (dies : fatal) (stage : r.stage = .returned (.crashed none))

/-- Waiting crashes a run if the rate has no period. -/
theorem fate_pace {rate : Float} (hr : Calm r)
    (hrate : (h.answers r.world).params.getDouble ParameterName.maxFps = .ok rate) :
    Fate (0.0 < rate ∧ rate ≤ lowestRate) (pace h r) := by
  have hunbounded := periodOf_eq_unbounded_iff rate
  unfold pace
  rw [hrate]
  dsimp only
  cases hp : periodOf rate with
  | unlimited => exact .spared (mt hunbounded.mpr (by rw [hp]; nofun)) hr
  | nanoseconds n =>
    exact .spared (mt hunbounded.mpr (by rw [hp]; nofun)) ⟨hr.ending, hr.returned⟩
  | unbounded => exact .crashed (hunbounded.mp hp) rfl

/-- **A round crashes a run exactly if something in it is fatal.** -/
theorem fate_step (hs : ∀ w, Complete (h.answers w).params)
    (hlearned : r.stage = .going .watching → ∃ g, r.trigger.detector.Remembers g)
    (hr : Calm r) : Fate (Fatal h r) (step h r) := by
  cases hcall : call? h r with
  | none => exact .spared (not_fatal_of_call? hcall) (calm_of_call? hcall hr)
  | some call =>
    obtain ⟨hstage, -⟩ := call?_eq_some hcall
    obtain ⟨hstep, hanswers⟩ := step_eq_watchFrame hcall
    have hgenuine : (shownRun h r call.frame).trigger.detector.Genuine :=
      fun _ _ => hlearned hstage
    have hover {cause : Option Misuse} :
        (shownRun h r call.frame).trigger.processFrame call.answers call.frame call.allow =
            .error (.crashed cause) ↔
          cause = none ∧ r.trigger.detector.Overwhelmed call.answers.params call.frame :=
      processFrame_eq_crashed_iff (hanswers ▸ hs _) hgenuine
    rw [hstep, fatal_iff_of_call? hcall]
    unfold watchFrame
    rw [hanswers]
    cases hp : (shownRun h r call.frame).trigger.processFrame call.answers call.frame
        call.allow with
    | ok result =>
      obtain ⟨rate, hrate⟩ := (hs ((shownRun h r call.frame).proceed h result).world).maxFps
      have hwaits : rate? h r = some rate := by
        rw [rate?_of_ok hcall hp, hrate]
        rfl
      have hfits : ¬r.trigger.detector.Overwhelmed call.answers.params call.frame := by
        intro overwhelmed
        cases hp.symm.trans (hover.mpr ⟨rfl, overwhelmed⟩)
      rw [or_iff_right hfits, hwaits]
      simp only [Option.some.injEq, exists_eq_left']
      exact fate_pace (calm_going hstage) hrate
    | error e =>
      have hwaits : ¬∃ rate, rate? h r = some rate ∧ 0.0 < rate ∧ rate ≤ lowestRate := by
        rw [rate?_of_error hcall hp]
        rintro ⟨rate, hrate, -⟩
        cases hrate
      rw [or_iff_left hwaits]
      cases e with
      | failed resized =>
        refine .spared (fun overwhelmed => ?_) (calm_failed _)
        cases hp.symm.trans (hover.mpr ⟨rfl, overwhelmed⟩)
      | crashed cause =>
        obtain ⟨rfl, overwhelmed⟩ := hover.mp hp
        exact .crashed overwhelmed rfl

/-- **A run has crashed exactly if something in one of its rounds was fatal.** -/
theorem fate_rounds (hs : ∀ w, Complete (h.answers w).params) (t : MotionTrigger) (world : σ)
    (k : Nat) : Fate (∃ i < k, Fatal h (Run.rounds (step h) i (startRun h t world)))
      (Run.rounds (step h) k (startRun h t world)) := by
  induction k with
  | zero => exact .spared (fun ⟨i, hi, _⟩ => absurd hi (Nat.not_lt_zero i)) (calm_going rfl)
  | succ k ih =>
    rw [Run.rounds_add (step h) k 1 (startRun h t world)]
    change Fate _ (step h (Run.rounds (step h) k (startRun h t world)))
    cases ih with
    | spared survives calm =>
      have hone : (∃ i < k + 1, Fatal h (Run.rounds (step h) i (startRun h t world))) ↔
          Fatal h (Run.rounds (step h) k (startRun h t world)) := by
        constructor
        · rintro ⟨i, hi, hfatal⟩
          rcases Nat.lt_succ_iff_lt_or_eq.mp hi with hlt | rfl
          · exact absurd ⟨i, hlt, hfatal⟩ survives
          · exact hfatal
        · exact fun hfatal => ⟨k, Nat.lt_succ_self k, hfatal⟩
      rw [hone]
      exact fate_step hs (remembers_of_watching h t world k) calm
    | crashed dies stage =>
      obtain ⟨i, hi, hfatal⟩ := dies
      rw [step_of_outcome (by rw [Run.outcome?, stage])]
      exact .crashed ⟨i, Nat.lt_succ_of_lt hi, hfatal⟩ stage

end Rounds

/-! ## Runs -/

/-- **Which runs crash.** The parameters come from a configuration that was accepted, and whatever
is written at any time. Then nothing that the trigger reads is of another kind than it takes it for.
But it crashes at a frame that is too large for it, or at which its plugin stops. And it crashes if
it has to wait by a rate that is positive, but not more than a round in `2 ^ 64` seconds. There is
no other way. -/
theorem crashed_iff {σ : Type} {c : TriggerConfig} {params : ParameterSet}
    (hbuild : c.buildParameters = .ok params) (h : Host σ)
    (hwritten : ∀ w, ∃ ws, (h.answers w).params = params.writeAll ws) (t : MotionTrigger)
    (world : σ) (k : Nat) :
    let start := startRun h t world
    let r := Run.rounds (step h) k start
    (∀ (t : MotionTrigger) (a : Answers) ws f allow, a.params = params.writeAll ws →
      t.detector.Genuine →
        (∀ e, t.processFrame a f allow ≠ .error (.crashed (some e))) ∧
        (t.processFrame a f allow = .error (.crashed none) ↔
          t.detector.Overwhelmed a.params f)) ∧
    (∀ e, r.outcome? ≠ some (.crashed (some e))) ∧
    (r.outcome? = some (.crashed none) ↔
      ∃ i < k, Fatal h (Run.rounds (step h) i start)) := by
  intro start r
  have hcomplete : ∀ w, Complete (h.answers w).params := by
    intro w
    obtain ⟨ws, hws⟩ := hwritten w
    rw [hws]
    exact complete_administered hbuild ws
  refine ⟨fun t a ws f allow ha ht => ?_, ?_⟩
  · have hs : Complete a.params := ha ▸ complete_administered hbuild ws
    refine ⟨fun e he => ?_, ?_⟩
    · obtain ⟨hnone, -⟩ := (processFrame_eq_crashed_iff hs ht).mp he
      cases hnone
    · exact (processFrame_eq_crashed_iff hs ht).trans (and_iff_right rfl)
  cases fate_rounds hcomplete t world k with
  | spared survives calm =>
    have hcrashed : ∀ cause, r.outcome? ≠ some (.crashed cause) := by
      intro cause hout
      unfold Run.outcome? at hout
      split at hout
      · next o ho => exact calm.returned cause (ho.trans (congrArg _ (Option.some.inj hout)))
      · cases hout
    exact ⟨fun e => hcrashed _, iff_of_false (hcrashed _) survives⟩
  | crashed dies stage =>
    have hout : r.outcome? = some (.crashed none) := by rw [Run.outcome?, stage]
    refine ⟨fun e he => ?_, iff_of_true hout dies⟩
    rw [hout] at he
    cases he

/-- A configuration with a limit to the rate. -/
def limited (rate : Float) : TriggerConfig :=
  { TriggerConfig.standard with parameters := .ofList [(ParameterName.maxFps, .double rate)] }

/-- The parameters that it describes. -/
def limitedParameters (rate : Float) : ParameterSet :=
  (motionDefaults.applyOverrides [(ParameterName.maxFps, .double rate)]).1

/-- Surroundings in which the camera shows the frames of a list, and an administrator writes all
that is to be written before the last frame. -/
def limitedReel (rate : Float) (ws : List ParameterSet.Write) : Host (List Frame) :=
  { reel with
    answers left :=
      { reel.answers left with
        params := (limitedParameters rate).writeAll (if left.isEmpty then ws else []) } }

/-- A run goes on at ten frames per second. Then the rate is set so low that the run crashes. -/
theorem crashed_iff_limitedReel :
    let h := limitedReel 10.0 [.text ParameterName.maxFps "1e-20"]
    let start := startRun h hasty [blackFrame 1, blackFrame 2, blackFrame 3]
    (limited 10.0).buildParameters = .ok (limitedParameters 10.0) ∧
      (Run.rounds (step h) 3 start).outcome? = none ∧
      (Run.rounds (step h) 4 start).outcome? = some (.crashed none) ∧
      ∃ i < 4, Fatal h (Run.rounds (step h) i start) := by
  intro h start
  have hbuild : (limited 10.0).buildParameters = .ok (limitedParameters 10.0) := rfl
  have hcrash : (Run.rounds (step h) 4 start).outcome? = some (.crashed none) := by decide
  obtain ⟨-, -, hiff⟩ := crashed_iff hbuild h (fun _ => ⟨_, rfl⟩) hasty
    [blackFrame 1, blackFrame 2, blackFrame 3] 4
  exact ⟨hbuild, by decide, hcrash, hiff.mp hcrash⟩

/-- A configuration that is accepted crashes a run at its first frame after the warm-up. -/
theorem crashes_while_waiting :
    (limited 1e-20).buildParameters = .ok (limitedParameters 1e-20) ∧
      Frame.create 2 2 2 .rgb (List.replicate 12 0) = .ok (blackFrame 2) ∧
      (Run.rounds (step (limitedReel 1e-20 [])) 3
        (startRun (limitedReel 1e-20 []) hasty [blackFrame 1, blackFrame 2])).outcome? =
        some (.crashed none) :=
  ⟨rfl, rfl, by decide⟩

end MotionTrigger

end MotionWatch
