import MotionWatch.Proofs.Frame.Grey
import MotionWatch.Proofs.Trigger.Reaction
import MotionWatch.Trigger.MotionRun

/-!
# Runs of motion triggers

Whatever happens around a motion trigger while it runs, and however its run ends, it tidies up.

* `Ongoing`: a trigger during its run, with all that it has done so far.
* `Ongoing.processFrame`, `Ongoing.shutdown`: a call keeps that.
* `Tidy`: a run that has returned, or one that is ongoing; `tidy_rounds`: every run is tidy.
* `tidy_of_outcome`: when a run has returned, everything that was started is stopped.
-/

namespace MotionWatch.MotionTrigger

/-- A trigger with `n` targets that has done `l` and has not returned yet. -/
structure Ongoing (n : Nat) (t : MotionTrigger) (l : List Action) : Prop where
  targets : t.targets = n
  bracketed : Bracketed n t.counters.recording l
  /-- There is no event without a recording. -/
  event : t.counters.recording = false → t.event = none
  source : concerning .source l = [.startSource]

/-- A trigger with `n` targets that has done `l`, and has nothing left to do. -/
structure Finished (n : Nat) (t : MotionTrigger) (l : List Action) : Prop where
  bracketed : Bracketed n false l
  source : concerning .source l = [.startSource, .stopSource]
  recording : t.counters.recording = false
  event : t.event = none
  prerecord : t.prerecord = .empty

variable {n : Nat} {t t' : MotionTrigger} {a : Answers} {f : Frame} {allow : Bool}
  {l actions : List Action}

/-! ## Calls -/

/-- What a verdict means for the targets and for the motion flag. -/
theorem bracketed_deeds {d : Detection} {frames : List Frame} {v : Verdict}
    {recording recording' : Bool} (hturns : v.Turns recording recording')
    (h : Bracketed t.targets recording l)
    (hactions : essentials actions = .takeSignal :: t.deeds a d frames v) :
    Bracketed t.targets recording' (l ++ actions) := by
  cases hturns with
  | starts =>
    refine h.start ⟨frames, a.newEvent.toOption⟩ ?_ ?_
    · rw [hactions]
      exact concerning_targets_startTargets ..
    · rw [hactions]
      exact motionAfter_of_concerning (concerning_startTargets (by decide) ..)
  | goesOn => exact h.stay (by rw [hactions]; rfl) (by rw [hactions]; rfl)
  | stops seen =>
    refine h.stop ?_ ?_
    · rw [hactions]
      exact concerning_targets_closing
    · rw [hactions]
      exact motionAfter_closing
  | stays silent =>
    rw [deeds_of_isSilent silent] at hactions
    exact h.stay (by rw [hactions]; rfl) (by rw [hactions]; rfl)

namespace Ongoing

/-- Nothing essential is done. -/
theorem append_of_essentials (h : Ongoing n t l) (hactions : essentials actions = []) :
    Ongoing n t (l ++ actions) := by
  refine ⟨h.targets, h.bracketed.append_of_essentials hactions, h.event, ?_⟩
  rw [concerning_append, h.source, ← concerning_essentials (l := actions) rfl, hactions]
  rfl

/-- **A frame keeps everything in order.** -/
theorem processFrame (h : Ongoing n t l) (hp : t.processFrame a f allow = .ok (t', actions)) :
    Ongoing n t' (l ++ actions) := by
  obtain ⟨-, rfl, hnil⟩ | ⟨d, p, hc⟩ := processFrame_cases hp
  · exact h.append_of_essentials hnil
  have hsource : concerning .source (l ++ actions) = [.startSource] := by
    rw [concerning_append, h.source, ← concerning_essentials (l := actions) rfl, hc.done,
      concerning_cons, concerning_source_deeds]
    rfl
  have hturns := t.counters.turns (a.isActive d allow) p.limits
  have hevent := h.event
  have hbracketed := h.bracketed
  have hdone := hc.done
  rw [hc.left]
  change Verdict.Turns _ (t.judge a p d allow).1.recording (t.judge a p d allow).2 at hturns
  generalize t.judge a p d allow = r at hturns hdone
  obtain ⟨c, v⟩ := r
  generalize t.counters.recording = recording at hturns hevent hbracketed
  generalize hrec : c.recording = recording' at hturns
  refine ⟨h.targets, ?_, ?_, hsource⟩
  · show Bracketed n c.recording (l ++ actions)
    rw [hrec, ← h.targets]
    exact bracketed_deeds hturns (h.targets ▸ hbracketed) hdone
  · show c.recording = false → t.eventAfter a v = none
    rw [hrec]
    cases hturns with
    | starts | goesOn => exact fun h => nomatch h
    | stops seen => exact fun _ => rfl
    | stays silent => rwa [eventAfter_of_isSilent silent]

/-- **The end tidies up.** -/
theorem shutdown (h : Ongoing n t l) (a : Answers) :
    Finished n (t.shutdown a).1 (l ++ (t.shutdown a).2) := by
  have hdone := essentials_shutdown_snd (t := t) (a := a)
  have hbracketed := h.bracketed
  have hevent := h.event
  rw [shutdown_fst]
  refine ⟨?_, ?_, rfl, ?_, rfl⟩
  · rw [← h.targets] at hbracketed ⊢
    cases hrec : t.counters.recording with
    | false =>
      rw [hrec] at hbracketed
      refine hbracketed.stay ?_ ?_
      · rw [hdone, hrec]
        rfl
      · rw [hdone, hrec]
        rfl
    | true =>
      rw [hrec] at hbracketed
      refine hbracketed.stop ?_ ?_
      · rw [hdone, hrec, if_pos rfl, concerning_append, concerning_targets_closing]
        exact List.append_nil _
      · rw [hdone, hrec, if_pos rfl, motionAfter_append, motionAfter_closing]
        rfl
  · rw [concerning_append, h.source, ← concerning_essentials (l := (t.shutdown a).2) rfl, hdone,
      concerning_append]
    cases t.counters.recording with
    | false => rfl
    | true =>
      rw [if_pos rfl, concerning_source_closing]
      rfl
  · show (if t.counters.recording then none else t.event) = none
    split
    · rfl
    · next hrec => exact hevent (Bool.eq_false_iff.mpr hrec)

end Ongoing

/-! ## Rounds -/

section Rounds

variable {σ : Type} {h : Host σ} {r : Running σ}

/-- A run that can go on is ongoing, and one that has returned has finished, unless it crashed. -/
inductive Tidy (n : Nat) (r : Running σ) : Prop
  | going (ongoing : Ongoing n r.trigger r.trace) (stage : r.outcome? = none)
  | crashed {cause : Option Misuse} (ongoing : Ongoing n r.trigger r.trace)
    (stage : r.outcome? = some (.crashed cause))
  | returned {o : Outcome Failure} (finished : Finished n r.trigger r.trace)
    (stage : r.stage = .returned o)

theorem essentials_ready : essentials t.ready = [] := by
  unfold ready
  split <;> rfl

theorem tidy_startRun (hrecording : t.counters.recording = false) (hevent : t.event = none)
    (world : σ) : Tidy t.targets (startRun h t world) := by
  refine .going ⟨rfl, ?_, fun _ => hevent, rfl⟩ rfl
  show Bracketed t.targets t.counters.recording ([] ++ _)
  rw [hrecording]
  exact Bracketed.nil.stay rfl rfl

namespace Ongoing

/-- What has no effect on a recording keeps everything in order. -/
theorem congr (ho : Ongoing n t l) (htargets : t'.targets = t.targets)
    (hcounters : t'.counters = t.counters) (hevent : t'.event = t.event) : Ongoing n t' l := by
  refine ⟨htargets.trans ho.targets, hcounters ▸ ho.bracketed, ?_, ho.source⟩
  rw [hcounters, hevent]
  exact ho.event

/-- The frames of a warm-up are only looked at. -/
theorem warmUpRound (ho : Ongoing n r.trigger r.trace) (hstage : r.outcome? = none) (seen : Nat)
    (last : Option Frame) : Tidy n (warmUpRound h seen last r) := by
  unfold MotionTrigger.warmUpRound
  split
  · cases last with
    | none => exact .going (ho.append_of_essentials essentials_ready) rfl
    | some f =>
      unfold finishWarmUp
      dsimp only
      split
      · exact .going ho rfl
      · next detector hprime =>
        exact .going ((ho.append_of_essentials essentials_ready).congr rfl rfl rfl) rfl
  split
  · exact .going ho rfl
  have hfetch : Ongoing n r.trigger (r.fetch h true r.trigger.lastTs).2.trace :=
    ho.append_of_essentials rfl
  dsimp only
  split
  · exact .going hfetch hstage
  · exact .going (hfetch.congr rfl rfl rfl) rfl

/-- Waiting keeps everything in order. -/
theorem pace (ho : Ongoing n r.trigger r.trace) (hstage : r.outcome? = none) :
    Tidy n (pace h r) := by
  unfold MotionTrigger.pace
  split
  · exact .crashed ho rfl
  · split
    · exact .going ho hstage
    · exact .going (ho.append_of_essentials rfl) hstage
    · exact .crashed ho rfl

/-- A frame that comes while a run watches keeps everything in order. -/
theorem watchFrame (ho : Ongoing n r.trigger r.trace) (hstage : r.outcome? = none) (allow : Bool)
    (f : Frame) : Tidy n (watchFrame h allow f r) := by
  unfold MotionTrigger.watchFrame
  split
  · next step hstep =>
    have hnext : Ongoing n (r.proceed h step).trigger (r.proceed h step).trace :=
      ho.processFrame hstep
    exact hnext.pace hstage
  · exact .going ho rfl
  · exact .crashed ho rfl

theorem watch (ho : Ongoing n r.trigger r.trace) (hstage : r.outcome? = none) :
    Tidy n (watch h r) := by
  have hfetch : Ongoing n r.trigger
      ((r.askSchedule h).2.fetch h false r.trigger.lastTs).2.trace :=
    ho.append_of_essentials rfl
  unfold MotionTrigger.watch
  dsimp only
  split
  · exact .going hfetch hstage
  · next f _ =>
    have hnext : Ongoing n { r.trigger with lastTs := f.ts }
        ((r.askSchedule h).2.fetch h false r.trigger.lastTs).2.trace := hfetch.congr rfl rfl rfl
    apply watchFrame
    · exact hnext
    · exact hstage

end Ongoing

/-- A run that has returned stays as it is. -/
theorem step_of_outcome {o : Outcome Failure} (hr : r.outcome? = some o) : step h r = r := by
  unfold Run.outcome? at hr
  split at hr
  · next hs =>
    unfold step
    rw [hs]
  · cases hr

/-- **A round leaves a run tidy.** -/
theorem tidy_step (ht : Tidy n r) : Tidy n (step h r) := by
  cases ht with
  | going ho hstage =>
    unfold step
    split
    · exact ho.warmUpRound hstage _ _
    · unfold Run.round
      split
      · exact ho.watch hstage
      · exact .going ho rfl
      · exact .going ho hstage
    · exact .returned (ho.shutdown (h.answers r.world)) rfl
    · next o hr => simp [Run.outcome?, hr] at hstage
  | crashed ho hstage =>
    rw [step_of_outcome hstage]
    exact .crashed ho hstage
  | returned hf hstage =>
    rw [step_of_outcome (by rw [Run.outcome?, hstage])]
    exact .returned hf hstage

theorem tidy_rounds (ht : Tidy n r) (k : Nat) : Tidy n (Run.rounds (step h) k r) := by
  induction k generalizing r with
  | zero => exact ht
  | succ k ih => exact ih (tidy_step ht)

/-- **A run that returns has tidied up.** Its recordings are over, and every target was started
and stopped for each of them. The camera was started and stopped once. There is neither motion nor
an event any more, and no frame is kept. -/
theorem tidy_of_outcome (h : Host σ) (t : MotionTrigger) (world : σ) (k : Nat)
    (hrecording : t.counters.recording = false) (hevent : t.event = none) {o : Outcome Failure}
    (ho : (Run.rounds (step h) k (startRun h t world)).outcome? = some o)
    (hcrash : ∀ cause, o ≠ .crashed cause) :
    let r := Run.rounds (step h) k (startRun h t world)
    (∃ recordings : List Recording,
      concerning .targets r.trace = recordings.flatMap (Recording.calls t.targets) ∧
      ∀ i < t.targets, targetCalls i r.trace = recordings.flatMap fun _ => [.start, .stop]) ∧
    concerning .source r.trace = [.startSource, .stopSource] ∧
    r.trigger.counters.recording = false ∧ r.trigger.event = none ∧
    motionAfter false r.trace = false ∧ r.trigger.prerecord = .empty := by
  intro r
  have hfinished : Finished t.targets r.trigger r.trace := by
    cases tidy_rounds (tidy_startRun (h := h) hrecording hevent world) k with
    | going _ hstage =>
      rw [hstage] at ho
      cases ho
    | crashed _ hstage =>
      rw [hstage] at ho
      cases ho
      exact absurd rfl (hcrash _)
    | returned hf _ => exact hf
  obtain ⟨recordings, hcalls⟩ := hfinished.bracketed.calls_of_not_recording
  exact ⟨⟨recordings, hcalls, fun i hi => targetCalls_of_calls hcalls hi⟩, hfinished.source,
    hfinished.recording, hfinished.event, hfinished.bracketed.motion, hfinished.prerecord⟩

end Rounds

/-- Surroundings in which a signal is notified all the time. The camera has so many frames left,
and the trigger is stopped after the last one. -/
def noisy : Host Nat where
  control left := if left = 0 then Control.fresh.stop else .fresh
  idle left := left
  isAllowed left := (true, left)
  nextFrame _ _ left := (some (.flat 0 Frame.paintable_one 0), left - 1)
  nextSamples _ left := (.ok [], left)
  answers _ := ⟨motionDefaults, true, false, (0.0, 0.0), .ok 0, fun _ => .ok (),
    fun _ => .refused ""⟩
  perform _ left := left

/-- A trigger with two targets. -/
def pair : MotionTrigger :=
  { create "hall" "lens" (.builtin fun _ => none) with targets := 2, warmUp := 1 }

/-- A run in such surroundings, in which the trigger records until it is stopped. -/
def noisyRun : Running Nat := Run.rounds (step noisy) 6 (startRun noisy pair 2)

/-- The recording of the noisy run is stopped with the run. -/
theorem tidy_noisyRun :
    noisyRun.outcome? = some .completed ∧ targetCalls 1 noisyRun.trace = [.start, .stop] ∧
      (∃ recordings : List Recording,
        concerning .targets noisyRun.trace = recordings.flatMap (Recording.calls 2) ∧
        ∀ i < 2, targetCalls i noisyRun.trace = recordings.flatMap fun _ => [.start, .stop]) ∧
      concerning .source noisyRun.trace = [.startSource, .stopSource] ∧
      noisyRun.trigger.counters.recording = false ∧ noisyRun.trigger.event = none ∧
      motionAfter false noisyRun.trace = false ∧ noisyRun.trigger.prerecord = .empty := by
  have ho : noisyRun.outcome? = some .completed := by decide
  refine ⟨ho, by decide, ?_⟩
  exact tidy_of_outcome noisy pair 2 6 rfl rfl ho fun _ => nofun

end MotionWatch.MotionTrigger
