import MotionWatch.Proofs.Trigger.Reaction

/-!
# What is read off a call

The essential actions of a call leave out the scripts and the motor of the camera. A reading of
these has to look at all actions, but most of them are records, which it does not see.

* `outline`: what follows from a verdict, apart from records, the board and the targets.
* `ReadsOutline`: a reading that sees nothing else. `ReadsOutline.processFrame`: it can be made of
  the outline.
-/

namespace MotionWatch.MotionTrigger

variable {t t' : MotionTrigger} {a : Answers} {p : MotionParameters} {f : Frame} {d : Detection}
  {allow : Bool} {actions : List Action}

/-- What is done when a recording is stopped, apart from records and targets. -/
def windingUp (t : MotionTrigger) (a : Answers) : List Action :=
  t.event.toList.map .endEvent ++ (t.fireStop a).2 ++ [.setMotion false]

/-- What follows from a verdict, apart from records, the board and the targets. -/
def outline (t : MotionTrigger) (a : Answers) (p : MotionParameters) (f : Frame) (d : Detection) :
    Verdict → List Action
  | .muted last => if last && (p.panTilt && t.steerable) then [.turn 0.0 0.0] else []
  | .motion starts =>
    [.setMotion true, .notify t.source] ++ (t.fireStart a).2 ++
      if starts then
        .beginEvent t.id (if d.triggered then .motion else .audio) "motion start" ::
          t.steering a f d (p.panTilt && t.steerable)
      else []
  | .quiet _ true => t.windingUp a
  | _ => []

variable {β : Type} {g : Action → Option β}

/-- A reading that finds nothing in records, on the board, in the signal and in the calls of
targets. -/
def ReadsOutline (g : Action → Option β) : Prop :=
  ∀ c ∈ [Concern.log, .board, .signal, .targets], ∀ x : Action, x.concern = c → g x = none

namespace ReadsOutline

theorem say (hg : ReadsOutline g) (level : Level) (text : String) (l : List Action) :
    (t.say level text :: l).filterMap g = l.filterMap g :=
  List.filterMap_cons_none (hg .log (by decide) _ rfl)

theorem beginEvent (hg : ReadsOutline g) (panTilt : Bool) (remember : String) :
    (t.beginEvent a f d panTilt remember).2.filterMap g =
      (.beginEvent t.id (if d.triggered then .motion else .audio) "motion start" ::
        t.steering a f d panTilt).filterMap g := by
  have hremembering : (remembering f remember).filterMap g = [] := by
    unfold remembering
    split
    · rfl
    · exact List.filterMap_cons_none (hg .board (by decide) _ rfl)
  unfold MotionTrigger.beginEvent
  cases a.newEvent <;>
    simp [hg.say, List.filterMap_cons, hremembering]

theorem stopRecording (hg : ReadsOutline g) :
    (t.stopRecording a).2.filterMap g = (t.windingUp a).filterMap g := by
  have hended : (t.endEvent a).2.filterMap g = (t.event.toList.map .endEvent).filterMap g := by
    unfold endEvent
    cases t.event with
    | none => rfl
    | some id =>
      dsimp only
      split
      · rfl
      · simp [List.filterMap_cons, hg.say]
  have hstopped : ∀ n, (stopTargets n).filterMap g = [] := fun n =>
    List.filterMap_eq_nil_iff.mpr fun x hx =>
      hg .targets (by decide) x (concern_of_mem_stopTargets hx)
  show (t.say _ _ :: (t.endEvent a).2 ++ stopTargets _ ++ ((t.endEvent a).1.fireStop a).2 ++
    [Action.setMotion false]).filterMap g = _
  simp only [windingUp, List.cons_append, hg.say, List.filterMap_append, hended, hstopped,
    List.append_nil, endEvent_fst]
  rfl

/-- All that follows from a verdict reads as the outline of it. -/
theorem follow (hg : ReadsOutline g) (counters : Counters) (v : Verdict) :
    ({ t with counters }.follow a f d (p.panTilt && t.steerable) p.remember v).2.filterMap g =
      (t.outline a p f d v).filterMap g := by
  match v with
  | .muted _ | .gathering _ _ | .quiet _ false => exact hg.say ..
  | .idle => rfl
  | .motion false =>
    show (t.say _ _ :: [Action.setMotion true, .notify t.source] ++
      (t.fireStart a).2).filterMap g = _
    rw [List.cons_append, hg.say, outline, if_neg Bool.false_ne_true, List.append_nil]
  | .motion true =>
    show (t.say _ _ :: [Action.setMotion true, .notify t.source] ++ (t.fireStart a).2 ++
      (({ t with counters }.fireStart a).1.beginEvent a f d _ _).2).filterMap g = _
    rw [List.filterMap_append, hg.beginEvent, List.cons_append, List.cons_append, hg.say,
      ← List.filterMap_append]
    rfl
  | .quiet _ true =>
    show (t.say _ _ :: ({ t with counters }.stopRecording a).2).filterMap g = _
    rw [hg.say, hg.stopRecording]
    rfl

theorem countFrame (hg : ReadsOutline g) :
    (t.countFrame a p f d allow).2.filterMap g =
      (t.outline a p f d (t.judge a p d allow).2).filterMap g := by
  have hfollowed : (t.followed a p f d allow).2.filterMap g = _ := hg.follow ..
  rw [countFrame_eq]
  split
  · have hstarted : ∀ frames event, (startTargets (t.followed a p f d allow).1.targets frames
        event).filterMap g = [] := fun frames event =>
      List.filterMap_eq_nil_iff.mpr fun x hx =>
        hg .targets (by decide) x (concern_of_mem_startTargets hx)
    rw [List.filterMap_append, hstarted, List.append_nil, hfollowed]
  · exact hfollowed

/-- **What is read off a call that returns.** -/
theorem processFrame (hg : ReadsOutline g) (h : t.processFrame a f allow = .ok (t', actions)) :
    (t' = t ∧ actions.filterMap g = []) ∨
      ∃ d p, t.Counted a f allow t' actions d p ∧
        actions.filterMap g = (t.outline a p f d (t.judge a p d allow).2).filterMap g := by
  obtain ⟨hnone, heq, -⟩ | ⟨d, p, hc⟩ := processFrame_cases h
  · refine .inl ⟨heq, ?_⟩
    unfold MotionTrigger.processFrame at h
    split at h
    · cases h
    next hsized =>
    unfold examine at h
    split at h
    · cases h
    · cases h
      exact hg.say ..
    · next hp => simp [detection?, hsized, hp] at hnone
  · refine .inr ⟨d, p, hc, ?_⟩
    obtain ⟨writes, hw⟩ := hc.compared
    unfold MotionTrigger.processFrame at h
    rw [hc.sized] at h
    simp only [examine, hw, hc.read, bind, Except.bind] at h
    obtain ⟨-, rfl⟩ := Prod.mk.inj (Except.ok.inj h)
    have hwrites : (writes.map Action.publish).filterMap g = [] := by
      refine List.filterMap_eq_nil_iff.mpr fun x hx => ?_
      obtain ⟨w, -, rfl⟩ := List.mem_map.mp hx
      exact hg .board (by decide) _ rfl
    rw [List.filterMap_append, hwrites, List.nil_append,
      List.filterMap_cons_none (hg .signal (by decide) _ rfl), hg.countFrame]
    rfl

end ReadsOutline

end MotionWatch.MotionTrigger
