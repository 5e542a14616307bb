import Mathlib.Data.List.Infix
import MotionWatch.Proofs.Trigger.Cascade
import MotionWatch.Proofs.Trigger.HandOver

/-!
# Runs of a cascading trigger

All that others see of a cascading trigger is what it does with its targets and with its hub. In a
run these are whole recordings, and perhaps one that is not over: the targets are started, the
motion flag is raised and the subscribers are notified; later the targets are stopped and the flag
is lowered.

* `visible`: what others see. `notices`: what subscribers are told, and the flag that they find.
* `Glance`: a round in which a trigger looked for a reason to record. `stock`: the frames that are
  kept after some glances. `glances`: all glances in a run.
* `Changes`: what a glance changes. `Round`, `round_step`: what a round can do.
* `InOrder`: what others have seen, by the glances so far. `inOrder_step`: a round keeps that;
  `inOrder_rounds`: so it holds throughout a run.
* `recordings_of_run`: what a run does with the targets, the hub and the camera.
-/

namespace MotionWatch

/-! ## What others see -/

/-- What is done with the targets and the hub. -/
def visible (l : List Action) : List Action :=
  l.filter fun a => a.concern = .targets ∨ a.concern = .hub

/-- What subscribers are told, and the motion flag that they find then. At first it is `on`. -/
def notices (on : Bool) : List Action → List (String × Bool)
  | [] => []
  | a :: l => (a.subject?.map fun subject => (subject, on)).toList ++ notices (a.motion?.getD on) l

/-- Whether an action raises the motion flag. -/
def Action.raises : Action → Bool
  | .setMotion on => on
  | _ => false

section Visible

variable {l l' : List Action} {on : Bool}

@[simp] theorem visible_append : visible (l ++ l') = visible l ++ visible l' :=
  List.filter_append ..

theorem visible_eq_self (h : ∀ a ∈ l, a.concern = .targets ∨ a.concern = .hub) : visible l = l :=
  List.filter_eq_self.mpr fun a ha => by simpa using h a ha

/-- What others see is essential. -/
theorem visible_essentials : visible (essentials l) = visible l := by
  rw [visible, essentials, List.filter_filter]
  refine List.filter_congr fun a _ => ?_
  cases a <;> rfl

/-- Actions that are about something are not among those that are not. -/
theorem not_mem_of_concerning {a : Action} {c : Concern} (h : concerning c l = [])
    (ha : a.concern = c) : a ∉ l := by
  intro hmem
  exact List.filter_eq_nil_iff.mp h a hmem (by simpa using ha)

theorem concerning_visible {c : Concern} (hc : c = .targets ∨ c = .hub) :
    concerning c (visible l) = concerning c l := by
  rw [concerning, visible, List.filter_filter]
  refine List.filter_congr fun a _ => ?_
  by_cases ha : a.concern = c
  · simp [ha, hc]
  · simp [ha]

theorem targetCalls_visible {i : Nat} : targetCalls i (visible l) = targetCalls i l := by
  rw [← targetCalls_concerning, concerning_visible (.inl rfl), targetCalls_concerning]

theorem handovers_visible : handovers (visible l) = handovers l := by
  unfold handovers visible
  rw [List.filterMap_filter]
  refine congrArg (List.filterMap · l) (funext fun a => ?_)
  cases a <;> rfl

theorem motionAfter_visible : motionAfter on (visible l) = motionAfter on l := by
  rw [← motionAfter_concerning, concerning_visible (.inr rfl), motionAfter_concerning]

theorem motionAfter_cons {a : Action} :
    motionAfter on (a :: l) = motionAfter (a.motion?.getD on) l := by
  unfold motionAfter
  cases h : a.motion? with
  | none => rw [List.filterMap_cons_none h]; rfl
  | some on' => rw [List.filterMap_cons_some h]; rfl

theorem notices_append :
    notices on (l ++ l') = notices on l ++ notices (motionAfter on l) l' := by
  induction l generalizing on with
  | nil => rfl
  | cons a l ih =>
    rw [List.cons_append, notices, notices, ih, motionAfter_cons, List.append_assoc]

/-- Who is notified finds what was done with the hub before, and nothing else. -/
theorem notices_visible : notices on (visible l) = notices on l := by
  induction l generalizing on with
  | nil => rfl
  | cons a l ih =>
    by_cases ha : a.concern = .targets ∨ a.concern = .hub
    · rw [visible, List.filter_cons_of_pos (by simpa using ha), notices, notices]
      exact congrArg (_ ++ ·) ih
    · rw [visible, List.filter_cons_of_neg (by simpa using ha), notices,
        Action.subject?_eq_none fun h => ha (.inr h), motion?_eq_none fun h => ha (.inr h)]
      exact ih

end Visible

namespace CascadingTrigger

variable {t t' : CascadingTrigger} {frames : List Frame}

/-! ## Recordings -/

theorem visible_opening : visible (t.opening frames) = t.opening frames := by
  refine visible_eq_self fun a ha => ?_
  rcases List.mem_append.mp ha with h | h
  · exact .inl (concern_of_mem_startTargets h)
  · rcases List.mem_cons.mp h with rfl | h
    · exact .inr rfl
    · rw [List.mem_singleton.mp h]
      exact .inr rfl

theorem visible_closing : visible t.closing = t.closing := by
  refine visible_eq_self fun a ha => ?_
  rcases List.mem_append.mp ha with h | h
  · exact .inl (concern_of_mem_stopTargets h)
  · rw [List.mem_singleton.mp h]
    exact .inr rfl

theorem targetCalls_opening {i : Nat} (hi : i < t.targets) :
    targetCalls i (t.opening frames) = [.start] := by
  rw [opening, targetCalls_append, targetCalls_startTargets, if_pos hi]
  rfl

theorem targetCalls_closing {i : Nat} (hi : i < t.targets) : targetCalls i t.closing = [.stop] := by
  rw [closing, targetCalls_append, targetCalls_stopTargets, if_pos hi]
  rfl

theorem motionAfter_opening {on : Bool} : motionAfter on (t.opening frames) = true := by
  rw [opening, motionAfter_append]
  rfl

theorem motionAfter_closing {on : Bool} : motionAfter on t.closing = false := by
  rw [closing, motionAfter_append]
  rfl

/-- Starting and stopping targets tells subscribers nothing. -/
theorem notices_of_concerning {on : Bool} {l : List Action} (h : ∀ a ∈ l, a.concern = .targets) :
    notices on l = [] := by
  induction l with
  | nil => rfl
  | cons a l ih =>
    have ha : a.concern ≠ .hub := by
      rw [h a List.mem_cons_self]
      nofun
    rw [notices, Action.subject?_eq_none ha, motion?_eq_none ha]
    exact ih fun b hb => h b (List.mem_cons_of_mem a hb)

/-- The flag is raised before anybody is notified. -/
theorem notices_opening {on : Bool} : notices on (t.opening frames) = [(t.source, true)] := by
  rw [opening, notices_append, notices_of_concerning fun a h => concern_of_mem_startTargets h]
  rfl

theorem notices_closing {on : Bool} : notices on t.closing = [] := by
  rw [closing, notices_append, notices_of_concerning fun a h => concern_of_mem_stopTargets h]
  rfl

theorem handovers_opening :
    handovers (t.opening frames) = handoversOf t.targets frames none := by
  rw [opening, handovers_append, handovers_startTargets]
  exact List.append_nil _

theorem handovers_closing : handovers t.closing = [] := by
  rw [closing, handovers_append, handovers_stopTargets]
  rfl

/-! ## Glances -/

/-- A round in which a trigger looked for a reason to record. -/
structure Glance where
  answers : Answers
  /-- The frame that was looked at. There is none if no frames are kept. -/
  frame : Option Frame
  actions : List Action

namespace Glance

/-- Whether a recording began. -/
def starts (u : Glance) : Bool := u.actions.any Action.raises

/-- The number of frames that were to be kept. -/
def capacity (u : Glance) : Nat :=
  match u.answers.params.getInt ParameterName.preRecordDuration with
  | .ok duration => duration.toNat
  | .error _ => 0

/-- The frames that are kept once the frame was looked at. -/
def keep (u : Glance) (b : PreRecord Frame) : PreRecord Frame :=
  match u.frame with
  | some f => b.push f u.capacity
  | none => b

/-- The frames that are left after a glance. All are handed over when a recording begins. -/
def leave (b : PreRecord Frame) (u : Glance) : PreRecord Frame :=
  if u.starts then .empty else u.keep b

end Glance

/-- The frames that are kept after some glances. -/
def stock (past : List Glance) : PreRecord Frame := past.foldl Glance.leave .empty

/-- The number of frames that were to be kept when a frame was last looked at. -/
def lastCapacity (past : List Glance) : Nat :=
  past.foldl (fun c u => if u.frame.isSome then u.capacity else c) 0

/-- The frames that were looked at since a recording began. -/
def lookedAt (past : List Glance) : List Frame :=
  (past.rtakeWhile fun u => !u.starts).filterMap Glance.frame

section Stock

variable {past : List Glance} {u : Glance} {b : PreRecord Frame}

theorem stock_concat : stock (past ++ [u]) = if u.starts then .empty else u.keep (stock past) :=
  List.foldl_concat ..

theorem lastCapacity_concat :
    lastCapacity (past ++ [u]) = if u.frame.isSome then u.capacity else lastCapacity past :=
  List.foldl_concat ..

theorem lookedAt_concat : lookedAt (past ++ [u]) =
    if u.starts then [] else lookedAt past ++ u.frame.toList := by
  unfold lookedAt
  cases hu : u.starts with
  | true => rw [List.rtakeWhile_concat_neg _ _ _ (by simp [hu])]; rfl
  | false =>
    rw [List.rtakeWhile_concat_pos _ _ _ (by simp [hu]), List.filterMap_append]
    cases hf : u.frame <;> simp [hf]

/-- The last of some frames, and a new one, are again the last of all. -/
theorem Glance.keep_suffix {l : List Frame} (h : b.toList <:+ l) :
    (u.keep b).toList <:+ l ++ u.frame.toList := by
  unfold keep
  cases u.frame with
  | none => rwa [Option.toList_none, List.append_nil]
  | some f =>
    dsimp only
    unfold PreRecord.push
    split
    · exact List.nil_suffix
    · exact (List.suffix_append_inj_of_length_eq rfl).mpr ⟨(List.drop_suffix _ _).trans h, rfl⟩

theorem Glance.length_keep_le (u : Glance) (b : PreRecord Frame) (hu : u.frame.isSome = true) :
    (u.keep b).length ≤ u.capacity := by
  obtain ⟨f, hf⟩ := Option.isSome_iff_exists.mp hu
  unfold keep
  rw [hf]
  exact (b.length_push f u.capacity).trans_le (Nat.min_le_right ..)

/-- A new frame is the last one, if any are to be kept. -/
theorem Glance.getLast?_keep {f : Frame} (hf : u.frame = some f) (hcapacity : 0 < u.capacity) :
    (u.keep b).toList.getLast? = some f := by
  unfold keep PreRecord.push
  rw [hf]
  dsimp only
  rw [if_neg (Nat.ne_of_gt hcapacity)]
  exact List.getLast?_concat

/-- **Frames are kept in order**, and only those since the last recording began. -/
theorem stock_suffix (past : List Glance) : (stock past).toList <:+ lookedAt past := by
  induction past using List.reverseRecOn with
  | nil => exact List.suffix_refl []
  | append_singleton past u ih =>
    rw [stock_concat, lookedAt_concat]
    cases u.starts with
    | true => exact List.suffix_refl []
    | false => exact Glance.keep_suffix ih

/-- **No more frames are kept than were wanted last.** -/
theorem length_stock_le (past : List Glance) : (stock past).length ≤ lastCapacity past := by
  induction past using List.reverseRecOn with
  | nil => exact Nat.le_refl 0
  | append_singleton past u ih =>
    rw [stock_concat, lastCapacity_concat]
    cases hstarts : u.starts with
    | true => exact Nat.zero_le _
    | false =>
      cases hf : u.frame with
      | some f => exact u.length_keep_le (stock past) (by rw [hf]; rfl)
      | none =>
        unfold Glance.keep
        rw [hf]
        exact ih

end Stock

/-! ## What a glance changes -/

variable {a : Answers} {frame : Option Frame} {allow : Bool} {actions : List Action}
  {u : Glance}

/-- What is kept in a round is what a glance keeps. -/
theorem keep_eq {kept : PreRecord Frame} (hk : t.keep u.answers u.frame = .ok kept)
    (hframe : t.keepsFrames = false → u.frame = none) : u.keep t.prerecord = kept := by
  unfold keep at hk
  unfold Glance.keep Glance.capacity
  split at hk
  · next f _ hf =>
    rw [hf]
    cases hd : u.answers.params.getInt ParameterName.preRecordDuration with
    | error e => simp [hd, bind, Except.bind] at hk
    | ok duration =>
      simp only [hd, bind, Except.bind] at hk
      exact Except.ok.inj hk
  · next hne =>
    have hnone : u.frame = none := by
      cases hf : u.frame with
      | none => rfl
      | some f =>
        cases hkeeps : t.keepsFrames with
        | true => exact absurd hf (hne f hkeeps)
        | false => exact (hf.symm.trans (hframe hkeeps)).symm ▸ rfl
    rw [hnone]
    exact Except.ok.inj hk

theorem input_wakeUp : concerning .input (t.wakeUp a allow).2 = [] := by
  unfold wakeUp
  split
  · show concerning .input (Action.takeSignal :: t.say .info _ ::
      (startTargets t.targets _ none ++ [.setMotion true, .notify t.source])) = []
    rw [concerning_cons, if_neg (by decide), concerning_cons,
      if_neg (show (t.say .info _).concern ≠ .input from nofun), concerning_append,
      concerning_startTargets (by decide)]
    rfl
  · rfl

theorem input_stopWhenQuiet : concerning .input (t.stopWhenQuiet a).2 = [] := by
  unfold stopWhenQuiet
  split
  · show concerning .input (t.say .info _ :: (stopTargets t.targets ++ [.setMotion false])) = []
    rw [concerning_cons, if_neg (show (t.say .info _).concern ≠ .input from nofun),
      concerning_append, concerning_stopTargets (by decide)]
    rfl
  · rfl

theorem input_shutdown : concerning .input t.shutdown.2 = [] := by
  show concerning .input ((if t.recording then stopTargets t.targets ++ [.setMotion false]
    else []) ++ [.stopSource]) = []
  split
  · rw [concerning_append, concerning_append, concerning_stopTargets (by decide)]
    rfl
  · rfl

/-- Once a frame is there, no other one is asked for in the round. -/
theorem input_respond (h : t.respond a frame allow = .ok (t', actions)) :
    concerning .input actions = [] := by
  unfold respond at h
  obtain ⟨⟨t₁, started⟩, hlisten, h⟩ := exists_of_bind_eq_ok h
  obtain ⟨-, rfl⟩ := Prod.mk.inj (Except.ok.inj h)
  have hstarted : concerning .input started = [] := by
    unfold listen at hlisten
    split at hlisten
    · split at hlisten
      · obtain ⟨-, rfl⟩ := Prod.mk.inj (Except.ok.inj hlisten)
        rfl
      · obtain ⟨duration, -, hlisten⟩ := exists_of_bind_eq_ok hlisten
        rw [show started = _ from (congrArg Prod.snd (Except.ok.inj hlisten)).symm]
        exact input_wakeUp
    · rw [show started = _ from (congrArg Prod.snd (Except.ok.inj hlisten)).symm]
      exact input_wakeUp
  rw [concerning_append, hstarted, List.nil_append]
  exact input_stopWhenQuiet

/-- What a glance changes: at first a recording may begin, and then a recording may end. -/
structure Changes (t : CascadingTrigger) (u : Glance) (t' : CascadingTrigger) : Prop where
  left : t' = { t with
    recording := t'.recording
    prerecord := if u.starts then .empty else u.keep t.prerecord
    lastTs := t'.lastTs }
  frame : t.keepsFrames = false → u.frame = none
  starts : u.starts = true → t.recording = false ∧ t.wakened u.frame = true
  input : concerning .input u.actions = []
  /-- Only a recording goes on. -/
  recording : t'.recording = true → (t.recording || u.starts) = true
  visible : visible u.actions =
    (if u.starts then t.opening (u.keep t.prerecord).toList else []) ++
      if (t.recording || u.starts) && !t'.recording then t.closing else []

theorem starts_eq {kept : PreRecord Frame}
    (hr : t.Responded u.answers u.frame allow t' u.actions kept) :
    u.starts = t.starts u.answers u.frame allow := by
  have hany : (essentials u.actions).any Action.raises = u.actions.any Action.raises :=
    any_essentials fun a ha => by cases a <;> first | rfl | cases ha
  have hstop : t.closing.any Action.raises = false := by
    simp [closing, stopTargets, Action.raises]
  have hstart : (t.opening kept.toList).any Action.raises = true := by
    simp [opening, Action.raises]
  unfold Glance.starts
  rw [← hany, hr.done, List.any_append, List.any_append]
  cases t.starts u.answers u.frame allow <;> cases t.stops u.answers u.frame allow <;>
    cases t.wakened u.frame <;> simp [hstop, hstart, Action.raises]

/-- **A round that returns changes just that.** -/
theorem changes_of_respond {lastTs : Nat}
    (h : { t with lastTs }.respond u.answers u.frame allow = .ok (t', u.actions))
    (hframe : t.keepsFrames = false → u.frame = none) : t.Changes u t' := by
  obtain ⟨kept, hr⟩ := responded h
  have hstarts := starts_eq hr
  have hkeep : u.keep t.prerecord = kept := keep_eq hr.keeps hframe
  have hrecording : t'.recording = ((t.recording || u.starts) && u.answers.upstream) := by
    rw [hr.left, hstarts]
  refine ⟨?_, hframe, fun hs => ?_, input_respond h, fun hon => ?_, ?_⟩
  · rw [hr.left, hstarts, hkeep]
  · rw [hstarts, starts, wakes, Bool.and_eq_true] at hs
    obtain ⟨hwakened, hwakes⟩ := hs
    simp only [Bool.and_eq_true, Bool.not_eq_true'] at hwakes
    exact ⟨hwakes.1.2, hwakened⟩
  · rw [hrecording, Bool.and_eq_true] at hon
    exact hon.1
  · have hstops : ({ t with lastTs } : CascadingTrigger).stops u.answers u.frame allow =
        ((t.recording || u.starts) && !t'.recording) := by
      rw [hrecording, hstarts, stops]
      cases t.recording || ({ t with lastTs } : CascadingTrigger).starts u.answers u.frame allow <;>
        cases u.answers.upstream <;> rfl
    have htaken : MotionWatch.visible
        (if ({ t with lastTs } : CascadingTrigger).wakened u.frame then [Action.takeSignal]
          else []) = [] := by
      split <;> rfl
    rw [← visible_essentials, hr.done, visible_append, visible_append, htaken, ← hstarts, hstops,
      hkeep, List.nil_append]
    congr 1
    · split
      · exact visible_opening
      · rfl
    · split
      · exact visible_closing
      · rfl

/-- What the targets are handed at a glance. -/
theorem Changes.handovers (h : t.Changes u t') : MotionWatch.handovers u.actions =
    if u.starts then handoversOf t.targets (u.keep t.prerecord).toList none else [] := by
  rw [← handovers_visible, h.visible, handovers_append]
  have hlast : MotionWatch.handovers
      (if (t.recording || u.starts) && !t'.recording then t.closing else []) = [] := by
    split
    · exact handovers_closing
    · rfl
  rw [hlast, List.append_nil]
  split
  · exact handovers_opening
  · rfl

/-! ## Rounds -/

section Rounds

variable {σ : Type} {h : Host σ} {r r' : Running σ}

/-- What is done to wait for a frame or a notification. -/
def waits (t : CascadingTrigger) : Action :=
  if t.keepsFrames then .fetch true t.lastTs else .await patience

/-- The trigger once it has looked at a frame. -/
def looked (t : CascadingTrigger) (frame : Option Frame) : CascadingTrigger :=
  match frame with
  | some f => { t with lastTs := f.ts }
  | none => t

/-- The glance in a round, if there is one. -/
def glance? (h : Host σ) (r : Running σ) : Option Glance :=
  match r.stage, (h.control r.world).check? with
  | .going (), some true =>
    let (allow, r) := r.askSchedule h
    let (frame, r) := await h r
    match (r.trigger.looked frame).respond (h.answers r.world) frame allow with
    | .ok (_, actions) => some ⟨h.answers r.world, frame, actions⟩
    | .error _ => none
  | _, _ => none

/-- The glances in so many rounds. -/
def glances (h : Host σ) : Nat → Running σ → List Glance
  | 0, _ => []
  | k + 1, r => (glance? h r).toList ++ glances h k (step h r)

/-- What a round does, and the glance in it. -/
inductive Round (h : Host σ) (r r' : Running σ) : Option Glance → Prop
  /-- Nothing. -/
  | rests (trigger : r'.trigger = r.trigger) (trace : r'.trace = r.trace)
    (outcome : r'.outcome? = r.outcome?) : Round h r r' none
  /-- It looks for a reason to record. -/
  | looks (u : Glance) (running : r.outcome? = none) (changes : r.trigger.Changes u r'.trigger)
    (trace : r'.trace = r.trace ++ r.trigger.waits :: u.actions)
    (outcome : r'.outcome? = none) : Round h r r' (some u)
  /-- It finds out that the number of frames to keep cannot be looked up. -/
  | crashes (w : σ) (e : Misuse)
    (unreadable : (h.answers w).params.getInt ParameterName.preRecordDuration = .error e)
    (trigger : r'.trigger = r.trigger) (trace : r'.trace = r.trace ++ [r.trigger.waits])
    (outcome : r'.outcome? = some (.crashed (some e))) : Round h r r' none
  /-- Everything is stopped. -/
  | ends (o : Outcome Empty) (trigger : r'.trigger = r.trigger.shutdown.1)
    (trace : r'.trace = r.trace ++ r.trigger.shutdown.2) (outcome : r'.outcome? = some o) :
    Round h r r' none

/-- Waiting changes nothing, and without frames to keep there is no frame. -/
theorem await_spec (h : Host σ) (r : Running σ) :
    (await h r).2.trigger = r.trigger ∧ (await h r).2.stage = r.stage ∧
      (await h r).2.trace = r.trace ++ [r.trigger.waits] ∧
      (r.trigger.keepsFrames = false → (await h r).1 = none) := by
  unfold await waits
  cases r.trigger.keepsFrames with
  | true => exact ⟨rfl, rfl, rfl, nofun⟩
  | false => exact ⟨rfl, rfl, rfl, fun _ => rfl⟩

theorem looked_eq (t : CascadingTrigger) (frame : Option Frame) :
    ∃ lastTs, t.looked frame = { t with lastTs } := by
  cases frame with
  | some f => exact ⟨f.ts, rfl⟩
  | none => exact ⟨t.lastTs, rfl⟩

/-- A round only fails when the number of frames to keep cannot be looked up. -/
theorem getInt_of_respond_error {e : Misuse} (he : t.respond a frame allow = .error e) :
    a.params.getInt ParameterName.preRecordDuration = .error e := by
  cases hd : a.params.getInt ParameterName.preRecordDuration with
  | ok duration =>
    have hok : ∃ step, t.respond a frame allow = .ok step := respond_isOk hd
    obtain ⟨step, hok⟩ := hok
    rw [hok] at he
    cases he
  | error e' =>
    have hlisten : t.listen a frame allow = .error e := by
      unfold respond at he
      cases hl : t.listen a frame allow with
      | error e₁ => simpa [hl, bind, Except.bind] using he
      | ok r => simp [hl, bind, Except.bind, pure, Except.pure] at he
    unfold listen at hlisten
    split at hlisten
    · cases frame with
      | none => cases hlisten
      | some f => simpa [hd, bind, Except.bind] using hlisten
    · cases hlisten

/-- The body of the loop is a glance, or a crash. -/
theorem round_follow (hcheck : (h.control r.world).check? = some true)
    (hstage : r.stage = .going ()) : Round h r (follow h r) (glance? h r) := by
  obtain ⟨htrigger, hstay, htrace, hframe⟩ := await_spec h (r.askSchedule h).2
  unfold glance? follow looked
  rw [hstage, hcheck]
  dsimp only
  generalize await h (r.askSchedule h).2 = awaited at *
  obtain ⟨frame, r₁⟩ := awaited
  obtain ⟨lastTs, hlooked⟩ := r.trigger.looked_eq frame
  change r₁.trigger = r.trigger at htrigger
  dsimp only
  rw [htrigger]
  generalize hrespond : respond _ (h.answers r₁.world) frame (r.askSchedule h).1 = result
  change (r.trigger.looked frame).respond _ _ _ = _ at hrespond
  cases result with
  | error e =>
    show Round h r (r₁.goTo (.returned (.crashed (some e)))) none
    exact .crashes r₁.world e (getInt_of_respond_error hrespond) htrigger htrace rfl
  | ok step =>
    obtain ⟨t', actions⟩ := step
    show Round h r (r₁.proceed h (t', actions)) (some ⟨h.answers r₁.world, frame, actions⟩)
    rw [hlooked] at hrespond
    refine .looks _ (by rw [Run.outcome?, hstage]) (changes_of_respond hrespond hframe) ?_ ?_
    · show r₁.trace ++ actions = _
      rw [htrace, List.append_assoc]
      rfl
    · rw [Run.outcome?, show (r₁.proceed h (t', actions)).stage = r.stage from hstay, hstage]

/-- **A round does one of these things.** -/
theorem round_step (h : Host σ) (r : Running σ) : Round h r (step h r) (glance? h r) := by
  cases hstage : r.stage with
  | going phase =>
    have hout : r.outcome? = none := by rw [Run.outcome?, hstage]
    unfold step Run.round
    rw [hstage]
    dsimp only
    split
    · next hcheck => exact round_follow hcheck hstage
    · next hcheck =>
      unfold glance?
      rw [hstage, hcheck]
      exact .rests rfl rfl hout.symm
    · next hcheck =>
      unfold glance?
      rw [hstage, hcheck]
      exact .rests rfl rfl hout.symm
  | ending o =>
    unfold step glance?
    rw [hstage]
    exact .ends o rfl rfl rfl
  | returned o =>
    unfold step glance?
    rw [hstage]
    exact .rests rfl rfl rfl

end Rounds

/-! ## What others see of a run -/

/-- Ready to run: there is no recording, and nothing is kept. -/
structure Idle (t : CascadingTrigger) : Prop where
  recording : t.recording = false
  prerecord : t.prerecord = .empty

/-- A new trigger is ready to run, with any number of targets. -/
theorem idle_create {id source : String} {params : ParameterSet}
    (h : create id source params = .ok t) (n : Nat) : { t with targets := n }.Idle := by
  obtain ⟨duration, -, h⟩ := exists_of_bind_eq_ok h
  obtain rfl := Except.ok.inj h
  exact ⟨rfl, rfl⟩

/-- Recordings as others see them: so many have begun, and perhaps the last one is not over. -/
inductive Recordings (t : CascadingTrigger) : Nat → Bool → List Action → Prop
  | none : Recordings t 0 false []
  | begins {n : Nat} {l : List Action} (frames : List Frame) (before : Recordings t n false l) :
    Recordings t (n + 1) true (l ++ t.opening frames)
  | ends {n : Nat} {l : List Action} (before : Recordings t n true l) :
    Recordings t n false (l ++ t.closing)

namespace Recordings

variable {n : Nat} {recording : Bool} {l : List Action}

/-- **Starts and stops alternate**, and a start comes first. -/
theorem targetCalls_eq {i : Nat} (hl : Recordings t n recording l) (hi : i < t.targets) :
    ∃ m, m + recording.toNat = n ∧ targetCalls i l =
      (List.replicate m [TargetCall.start, .stop]).flatten ++
        if recording then [.start] else [] := by
  induction hl with
  | none => exact ⟨0, rfl, rfl⟩
  | begins frames before ih =>
    obtain ⟨m, rfl, hm⟩ := ih
    refine ⟨m, rfl, ?_⟩
    rw [targetCalls_append, hm, targetCalls_opening hi, if_pos rfl, if_neg nofun, List.append_nil]
  | ends before ih =>
    obtain ⟨m, rfl, hm⟩ := ih
    refine ⟨m + 1, rfl, ?_⟩
    rw [targetCalls_append, hm, targetCalls_closing hi, List.replicate_succ', List.flatten_concat,
      if_pos rfl, if_neg nofun, List.append_nil, List.append_assoc]
    rfl

theorem motionAfter_eq (hl : Recordings t n recording l) : motionAfter false l = recording := by
  cases hl with
  | none => rfl
  | begins frames before => rw [motionAfter_append, motionAfter_opening]
  | ends before => rw [motionAfter_append, motionAfter_closing]

/-- **Subscribers are told of every start once**, with the flag already raised. -/
theorem notices_eq (hl : Recordings t n recording l) :
    notices false l = List.replicate n (t.source, true) := by
  induction hl with
  | none => rfl
  | begins frames before ih => rw [notices_append, ih, notices_opening, List.replicate_succ']
  | ends before ih => rw [notices_append, ih, notices_closing, List.append_nil]

/-- The end of all ends a recording. -/
theorem shutdown {l' : List Action} (hl : Recordings t n recording l)
    (hl' : l' = if recording then t.closing else []) : Recordings t n false (l ++ l') := by
  subst hl'
  cases recording with
  | true => exact .ends hl
  | false => rwa [if_neg nofun, List.append_nil]

/-- A glance begins a recording, or ends one, or both. -/
theorem changes {t₀ : CascadingTrigger} (hl : Recordings t₀ n t.recording l)
    (hu : t.Changes u t') (hopening : ∀ frames, t.opening frames = t₀.opening frames)
    (hclosing : t.closing = t₀.closing) :
    Recordings t₀ (n + u.starts.toNat) t'.recording (l ++ MotionWatch.visible u.actions) := by
  have hbegun : Recordings t₀ (n + u.starts.toNat) (t.recording || u.starts)
      (l ++ if u.starts then t.opening (u.keep t.prerecord).toList else []) := by
    cases hs : u.starts with
    | true =>
      rw [(hu.starts hs).1] at hl ⊢
      rw [if_pos rfl, hopening]
      exact .begins _ hl
    | false => rwa [if_neg nofun, List.append_nil, Bool.or_false]
  rw [hu.visible, ← List.append_assoc]
  cases hon : t'.recording with
  | true =>
    rw [hu.recording hon] at hbegun ⊢
    rwa [Bool.not_true, Bool.and_false, if_neg Bool.false_ne_true, List.append_nil]
  | false =>
    rw [Bool.not_false, Bool.and_true]
    refine hbegun.shutdown ?_
    rw [hclosing]

end Recordings

/-- What a glance means for the targets, after other glances. -/
structure Glance.Fits (t : CascadingTrigger) (before : List Glance) (u : Glance) : Prop where
  handed : handovers u.actions =
    if u.starts then handoversOf t.targets (u.keep (stock before)).toList none else []
  frame : t.keepsFrames = false → u.frame = none
  wakened : u.starts = true → t.wakened u.frame = true

section Runs

variable {σ : Type} {h : Host σ} {r r' : Running σ} {past : List Glance}

/-- What others have seen of a run that started with `t`, by the glances so far. -/
structure InOrder (h : Host σ) (t : CascadingTrigger) (r : Running σ) (past : List Glance) :
    Prop where
  same : r.trigger = { t with
    recording := r.trigger.recording
    prerecord := r.trigger.prerecord
    lastTs := r.trigger.lastTs }
  recordings : Recordings t (past.countP Glance.starts) r.trigger.recording (visible r.trace)
  /-- What is kept is dropped when the run returns. -/
  kept : r.trigger.prerecord = stock past ∨ r.trigger.prerecord = .empty ∧ r.outcome?.isSome
  handed : handovers r.trace = past.flatMap fun u => handovers u.actions
  each : ∀ before u after, past = before ++ u :: after → u.Fits t before
  closed : ∀ o, r.outcome? = some o → r.trigger.Idle ∨ ∃ w e,
    (h.answers w).params.getInt ParameterName.preRecordDuration = .error e ∧
      o = .crashed (some e)
  unasked : t.keepsFrames = false → ∀ block after, Action.fetch block after ∉ r.trace

theorem visible_waits : visible [t.waits] = [] := by
  unfold waits
  cases t.keepsFrames <;> rfl

/-- Without frames to keep, no frame is asked for. -/
theorem fetch_ne_waits (hkeeps : t.keepsFrames = false) (block : Bool) (after : Nat) :
    Action.fetch block after ≠ t.waits := by
  rw [waits, hkeeps]
  nofun

namespace InOrder

/-- A run that goes on has not dropped what is kept. -/
theorem kept_of_running (ho : InOrder h t r past) (hout : r.outcome? = none) :
    r.trigger.prerecord = stock past := by
  rcases ho.kept with hkept | ⟨-, hsome⟩
  · exact hkept
  · rw [hout] at hsome
    cases hsome

/-- Nothing is decided. -/
theorem rests (ho : InOrder h t r past) (htrigger : r'.trigger = r.trigger) {l : List Action}
    (htrace : r'.trace = r.trace ++ l) (hvisible : visible l = [])
    (hfetch : t.keepsFrames = false → ∀ block after, Action.fetch block after ∉ l)
    (hkept : r.outcome?.isSome → r'.outcome?.isSome)
    (hclosed : ∀ o, r'.outcome? = some o → r.outcome? = some o ∨ ∃ w e,
      (h.answers w).params.getInt ParameterName.preRecordDuration = .error e ∧
        o = .crashed (some e)) : InOrder h t r' past := by
  refine ⟨?_, ?_, ?_, ?_, ho.each, ?_, ?_⟩
  · rw [htrigger]
    exact ho.same
  · rw [htrigger, htrace, visible_append, hvisible, List.append_nil]
    exact ho.recordings
  · rw [htrigger]
    exact ho.kept.imp_right fun ⟨hempty, hsome⟩ => ⟨hempty, hkept hsome⟩
  · rw [htrace, handovers_append, ← handovers_visible (l := l), hvisible, ho.handed]
    exact List.append_nil _
  · rw [htrigger]
    intro o hout
    exact (hclosed o hout).elim (ho.closed o) .inr
  · intro hkeeps block after hmem
    rw [htrace, List.mem_append] at hmem
    exact hmem.elim (ho.unasked hkeeps block after) (hfetch hkeeps block after)

/-- Everything is stopped. -/
theorem shutdown {o : Outcome Empty} (ho : InOrder h t r past)
    (htrigger : r'.trigger = r.trigger.shutdown.1)
    (htrace : r'.trace = r.trace ++ r.trigger.shutdown.2) (hout : r'.outcome? = some o) :
    InOrder h t r' past := by
  have hsame := ho.same
  have hclosing : r.trigger.closing = t.closing := by rw [hsame]; rfl
  have hvisible : visible r.trigger.shutdown.2 =
      if r.trigger.recording then t.closing else [] := by
    rw [← visible_essentials, essentials_shutdown_snd, visible_append, hclosing]
    split
    · rw [visible_closing]
      exact List.append_nil _
    · rfl
  refine ⟨?_, ?_, ?_, ?_, ho.each, ?_, ?_⟩
  · rw [htrigger, hsame]
    rfl
  · rw [htrigger, htrace, visible_append]
    exact ho.recordings.shutdown hvisible
  · rw [htrigger, hout]
    exact .inr ⟨rfl, rfl⟩
  · rw [htrace, handovers_append, ho.handed, ← handovers_visible (l := r.trigger.shutdown.2),
      hvisible]
    split
    · rw [handovers_closing, List.append_nil]
    · exact List.append_nil _
  · rw [htrigger]
    exact fun _ _ => .inl ⟨rfl, rfl⟩
  · intro hkeeps block after hmem
    rw [htrace, List.mem_append] at hmem
    refine hmem.elim (ho.unasked hkeeps block after) fun hmem => ?_
    exact not_mem_of_concerning input_shutdown rfl hmem

/-- A glance. -/
theorem looks {u : Glance} (ho : InOrder h t r past) (hrunning : r.outcome? = none)
    (hchanges : r.trigger.Changes u r'.trigger)
    (htrace : r'.trace = r.trace ++ r.trigger.waits :: u.actions) (hgoing : r'.outcome? = none) :
    InOrder h t r' (past ++ [u]) := by
  have hkept := ho.kept_of_running hrunning
  have hvisible : visible (r.trigger.waits :: u.actions) = visible u.actions := by
    rw [← List.singleton_append, visible_append, visible_waits, List.nil_append]
  have hsame := ho.same
  have hkeeps : r.trigger.keepsFrames = t.keepsFrames := by rw [hsame]
  refine ⟨?_, ?_, ?_, ?_, ?_, ?_, ?_⟩
  · rw [hchanges.left, hsame]
  · have hrecordings := ho.recordings.changes hchanges
      (fun frames => by rw [hsame]; rfl) (by rw [hsame]; rfl)
    rw [htrace, visible_append, hvisible, List.countP_append, List.countP_singleton]
    cases hs : u.starts <;> simpa [hs] using hrecordings
  · left
    rw [hchanges.left, stock_concat, hkept]
  · rw [htrace, handovers_append, ho.handed, List.flatMap_append, List.flatMap_singleton,
      ← handovers_visible, hvisible, handovers_visible]
  · intro before v after hsplit
    rcases List.eq_nil_or_concat after with rfl | ⟨after, last, rfl⟩
    · -- This is the new one. All others are as before.
      obtain ⟨rfl, hv⟩ := List.append_inj' hsplit rfl
      obtain rfl := (List.cons.inj hv).1
      refine ⟨?_, fun hk => hchanges.frame (hkeeps.trans hk), fun hs => ?_⟩
      · rw [hchanges.handovers, hkept, show r.trigger.targets = t.targets by rw [hsame]]
      · have hwakened := (hchanges.starts hs).2
        unfold wakened at hwakened ⊢
        rwa [hkeeps] at hwakened
    · rw [List.concat_eq_append, ← List.cons_append, ← List.append_assoc] at hsplit
      exact ho.each before v after (List.append_inj' hsplit rfl).1
  · rw [hgoing]
    nofun
  · intro hk block after hmem
    rw [htrace, List.mem_append, List.mem_cons] at hmem
    rcases hmem with hmem | hmem | hmem
    · exact ho.unasked hk block after hmem
    · exact fetch_ne_waits (hkeeps.trans hk) block after hmem
    · exact not_mem_of_concerning hchanges.input rfl hmem

end InOrder

/-- **A round keeps the order.** -/
theorem inOrder_step (ho : InOrder h t r past) :
    InOrder h t (step h r) (past ++ (glance? h r).toList) := by
  have hround := round_step h r
  generalize step h r = r', glance? h r = u? at hround ⊢
  cases hround with
  | rests trigger trace outcome =>
    rw [Option.toList_none, List.append_nil]
    refine ho.rests (l := []) trigger (trace.trans (List.append_nil _).symm) rfl
      (fun _ _ _ => nofun) (fun hsome => outcome ▸ hsome) fun o hout => .inl (outcome ▸ hout)
  | looks u running changes trace outcome => exact ho.looks running changes trace outcome
  | crashes w e unreadable trigger trace outcome =>
    rw [Option.toList_none, List.append_nil]
    refine ho.rests trigger trace visible_waits (fun hkeeps block after hmem => ?_)
      (fun _ => by rw [outcome]; rfl) fun o hout => .inr ⟨w, e, unreadable, ?_⟩
    · have hsame := ho.same
      exact fetch_ne_waits (by rw [hsame]; exact hkeeps) block after (List.mem_singleton.mp hmem)
    · exact Option.some.inj (hout.symm.trans outcome)
  | ends o trigger trace outcome =>
    rw [Option.toList_none, List.append_nil]
    exact ho.shutdown trigger trace outcome

theorem inOrder_rounds (ho : InOrder h t r past) (k : Nat) :
    InOrder h t (Run.rounds (step h) k r) (past ++ glances h k r) := by
  induction k generalizing r past with
  | zero =>
    rw [glances, List.append_nil]
    exact ho
  | succ k ih =>
    rw [glances, ← List.append_assoc]
    exact ih (inOrder_step ho)

theorem inOrder_startRun (ht : t.Idle) (world : σ) : InOrder h t (startRun h t world) [] := by
  refine ⟨rfl, ?_, .inl ht.prerecord, rfl, ?_, nofun, ?_⟩
  · rw [show (startRun h t world).trigger.recording = false from ht.recording]
    exact .none
  · intro before u after hsplit
    cases before <;> cases hsplit
  · rintro - block after hmem
    cases List.mem_singleton.mp hmem

/-- Nothing is kept when no frame is looked at. -/
theorem stock_eq_empty {past : List Glance} (hpast : ∀ u ∈ past, u.frame = none) :
    stock past = .empty := by
  induction past using List.reverseRecOn with
  | nil => rfl
  | append_singleton past u ih =>
    rw [stock_concat, ih fun v hv => hpast v (List.mem_append_left _ hv), Glance.keep,
      hpast u (List.mem_append_right _ (List.mem_singleton_self u))]
    exact ite_self _

theorem frames_handoversOf_nil {n : Nat} {x : Handover} (hx : x ∈ handoversOf n [] none) :
    x.frames = [] := by
  obtain ⟨i, -, rfl⟩ := List.mem_map.mp hx
  exact ite_self _

/-- **A run of a cascading trigger is made of whole recordings**, and perhaps one that is not over.
Every target is started and stopped in turn, the motion flag says whether there is a recording, and
subscribers are told of every start once, when the flag is up. A recording begins with the last
frames that were looked at since the one before, and these go to the first target. -/
theorem recordings_of_run (h : Host σ) (t : CascadingTrigger) (world : σ) (k : Nat) (ht : t.Idle) :
    let r := Run.rounds (step h) k (startRun h t world)
    let past := glances h k (startRun h t world)
    Recordings t (past.countP Glance.starts) r.trigger.recording (visible r.trace) ∧
    (∀ i < t.targets, ∃ m, m + r.trigger.recording.toNat = past.countP Glance.starts ∧
      targetCalls i r.trace = (List.replicate m [TargetCall.start, .stop]).flatten ++
        if r.trigger.recording then [.start] else []) ∧
    (∀ o, r.outcome? = some o → r.trigger.Idle ∨ ∃ w e,
      (h.answers w).params.getInt ParameterName.preRecordDuration = .error e ∧
        o = .crashed (some e)) ∧
    motionAfter false r.trace = r.trigger.recording ∧
    notices false r.trace = List.replicate (past.countP Glance.starts) (t.source, true) ∧
    r.trigger.prerecord.length ≤ lastCapacity past ∧
    (∀ u, past.getLast? = some u → u.starts = true → r.trigger.prerecord = .empty) ∧
    handovers r.trace = (past.flatMap fun u => handovers u.actions) ∧
    (∀ before u after, past = before ++ u :: after →
      let frames := (u.keep (stock before)).toList
      handovers u.actions = (if u.starts then handoversOf t.targets frames none else []) ∧
        frames <:+ lookedAt before ++ u.frame.toList ∧
        (u.starts = true → t.keepsFrames = true → ∃ f, u.frame = some f ∧
          frames.length ≤ u.capacity ∧ (0 < u.capacity → frames.getLast? = some f))) ∧
    (t.keepsFrames = false → (∀ block after, Action.fetch block after ∉ r.trace) ∧
      ∀ x ∈ handovers r.trace, x.frames = []) := by
  intro r past
  have ho : InOrder h t r past := by
    have horder := inOrder_rounds (inOrder_startRun (h := h) ht world) k
    rwa [List.nil_append] at horder
  have hempty (hstock : stock past = .empty) : r.trigger.prerecord = .empty := by
    rcases ho.kept with hkept | ⟨hkept, -⟩
    · exact hkept.trans hstock
    · exact hkept
  refine ⟨ho.recordings, fun i hi => ?_, ho.closed, ?_, ?_, ?_, fun u hlast hu => ?_, ho.handed,
    fun before u after hsplit => ?_, fun hkeeps => ⟨ho.unasked hkeeps, fun x hx => ?_⟩⟩
  · rw [← targetCalls_visible]
    exact ho.recordings.targetCalls_eq hi
  · rw [← motionAfter_visible]
    exact ho.recordings.motionAfter_eq
  · rw [← notices_visible]
    exact ho.recordings.notices_eq
  · rcases ho.kept with hkept | ⟨hkept, -⟩
    · rw [hkept]
      exact length_stock_le past
    · rw [hkept]
      exact Nat.zero_le _
  · obtain ⟨before, hbefore⟩ := List.getLast?_eq_some_iff.mp hlast
    refine hempty ?_
    rw [hbefore, stock_concat, if_pos hu]
  · have hfits := ho.each before u after hsplit
    refine ⟨hfits.handed, Glance.keep_suffix (stock_suffix before), fun hstarts hkeeps => ?_⟩
    have hsome : u.frame.isSome = true := by
      have hwakened := hfits.wakened hstarts
      rwa [wakened, hkeeps] at hwakened
    obtain ⟨f, hf⟩ := Option.isSome_iff_exists.mp hsome
    exact ⟨f, hf, u.length_keep_le _ hsome, Glance.getLast?_keep hf⟩
  · rw [ho.handed, List.mem_flatMap] at hx
    obtain ⟨u, hu, hx⟩ := hx
    obtain ⟨before, after, hsplit⟩ := List.append_of_mem hu
    have hfits := ho.each before u after hsplit
    have hbefore : stock before = .empty := by
      refine stock_eq_empty fun v hv => ?_
      obtain ⟨b, c, hv⟩ := List.append_of_mem hv
      have hpast : past = b ++ v :: (c ++ u :: after) := by
        rw [hsplit, hv, List.append_assoc]
        rfl
      exact (ho.each b v _ hpast).frame hkeeps
    rw [hfits.handed, Glance.keep, hfits.frame hkeeps, hbefore] at hx
    split at hx
    · exact frames_handoversOf_nil hx
    · cases hx

end Runs

/-- Parameters with which two frames are kept. -/
def twoKept : ParameterSet :=
  (cascadeDefaults.applyOverrides [(ParameterName.preRecordDuration, .int 2)]).1

/-- Surroundings in which the camera shows the frames of a list, and a trigger that is followed
records at every other frame. -/
def flicker : Host (List Frame) :=
  { MotionTrigger.reel with
    answers left :=
      ⟨twoKept, left.length % 2 == 1, left.length % 2 == 1, (0.0, 0.0), .ok 0, fun _ => .ok (),
        fun _ => .refused ""⟩ }

/-- A trigger with two targets that keeps frames. -/
def hound : CascadingTrigger := ⟨"hound", "lens", 2, true, false, .empty, 0⟩

/-- Of four frames it records two, and the second recording begins with the frame before. -/
theorem recordings_of_run_flicker :
    let shown := [MotionTrigger.blackFrame 1, MotionTrigger.blackFrame 2,
      MotionTrigger.blackFrame 3, MotionTrigger.blackFrame 4]
    let r := Run.rounds (step flicker) 6 (startRun flicker hound shown)
    r.outcome? = some .completed ∧ r.trigger.Idle ∧
      notices false r.trace = [("lens", true), ("lens", true)] ∧
      handovers r.trace = [⟨0, [MotionTrigger.blackFrame 1], none⟩, ⟨1, [], none⟩,
        ⟨0, [MotionTrigger.blackFrame 2, MotionTrigger.blackFrame 3], none⟩, ⟨1, [], none⟩] := by
  intro shown r
  have hcreate : create "hound" "lens" twoKept = .ok { hound with targets := 0 } := rfl
  have hout : r.outcome? = some .completed := by decide
  obtain ⟨-, -, hclosed, -, hnotices, -⟩ :=
    recordings_of_run flicker hound shown 6 (idle_create hcreate 2)
  refine ⟨hout, ?_, hnotices.trans (by decide), by decide⟩
  obtain hidle | ⟨w, e, -, he⟩ := hclosed _ hout
  · exact hidle
  · cases he

end CascadingTrigger

end MotionWatch
