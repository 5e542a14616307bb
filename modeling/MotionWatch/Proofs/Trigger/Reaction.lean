import MotionWatch.Proofs.Except
import MotionWatch.Proofs.Trigger.Advance
import MotionWatch.Proofs.Trigger.Recordings
import MotionWatch.Trigger.Motion

/-!
# What a motion trigger does about a frame

Whatever is proved of motion triggers begins here: with what one call leaves behind, and with what
it has done, as far as that is essential.

* `processFrame_cases`: a frame is skipped and nothing happens, or it is counted.
* `deeds`: the essential actions for a counted frame, by the verdict on it;
  `essentials_countFrame_snd`.
* `essentials_shutdown_snd`: the same for the end of all.
* `MotionParameters.of_read`: what is looked up for a frame.
* `resized?_eq_none_iff`, `resized?_eq_some`: which frames have another size.
-/

namespace MotionWatch

/-- Whether a frame counts as motion: it shows motion or the signal was notified, and it is allowed
to record. -/
def Answers.isActive (a : Answers) (d : Detection) (allow : Bool) : Bool :=
  (d.triggered || a.signalled) && allow

namespace MotionParameters

/-- The parameters of a trigger, as they stand in a set. -/
structure FoundIn (p : MotionParameters) (s : ParameterSet) : Prop where
  minFrames : s.getInt ParameterName.minFrames = .ok p.limits.minFrames
  minDuration : s.getInt ParameterName.minDuration = .ok p.limits.minDuration
  muteDuration : s.getInt ParameterName.muteDuration = .ok p.limits.muteDuration
  panTilt : s.getBool ParameterName.panTilt = .ok p.panTilt
  capacity : ∃ c, s.getInt ParameterName.preRecordDuration = .ok c ∧ p.capacity = c.toNat
  remember : s.getString ParameterName.rememberTrigger = .ok p.remember

/-- What is looked up stands in the set. -/
theorem of_read {p : MotionParameters} {s : ParameterSet} (h : read s = .ok p) : p.FoundIn s := by
  obtain ⟨minFrames, hminFrames, h⟩ := exists_of_bind_eq_ok h
  obtain ⟨minDuration, hminDuration, h⟩ := exists_of_bind_eq_ok h
  obtain ⟨muteDuration, hmuteDuration, h⟩ := exists_of_bind_eq_ok h
  obtain ⟨panTilt, hpanTilt, h⟩ := exists_of_bind_eq_ok h
  obtain ⟨capacity, hcapacity, h⟩ := exists_of_bind_eq_ok h
  obtain ⟨remember, hremember, h⟩ := exists_of_bind_eq_ok h
  cases h
  exact ⟨hminFrames, hminDuration, hmuteDuration, hpanTilt, ⟨capacity, hcapacity, rfl⟩, hremember⟩

theorem FoundIn.capacity_eq {p : MotionParameters} {s : ParameterSet} {c : Int} (h : p.FoundIn s)
    (hc : s.getInt ParameterName.preRecordDuration = .ok c) : p.capacity = c.toNat := by
  obtain ⟨c', hc', heq⟩ := h.capacity
  rw [heq, Except.ok.inj (hc'.symm.trans hc)]

end MotionParameters

namespace MotionTrigger

variable {t t' : MotionTrigger} {a : Answers} {p : MotionParameters} {f : Frame} {d : Detection}
  {allow : Bool} {actions : List Action}

/-- What the detector says about a frame, if that has the right size and can be compared. -/
def detection? (t : MotionTrigger) (a : Answers) (f : Frame) : Option Detection :=
  match t.resized? f, t.detector.process a.params f with
  | none, .ok (_, d, _) => some d
  | _, _ => none

/-- The counters after a frame, and the verdict on it. -/
def judge (t : MotionTrigger) (a : Answers) (p : MotionParameters) (d : Detection) (allow : Bool) :
    Counters × Verdict :=
  t.counters.advance (a.isActive d allow) p.limits

/-- The event after a frame. -/
def eventAfter (t : MotionTrigger) (a : Answers) : Verdict → Option Nat
  | .motion true => a.newEvent.toOption
  | .quiet _ true => none
  | _ => t.event

/-- The script for the start of a recording after a frame. -/
def onStartAfter (t : MotionTrigger) (a : Answers) : Verdict → ScriptSlot
  | .motion _ => (t.onStart.fire "" (a.launch .start)).1
  | _ => t.onStart

/-- The script for the end of a recording after a frame. -/
def onStopAfter (t : MotionTrigger) (a : Answers) : Verdict → ScriptSlot
  | .quiet _ true => (t.onStop.fire "" (a.launch .stop)).1
  | _ => t.onStop

/-- The frames that are kept once `f` is kept too. -/
def kept (t : MotionTrigger) (p : MotionParameters) (f : Frame) : PreRecord Frame :=
  t.prerecord.push f p.capacity

/-- The frames that are kept after a frame: none if the targets got them. -/
def keptAfter (t : MotionTrigger) (p : MotionParameters) (f : Frame) (v : Verdict) :
    PreRecord Frame :=
  if startsTargets v then .empty else t.kept p f

/-- What is begun with a recording, which gets the frames that are kept. -/
def opening (t : MotionTrigger) (a : Answers) (d : Detection) (frames : List Frame) :
    List Action :=
  .beginEvent t.id (if d.triggered then .motion else .audio) "motion start" ::
    startTargets t.targets frames a.newEvent.toOption

/-- What is ended with a recording. -/
def closing (t : MotionTrigger) : List Action :=
  t.event.toList.map .endEvent ++ stopTargets t.targets ++ [.setMotion false]

/-- The essential actions for a frame, by the verdict on it. -/
def deeds (t : MotionTrigger) (a : Answers) (d : Detection) (frames : List Frame) :
    Verdict → List Action
  | .motion starts =>
    [.setMotion true, .notify t.source] ++ if starts then t.opening a d frames else []
  | .quiet _ true => t.closing
  | _ => []

theorem deeds_of_isSilent {v : Verdict} (h : v.isSilent = true) (frames : List Frame) :
    t.deeds a d frames v = [] := by
  match v with
  | .muted _ | .gathering _ _ | .quiet _ false | .idle => rfl

theorem eventAfter_of_isSilent {v : Verdict} (h : v.isSilent = true) :
    t.eventAfter a v = t.event := by
  match v with
  | .muted _ | .gathering _ _ | .quiet _ false | .idle => rfl

/-! ## Deeds -/

theorem concerning_source_closing : concerning .source t.closing = [] := by
  rw [closing, concerning_append, concerning_append, concerning_stopTargets (by decide)]
  cases t.event <;> rfl

theorem concerning_source_deeds {d : Detection} {frames : List Frame} {v : Verdict} :
    concerning .source (t.deeds a d frames v) = [] := by
  match v with
  | .muted _ | .gathering _ _ | .idle | .quiet _ false | .motion false => rfl
  | .motion true => exact concerning_startTargets (by decide) ..
  | .quiet _ true => exact concerning_source_closing

theorem concerning_targets_closing : concerning .targets t.closing = stopTargets t.targets := by
  rw [closing, concerning_append, concerning_append, concerning_targets_stopTargets]
  cases t.event <;> exact List.append_nil _

theorem motionAfter_closing {on : Bool} : motionAfter on t.closing = false := by
  rw [closing, motionAfter_append]
  rfl

/-! ## Parts of a reaction -/

@[simp] theorem essentials_say {level : Level} {text : String} {l : List Action} :
    essentials (t.say level text :: l) = essentials l := rfl

@[simp] theorem essentials_fireStart : essentials (t.fireStart a).2 = [] := essentials_ofScript ..

@[simp] theorem essentials_fireStop : essentials (t.fireStop a).2 = [] := essentials_ofScript ..

@[simp] theorem essentials_joinScripts : essentials t.joinScripts.2 = [] := by
  show essentials (_ ++ _) = []
  rw [essentials_append, essentials_ofScript, essentials_ofScript, List.append_nil]

@[simp] theorem essentials_steering (panTilt : Bool) :
    essentials (t.steering a f d panTilt) = [] := by
  unfold steering
  split
  · split <;> rfl
  · rfl

@[simp] theorem essentials_remembering (key : String) : essentials (remembering f key) = [] := by
  unfold remembering
  split <;> rfl

theorem beginEvent_fst (panTilt : Bool) (remember : String) :
    (t.beginEvent a f d panTilt remember).1 = { t with event := a.newEvent.toOption } := by
  unfold beginEvent
  cases a.newEvent <;> rfl

theorem essentials_beginEvent_snd (panTilt : Bool) (remember : String) :
    essentials (t.beginEvent a f d panTilt remember).2 =
      [.beginEvent t.id (if d.triggered then .motion else .audio) "motion start"] := by
  unfold beginEvent
  cases a.newEvent <;> simp

theorem endEvent_fst : (t.endEvent a).1 = { t with event := none } := by
  unfold endEvent
  cases h : t.event with
  | none => cases t; cases h; rfl
  | some id => rfl

theorem essentials_endEvent_snd : essentials (t.endEvent a).2 = t.event.toList.map .endEvent := by
  unfold endEvent
  cases t.event with
  | none => rfl
  | some id =>
    simp only [essentials_endEvent]
    split <;> simp

/-- Stopping a recording touches nothing but the event, the script for the end and the flag that
says that there is a recording. -/
theorem stopRecording_fst :
    (t.stopRecording a).1 =
      { t with
        event := none
        onStop := (t.onStop.fire "" (a.launch .stop)).1
        counters := { t.counters with recording := false } } := by
  show { (((t.endEvent a).1.fireStop a).1) with
    counters := { (((t.endEvent a).1.fireStop a).1).counters with recording := false } } = _
  rw [endEvent_fst]
  rfl

theorem essentials_stopRecording_snd : essentials (t.stopRecording a).2 = t.closing := by
  show essentials (t.say _ _ :: (t.endEvent a).2 ++
    stopTargets ((t.endEvent a).1.fireStop a).1.targets ++ ((t.endEvent a).1.fireStop a).2 ++
    [.setMotion false]) = _
  simp only [endEvent_fst]
  simp [essentials_endEvent_snd, closing]
  rfl

theorem onMotion_fst (panTilt : Bool) (remember : String) (starts : Bool) :
    (t.onMotion a f d panTilt remember starts).1 =
      { t with
        event := t.eventAfter a (.motion starts)
        onStart := (t.onStart.fire "" (a.launch .start)).1 } := by
  cases starts with
  | false => rfl
  | true =>
    show ((t.fireStart a).1.beginEvent a f d panTilt remember).1 = _
    rw [beginEvent_fst]
    rfl

theorem essentials_onMotion_snd (panTilt : Bool) (remember : String) (starts : Bool) :
    essentials (t.onMotion a f d panTilt remember starts).2 =
      [.setMotion true, .notify t.source] ++
        if starts then [.beginEvent t.id (if d.triggered then .motion else .audio) "motion start"]
        else [] := by
  cases starts with
  | false =>
    show essentials ([t.say _ _, .setMotion true, .notify t.source] ++ (t.fireStart a).2) = _
    simp
  | true =>
    show essentials ([t.say _ _, .setMotion true, .notify t.source] ++ (t.fireStart a).2 ++
      ((t.fireStart a).1.beginEvent a f d panTilt remember).2) = _
    simp [essentials_beginEvent_snd]
    rfl

/-! ## Counted frames -/

theorem follow_fst {v : Verdict} (panTilt : Bool) (remember : String)
    (hv : ∀ seen, v = .quiet seen true → t.counters.recording = false) :
    (t.follow a f d panTilt remember v).1 =
      { t with
        event := t.eventAfter a v
        onStart := t.onStartAfter a v
        onStop := t.onStopAfter a v } := by
  match v with
  | .muted _ | .gathering _ _ | .idle | .quiet _ false => rfl
  | .motion starts => exact onMotion_fst panTilt remember starts
  | .quiet seen true =>
    show (t.stopRecording a).1 = _
    rw [stopRecording_fst, ← hv seen rfl]
    rfl

/-- The essential actions that follow a verdict, without the ones that start the targets. -/
theorem essentials_follow_snd {v : Verdict} (panTilt : Bool) (remember : String) :
    essentials (t.follow a f d panTilt remember v).2 =
      match v with
      | .motion starts =>
        [.setMotion true, .notify t.source] ++
          if starts then
            [.beginEvent t.id (if d.triggered then .motion else .audio) "motion start"]
          else []
      | .quiet _ true => t.closing
      | _ => [] := by
  match v with
  | .muted last =>
    show essentials (t.say _ _ :: if last && panTilt then [.turn 0.0 0.0] else []) = []
    split <;> simp
  | .gathering _ _ | .idle | .quiet _ false => rfl
  | .motion starts => exact essentials_onMotion_snd panTilt remember starts
  | .quiet seen true => exact essentials_stopRecording_snd

/-- The trigger after it has followed the verdict on a frame and kept the frame. -/
def followed (t : MotionTrigger) (a : Answers) (p : MotionParameters) (f : Frame) (d : Detection)
    (allow : Bool) : MotionTrigger × List Action :=
  let v := (t.judge a p d allow).2
  let r := { t with counters := (t.judge a p d allow).1 }.follow a f d
    (p.panTilt && t.steerable) p.remember v
  ({ r.1 with prerecord := r.1.prerecord.push f p.capacity }, r.2)

theorem countFrame_eq :
    t.countFrame a p f d allow =
      if startsTargets (t.judge a p d allow).2 then
        ({ (t.followed a p f d allow).1 with prerecord := .empty },
          (t.followed a p f d allow).2 ++ startTargets (t.followed a p f d allow).1.targets
            (t.followed a p f d allow).1.prerecord.toList (t.followed a p f d allow).1.event)
      else t.followed a p f d allow := rfl

theorem followed_fst :
    (t.followed a p f d allow).1 =
      { t with
        counters := (t.judge a p d allow).1
        event := t.eventAfter a (t.judge a p d allow).2
        onStart := t.onStartAfter a (t.judge a p d allow).2
        onStop := t.onStopAfter a (t.judge a p d allow).2
        prerecord := t.kept p f } := by
  have h := follow_fst (t := { t with counters := (t.judge a p d allow).1 }) (a := a) (f := f)
    (d := d) (v := (t.judge a p d allow).2) (p.panTilt && t.steerable) p.remember
    fun _ h => Counters.recording_of_stops h
  unfold followed
  simp only [h]
  rfl

/-- What a counted frame leaves behind. -/
theorem countFrame_fst :
    (t.countFrame a p f d allow).1 =
      { t with
        counters := (t.judge a p d allow).1
        event := t.eventAfter a (t.judge a p d allow).2
        onStart := t.onStartAfter a (t.judge a p d allow).2
        onStop := t.onStopAfter a (t.judge a p d allow).2
        prerecord := t.keptAfter p f (t.judge a p d allow).2 } := by
  rw [countFrame_eq]
  unfold keptAfter
  split
  · simp only [followed_fst]
  · exact followed_fst

/-- What a counted frame has done. -/
theorem essentials_countFrame_snd :
    essentials (t.countFrame a p f d allow).2 =
      t.deeds a d (t.kept p f).toList (t.judge a p d allow).2 := by
  have hf : essentials (t.followed a p f d allow).2 = _ := essentials_follow_snd ..
  rw [countFrame_eq]
  match hv : (t.judge a p d allow).2 with
  | .muted _ | .gathering _ _ | .idle | .quiet _ false | .quiet _ true | .motion false =>
    rw [hv] at hf
    exact hf
  | .motion true =>
    rw [hv] at hf
    simp only [startsTargets, if_true, essentials_append, hf, followed_fst, hv]
    simp
    rfl

/-! ## Calls -/

/-- A frame was counted: the detector saw `d` in it, and `p` was looked up for it. -/
structure Counted (t : MotionTrigger) (a : Answers) (f : Frame) (allow : Bool)
    (t' : MotionTrigger) (actions : List Action) (d : Detection) (p : MotionParameters) : Prop where
  sized : t.resized? f = none
  compared : ∃ writes, t.detector.process a.params f = .ok (t'.detector, d, writes)
  read : MotionParameters.read a.params = .ok p
  left : t' =
    { t with
      detector := t'.detector
      counters := (t.judge a p d allow).1
      event := t.eventAfter a (t.judge a p d allow).2
      onStart := t.onStartAfter a (t.judge a p d allow).2
      onStop := t.onStopAfter a (t.judge a p d allow).2
      prerecord := t.keptAfter p f (t.judge a p d allow).2 }
  done : essentials actions =
    .takeSignal :: t.deeds a d (t.kept p f).toList (t.judge a p d allow).2

theorem Counted.detection?_eq {p : MotionParameters} (h : t.Counted a f allow t' actions d p) :
    t.detection? a f = some d := by
  obtain ⟨writes, hw⟩ := h.compared
  simp [detection?, h.sized, hw]

theorem essentials_writes (writes : List MetaWrite) : essentials (writes.map .publish) = [] :=
  essentials_eq_nil fun a h => by
    obtain ⟨w, -, rfl⟩ := List.mem_map.mp h
    rfl

/-- **What a call that returns has done.** The frame was skipped, or it was counted. -/
theorem processFrame_cases (h : t.processFrame a f allow = .ok (t', actions)) :
    (t.detection? a f = none ∧ t' = t ∧ essentials actions = []) ∨
      ∃ d p, t.Counted a f allow t' actions d p := by
  unfold processFrame at h
  split at h
  · cases h
  · next hr =>
    have h := mapError_eq_ok_iff.mp h
    unfold examine at h
    cases hp : t.detector.process a.params f with
    | error e =>
      rw [hp] at h
      cases e with
      | crashed cause => cases h
      | failed e =>
        obtain ⟨rfl, rfl⟩ := Prod.mk.inj (Except.ok.inj h)
        exact .inl ⟨by simp [detection?, hr, hp], rfl, rfl⟩
    | ok r =>
      obtain ⟨detector, d, writes⟩ := r
      simp only [hp] at h
      cases hm : MotionParameters.read a.params with
      | error e =>
        rw [hm] at h
        cases h
      | ok p =>
        rw [hm, mapError_ok, ok_bind] at h
        obtain ⟨rfl, rfl⟩ := Prod.mk.inj (Except.ok.inj h)
        refine .inr ⟨d, p, hr, ⟨writes, ?_⟩, hm, ?_, ?_⟩
        · rw [countFrame_fst]; exact hp
        · rw [countFrame_fst]; rfl
        · rw [essentials_append, essentials_writes, essentials_takeSignal,
            essentials_countFrame_snd]
          rfl

/-- A call fails exactly on a frame of another size. -/
theorem processFrame_failed {r : Resized} (h : t.processFrame a f allow = .error (.failed r)) :
    t.resized? f = some r := by
  unfold processFrame at h
  split at h
  · next hr => cases h; exact hr
  · cases hx : t.examine a f allow with
    | error cause =>
      rw [hx] at h
      cases h
    | ok result =>
      rw [hx] at h
      cases h

/-! ## Sizes -/

section Sizes

variable {size : Nat × Nat}

theorem resized?_of_ne (hd : t.detector.dim = some size) (h : f.dim ≠ size) :
    t.resized? f = some ⟨size.1, size.2, f.width, f.height⟩ := by
  unfold resized?
  rw [hd]
  exact if_neg h

/-- A frame has another size than the one that was learned, or it has not. -/
theorem resized?_eq_none_iff (hd : t.detector.dim = some size) :
    t.resized? f = none ↔ f.dim = size := by
  constructor
  · intro h
    by_cases heq : f.dim = size
    · exact heq
    · rw [resized?_of_ne hd heq] at h
      cases h
  · intro heq
    unfold resized?
    rw [hd]
    exact if_pos heq

theorem resized?_eq_some {e : Resized} (hd : t.detector.dim = some size)
    (h : t.resized? f = some e) : f.dim ≠ size ∧ e = ⟨size.1, size.2, f.width, f.height⟩ := by
  have hne : f.dim ≠ size := by
    intro heq
    rw [(resized?_eq_none_iff hd).mpr heq] at h
    cases h
  rw [resized?_of_ne hd hne] at h
  exact ⟨hne, (Option.some.inj h).symm⟩

/-- A frame that is not refused has the size that was learned. -/
theorem resized?_of_ne_failed {r : Except (Fault Resized) (MotionTrigger × List Action)}
    (h : t.processFrame a f allow = r) (hr : ∀ e, r ≠ .error (.failed e)) :
    t.resized? f = none := by
  cases hsize : t.resized? f with
  | none => rfl
  | some e =>
    rw [processFrame, hsize] at h
    exact absurd h.symm (hr e)

end Sizes

/-! ## The end -/

/-- The trigger without the frames that were kept, after a recording was stopped. -/
def stopped (t : MotionTrigger) (a : Answers) : MotionTrigger × List Action :=
  if t.counters.recording then { t with prerecord := .empty }.stopRecording a
  else ({ t with prerecord := .empty }, [])

theorem shutdown_eq :
    t.shutdown a =
      ((t.stopped a).1.joinScripts.1,
        (t.stopped a).2 ++ (t.stopped a).1.joinScripts.2 ++ [.stopSource]) := rfl

/-- What the end of all leaves behind. -/
theorem shutdown_fst :
    (t.shutdown a).1 =
      { t with
        prerecord := .empty
        counters := { t.counters with recording := false }
        event := if t.counters.recording then none else t.event
        onStart := t.onStart.join.1
        onStop := (if t.counters.recording then (t.onStop.fire "" (a.launch .stop)).1
          else t.onStop).join.1 } := by
  rw [shutdown_eq, stopped]
  by_cases h : t.counters.recording
  · simp only [h, if_true, stopRecording_fst]
    rfl
  · simp only [h, Bool.false_eq_true, if_false]
    rw [show { t.counters with recording := false } = t.counters by
      cases hc : t.counters; simp_all]
    rfl

/-- What the end of all has done. -/
theorem essentials_shutdown_snd :
    essentials (t.shutdown a).2 =
      (if t.counters.recording then t.closing else []) ++ [.stopSource] := by
  rw [shutdown_eq, stopped]
  split
  · simp [essentials_stopRecording_snd, closing]
  · simp

end MotionTrigger

end MotionWatch
