import MotionWatch.Proofs.Trigger.History
import MotionWatch.Proofs.Trigger.Outline
import MotionWatch.Proofs.Trigger.Post

/-!
# A camera that is turned

A motion trigger can turn its camera towards the motion that begins a recording. It turns the
camera back when it has ignored as many frames as it should after a recording.

* `Gimbal`: a motion trigger and the angle that it commanded last. `Gimbal.meets`: calls.
* `Notice`: what a call meant for the camera. `restingAngle`: where the camera points then, told
  without any counters.
* `Poised`: the camera points where the notices say, or is going to be turned back there.
  `Poised.advance`: counting a frame keeps that; `poised_meet`: so does every call.
* `angle_eq_restingAngle`: an idle trigger has left its camera where the notices say, and that is
  straight ahead if frames were ignored after each recording.
* `turned_at_rest`: without that, the camera stays turned.
-/

namespace MotionWatch

/-- The angle that a camera is turned to. -/
def Action.angle? : Action → Option (Float × Float)
  | .turn pan tilt => some (pan, tilt)
  | _ => none

/-- The last angle that a camera is turned to. -/
def angleOf? (actions : List Action) : Option (Float × Float) :=
  (actions.filterMap Action.angle?).getLast?

/-- Straight ahead. -/
def neutral : Float × Float := (0.0, 0.0)

/-! ## Notices -/

/-- What a call meant for a camera. -/
inductive Notice where
  /-- A recording began, and perhaps the camera was turned. -/
  | begins (angle : Option (Float × Float))
  /-- A recording ended, and so many frames are to be ignored. -/
  | ends (mute : Int)
  | other
  deriving DecidableEq

/-- What it means to go from recording, or not, to recording, or not. -/
def Notice.ofTurn (mute : Int) (angle : Option (Float × Float)) : Bool → Bool → Notice
  | false, true => .begins angle
  | true, false => .ends mute
  | _, _ => .other

/-- Where a camera is at rest after a notice. -/
def Notice.rest (angle : Float × Float) : Notice → Float × Float
  | begins turned => turned.getD angle
  | ends mute => if 0 < mute then neutral else angle
  | other => angle

/-- Where a camera is at rest that pointed straight ahead at first. -/
def restingAngle (notices : List Notice) : Float × Float := notices.foldl Notice.rest neutral

theorem restingAngle_concat (notices : List Notice) (n : Notice) :
    restingAngle (notices ++ [n]) = n.rest (restingAngle notices) := List.foldl_append ..

theorem Notice.ofTurn_self (mute : Int) (angle : Option (Float × Float)) (recording : Bool) :
    Notice.ofTurn mute angle recording recording = .other := by
  cases recording <;> rfl

/-! ## Angles -/

/-- Where a verdict turns a camera, if motion would turn it to `steered`. -/
def Verdict.angle? (steered : Option (Float × Float)) : Verdict → Option (Float × Float)
  | .muted last => if last then some neutral else none
  | .motion true => steered
  | _ => none

namespace MotionTrigger

variable {t : MotionTrigger} {a : Answers} {p : MotionParameters} {f : Frame} {d : Detection}

theorem readsOutline_angle? : ReadsOutline Action.angle? := by
  intro c hc x hx
  cases x with
  | turn pan tilt =>
    subst hx
    exact absurd hc (show Concern.angle ∉ _ by decide)
  | _ => rfl

theorem angles_ofScript (hook : Hook) (calls : List ScriptCall) :
    (calls.map (Action.ofScript hook)).filterMap Action.angle? = [] := by
  refine List.filterMap_eq_nil_iff.mpr fun x hx => ?_
  obtain ⟨call, -, rfl⟩ := List.mem_map.mp hx
  cases call <;> rfl

/-- The verdict that begins a recording turns the camera towards the motion. -/
theorem angleOf?_outline_begins : angleOf? (t.outline a p f d (.motion true)) =
    angleOf? (t.steering a f d (p.panTilt && t.steerable)) := by
  have hfired : (t.fireStart a).2.filterMap Action.angle? = [] := angles_ofScript ..
  show (((t.fireStart a).2 ++ _ :: t.steering a f d _).filterMap Action.angle?).getLast? = _
  rw [List.filterMap_append, hfired]
  rfl

/-- A verdict turns the camera as it should. -/
theorem angleOf?_outline (hpan : (p.panTilt && t.steerable) = true) (v : Verdict) :
    angleOf? (t.outline a p f d v) = v.angle? (angleOf? (t.steering a f d true)) := by
  have hfired : (t.fireStart a).2.filterMap Action.angle? = [] := angles_ofScript ..
  have hstopped : (t.fireStop a).2.filterMap Action.angle? = [] := angles_ofScript ..
  match v with
  | .muted last =>
    rw [outline, hpan, Bool.and_true]
    cases last <;> rfl
  | .gathering _ _ | .idle | .quiet _ false => rfl
  | .motion false =>
    show (((t.fireStart a).2 ++ []).filterMap Action.angle?).getLast? = none
    rw [List.append_nil, hfired]
    rfl
  | .motion true => rw [angleOf?_outline_begins, hpan, Verdict.angle?]
  | .quiet _ true =>
    show ((t.windingUp a).filterMap Action.angle?).getLast? = none
    rw [windingUp, List.filterMap_append, List.filterMap_append, hstopped]
    cases t.event <;> rfl

end MotionTrigger

/-! ## Counting -/

/-- The camera points where the notices say, or is going to be turned back there. -/
structure Poised (c : Counters) (angle : Float × Float) (notices : List Notice) : Prop where
  sane : c.Sane
  rests : c.mute = 0 → angle = restingAngle notices
  muted : 0 < c.mute → restingAngle notices = neutral
  /-- If frames were ignored after each recording, it is turned back after the last one. -/
  ended : c.recording = false → (∀ mute, .ends mute ∈ notices → 0 < mute) →
    restingAngle notices = neutral

namespace Poised

variable {c c' : Counters} {angle : Float × Float} {notices : List Notice}

theorem zero : Poised .zero neutral [] :=
  ⟨Counters.sane_zero, fun _ => rfl, fun _ => rfl, fun _ _ => rfl⟩

/-- Where nothing begins or ends, only turning the camera back changes something. -/
theorem other (h : Poised c angle notices) (sane : c'.Sane) (hrec : c'.recording = c.recording)
    {angle' : Float × Float} (hrests : c'.mute = 0 → angle' = restingAngle notices)
    (hmuted : 0 < c'.mute → 0 < c.mute) : Poised c' angle' (notices ++ [.other]) := by
  have hsame : restingAngle (notices ++ [.other]) = restingAngle notices := restingAngle_concat ..
  refine ⟨sane, ?_, ?_, ?_⟩
  · rw [hsame]
    exact hrests
  · rw [hsame]
    exact fun hpos => h.muted (hmuted hpos)
  · rw [hsame, hrec]
    exact fun hrest hpos => h.ended hrest fun mute hmem => hpos mute (List.mem_append_left _ hmem)

/-- **Counting a frame leaves a camera poised** that is turned as the verdict says. -/
theorem advance {limits : Limits} {active : Bool} {v : Verdict} (h : Poised c angle notices)
    (sane : c'.Sane) (ha : c.Advances limits active c' v) (steered : Option (Float × Float)) :
    Poised c' ((v.angle? steered).getD angle)
      (notices ++ [.ofTurn limits.muteDuration (v.angle? steered) c.recording c'.recording]) := by
  have hzero : c.mute ≤ 0 → c.mute = 0 := fun hle => Int.le_antisymm hle h.sane.mute
  cases ha with
  | muted hpos =>
    rw [Notice.ofTurn_self]
    refine h.other sane rfl (fun hlast => ?_) fun _ => hpos
    have hlast : c.mute - 1 = 0 := hlast
    rw [h.muted hpos, hlast]
    rfl
  | gathering hle few | quiet hle running few | idle hle resting =>
    rw [Notice.ofTurn_self]
    exact h.other sane rfl (fun _ => h.rests (hzero hle)) id
  | motion hle enough =>
    cases hrec : c.recording with
    | true => exact h.other sane hrec.symm (fun _ => h.rests (hzero hle)) id
    | false =>
      refine ⟨sane, fun _ => ?_, fun hpos => absurd hpos (Int.not_lt.mpr hle), nofun⟩
      rw [restingAngle_concat, h.rests (hzero hle)]
      rfl
  | stop hle running enough =>
    rw [running]
    refine ⟨sane, fun hnone => ?_, fun hpos => ?_, fun _ hpos => ?_⟩
    · have hmute : ¬ 0 < limits.muteDuration := by
        have hmax : max limits.muteDuration 0 = 0 := hnone
        omega
      rw [restingAngle_concat, h.rests (hzero hle)]
      exact (if_neg hmute).symm
    · have hmute : 0 < limits.muteDuration := by
        have hmax : 0 < max limits.muteDuration 0 := hpos
        omega
      rw [restingAngle_concat]
      exact if_pos hmute
    · rw [restingAngle_concat]
      exact if_pos (hpos limits.muteDuration (List.mem_append_right _ (List.mem_singleton.mpr rfl)))

end Poised

/-! ## Calls -/

/-- A motion trigger, and the angle that it commanded last. -/
structure Gimbal where
  trigger : MotionTrigger
  commanded : Option (Float × Float)

namespace Gimbal

/-- The angle of the camera. -/
def angle (g : Gimbal) : Float × Float := g.commanded.getD neutral

/-- What a call that returns meant for the camera. -/
def notice (g : Gimbal) (a : Answers) (step : MotionTrigger × List Action) : Notice :=
  .ofTurn ((a.params.getInt ParameterName.muteDuration).toOption.getD 0) (angleOf? step.2)
    g.trigger.counters.recording step.1.counters.recording

/-- What a call does, unless the program crashes. A call that fails does nothing. -/
def meet (g : Gimbal) (c : Call) : Except (Option Misuse) (Notice × Gimbal) :=
  match g.trigger.processFrame c.answers c.frame c.allow with
  | .ok step => .ok (g.notice c.answers step, ⟨step.1, (angleOf? step.2).or g.commanded⟩)
  | .error (.failed _) => .ok (.other, g)
  | .error (.crashed cause) => .error cause

/-- What calls do one after the other: all notices, and the gimbal at last. -/
def meets (g : Gimbal) : List Call → List Notice × Except (Option Misuse) Gimbal
  | [] => ([], .ok g)
  | c :: cs =>
    match g.meet c with
    | .ok (n, g) => (n :: (g.meets cs).1, (g.meets cs).2)
    | .error e => ([], .error e)

variable {g g' : Gimbal} {notices : List Notice} {c : Call} {cs : List Call} {n : Notice}

/-- **A call leaves a camera poised.** -/
theorem poised_meet (h : Poised g.trigger.counters g.angle notices)
    (steerable : g.trigger.steerable = true)
    (hpan : c.answers.params.getBool ParameterName.panTilt = .ok true)
    (hc : g.meet c = .ok (n, g')) :
    Poised g'.trigger.counters g'.angle (notices ++ [n]) ∧ g'.trigger.steerable = true := by
  unfold meet at hc
  split at hc
  · next step hstep =>
    obtain ⟨t, actions⟩ := step
    cases hc
    have hangle : ∀ turned : Option (Float × Float),
        (turned.or g.commanded).getD neutral = turned.getD g.angle := by
      intro turned
      cases turned <;> rfl
    show Poised t.counters (((angleOf? actions).or g.commanded).getD neutral) _ ∧ _
    rw [hangle]
    obtain ⟨rfl, hnil⟩ | ⟨d, p, hcounted, hread⟩ :=
      MotionTrigger.readsOutline_angle?.processFrame hstep
    · have hnone : angleOf? actions = none := by
        rw [angleOf?, hnil]
        rfl
      refine ⟨?_, steerable⟩
      rw [notice, Notice.ofTurn_self, hnone]
      exact h.other h.sane rfl h.rests id
    · have found := MotionParameters.of_read hcounted.read
      have hpanTilt : (p.panTilt && g.trigger.steerable) = true := by
        rw [← Except.ok.inj (hpan.symm.trans found.panTilt), steerable]
        rfl
      have hturned : angleOf? actions = _ :=
        (congrArg List.getLast? hread).trans (MotionTrigger.angleOf?_outline hpanTilt _)
      have hcounters : t.counters = (g.trigger.judge c.answers p d c.allow).1 := by
        rw [hcounted.left]
      refine ⟨?_, ?_⟩
      · rw [notice, found.muteDuration, hturned, hcounters]
        exact h.advance (Counters.sane_advance h.sane ..) (Counters.advances ..) _
      · rw [hcounted.left]
        exact steerable
  · cases hc
    exact ⟨h.other h.sane rfl h.rests id, steerable⟩
  · cases hc

theorem poised_meets (h : Poised g.trigger.counters g.angle notices)
    (steerable : g.trigger.steerable = true)
    (hpan : ∀ c ∈ cs, c.answers.params.getBool ParameterName.panTilt = .ok true)
    (hcs : (g.meets cs).2 = .ok g') :
    Poised g'.trigger.counters g'.angle (notices ++ (g.meets cs).1) := by
  induction cs generalizing g notices with
  | nil =>
    cases hcs
    show Poised _ _ (notices ++ [])
    rw [List.append_nil]
    exact h
  | cons c cs ih =>
    unfold meets at hcs ⊢
    split at hcs
    · next n next hc =>
      obtain ⟨hnext, steerable⟩ := poised_meet h steerable (hpan c List.mem_cons_self) hc
      rw [List.append_cons]
      exact ih hnext steerable (fun c hmem => hpan c (List.mem_cons_of_mem _ hmem)) hcs
    · cases hcs

/-- **Where an idle trigger leaves its camera.** When it neither records nor ignores frames, the
camera points where the recording turned it after which no frames were ignored. If frames were
ignored after each recording, it points straight ahead. -/
theorem angle_eq_restingAngle (t : MotionTrigger) (fresh : t.counters = .zero)
    (steerable : t.steerable = true)
    (hpan : ∀ c ∈ cs, c.answers.params.getBool ParameterName.panTilt = .ok true)
    (hcs : (meets ⟨t, none⟩ cs).2 = .ok g)
    (hrest : g.trigger.counters.recording = false) (hmute : g.trigger.counters.mute = 0) :
    let notices := (meets ⟨t, none⟩ cs).1
    g.angle = restingAngle notices ∧
      ((∀ mute, .ends mute ∈ notices → 0 < mute) →
        g.commanded = none ∨ g.commanded = some neutral) := by
  intro notices
  have hfresh : Poised t.counters (angle ⟨t, none⟩) [] := fresh ▸ .zero
  have h : Poised g.trigger.counters g.angle ([] ++ notices) :=
    poised_meets hfresh steerable hpan hcs
  rw [List.nil_append] at h
  refine ⟨h.rests hmute, fun hpos => ?_⟩
  have hneutral : g.commanded.getD neutral = neutral := (h.rests hmute).trans (h.ended hrest hpos)
  cases hg : g.commanded with
  | none => exact .inl rfl
  | some angle =>
    rw [hg] at hneutral
    exact .inr (congrArg some hneutral)

/-- A trigger that can turn its camera. -/
def eye : MotionTrigger :=
  { MotionTrigger.create "hall" "lens" (.builtin fun _ => none) with steerable := true }

/-- A light goes on at the edge of a dark row and stays on. A recording does not survive a quiet
frame, and so many frames are ignored after that. -/
def lightGoesOn (mute : Int64) : List Call :=
  let params := motionDefaults.applyOverrides [(ParameterName.panTilt, .bool true),
    (ParameterName.minDuration, .int 0), (ParameterName.muteDuration, .int mute)]
  let answers : Answers := ⟨params.1, false, false, neutral, .ok 3, fun _ => .ok (),
    fun _ => .refused ""⟩
  let dark : Frame := ⟨1, 4, 1, .rgb, [0, 0, 0, 0, 0, 0, 0, 0, 0, 0, 0, 0], by decide⟩
  let light : Frame := ⟨2, 4, 1, .rgb, [0, 0, 0, 0, 0, 0, 0, 0, 0, 255, 255, 255], by decide⟩
  [dark, light, light, light].map fun f => ⟨answers, f, true⟩

theorem panTilt_lightGoesOn (mute : Int64) :
    ∀ c ∈ lightGoesOn mute, c.answers.params.getBool ParameterName.panTilt = .ok true := by
  intro c hc
  obtain ⟨f, -, rfl⟩ := List.mem_map.mp hc
  rfl

/-- When a frame is ignored after the recording, the camera is turned back. -/
theorem angle_eq_restingAngle_lightGoesOn :
    ∃ g, (meets ⟨eye, none⟩ (lightGoesOn 1)).2 = .ok g ∧
      .begins (some (135.0, 0.0)) ∈ (meets ⟨eye, none⟩ (lightGoesOn 1)).1 ∧
      g.trigger.counters.recording = false ∧ g.trigger.counters.mute = 0 ∧
      g.angle = restingAngle (meets ⟨eye, none⟩ (lightGoesOn 1)).1 ∧
      (g.commanded = none ∨ g.commanded = some neutral) := by
  have hnotices : (meets ⟨eye, none⟩ (lightGoesOn 1)).1 =
      [.other, .begins (some (135.0, 0.0)), .ends 1, .other] := by decide +kernel
  have hlast : (meets ⟨eye, none⟩ (lightGoesOn 1)).2.toOption.map (fun g => g.trigger.counters) =
      some ⟨false, 0, 1, 0⟩ := by decide +kernel
  cases hg : (meets ⟨eye, none⟩ (lightGoesOn 1)).2 with
  | error e =>
    rw [hg] at hlast
    cases hlast
  | ok g =>
    rw [hg] at hlast
    have hcounters : g.trigger.counters = ⟨false, 0, 1, 0⟩ := Option.some.inj hlast
    have hrest : g.trigger.counters.recording = false := by rw [hcounters]
    have hmute : g.trigger.counters.mute = 0 := by rw [hcounters]
    obtain ⟨hangle, hback⟩ :=
      angle_eq_restingAngle eye rfl rfl (panTilt_lightGoesOn 1) hg hrest hmute
    refine ⟨g, rfl, ?_, hrest, hmute, hangle, hback ?_⟩
    · rw [hnotices]
      exact List.mem_cons_of_mem _ List.mem_cons_self
    · intro mute hmem
      rw [hnotices] at hmem
      simp only [List.mem_cons, Notice.ends.injEq, reduceCtorEq, List.not_mem_nil, or_false,
        false_or] at hmem
      rw [hmem]
      exact Int.one_pos

/-- When no frame is ignored after the recording, the camera stays turned. -/
theorem turned_at_rest :
    (∀ c ∈ lightGoesOn 0, c.answers.params.getBool ParameterName.panTilt = .ok true) ∧
      ∃ g, (meets ⟨eye, none⟩ (lightGoesOn 0)).2 = .ok g ∧
        g.trigger.counters.recording = false ∧ g.trigger.counters.mute = 0 ∧
        g.commanded ≠ none ∧ g.commanded ≠ some neutral := by
  have hlast : (meets ⟨eye, none⟩ (lightGoesOn 0)).2.toOption.map
      (fun g => (g.trigger.counters, g.commanded)) =
        some (⟨false, 0, 1, 0⟩, some (135.0, 0.0)) := by decide +kernel
  refine ⟨panTilt_lightGoesOn 0, ?_⟩
  cases hg : (meets ⟨eye, none⟩ (lightGoesOn 0)).2 with
  | error e =>
    rw [hg] at hlast
    cases hlast
  | ok g =>
    rw [hg] at hlast
    obtain ⟨hcounters, hcommanded⟩ := Prod.mk.inj (Option.some.inj hlast)
    refine ⟨g, rfl, by rw [hcounters], by rw [hcounters], ?_, ?_⟩
    · rw [hcommanded]
      exact Option.some_ne_none _
    · rw [hcommanded]
      decide +kernel

end Gimbal

end MotionWatch
