import MotionWatch.Proofs.Detection.Workbench
import MotionWatch.Proofs.Trigger.Post

/-!
# Frames that lead to nothing

A motion trigger that has learned a size can be shown a frame of another size, a frame that cannot
be converted, or one on which its plugin fails.

* `Futile`: such a frame, with the reply to it. `exists_futile`: there is no other way in which a
  detector fails on a frame.
* `Post.remembers_meets`: a trigger that remembers a frame always remembers one.
* `Post.meet_of_futile`: a futile frame changes nothing at a post.
* `Post.meets_of_futile`: the trigger does nothing about it, and goes on as if it had never come.
-/

namespace MotionWatch

/-- A frame on which a trigger with the reference `prev` fails, and the reply to it. -/
inductive Futile (t : MotionTrigger) (params : ParameterSet) (prev : Reference) (f : Frame) :
    Reply → Prop
  /-- The frame has another size. -/
  | resized (other : f.dim ≠ prev.dim) :
    Futile t params prev f (.refused ⟨prev.width, prev.height, f.width, f.height⟩)
  /-- The frame cannot be converted. -/
  | unconverted {e : FrameError} (same : f.dim = prev.dim)
    (fails : f.toRgb t.detector.decoder = .error e) :
    Futile t params prev f (.done [t.say .warn s!"skipping frame: {e.message}"])
  /-- The plugin fails. -/
  | unexamined {x : Plugin.ExternalDetector} {rgb : List UInt8} {panTilt : Bool}
    {e : Plugin.PluginError} (same : f.dim = prev.dim) (backend : t.detector.backend = .external x)
    (converted : f.toRgb t.detector.decoder = .ok rgb)
    (read : params.getBool ParameterName.panTilt = .ok panTilt)
    (fails : x.detect f.ts f.width f.height prev.rgb rgb
      ((t.detector.maskFor f.width f.height).1.map Array.toList) = .error (.failed e)) :
    Futile t params prev f (.done [t.say .warn s!"skipping frame: {e.message}"])

/-- A parameter that cannot be read is no failure. -/
theorem Fault.bind_ofRead_ne_failed {ε α β : Type} {e : ε} {r : Except Misuse α}
    {next : α → Except (Fault ε) β} (h : ∀ x, next x ≠ .error (.failed e)) :
    (Fault.ofRead r >>= next) ≠ .error (.failed e) := by
  cases r with
  | error m => exact fun hm => nomatch hm
  | ok x => exact h x

/-- Counting pixels does not fail. -/
theorem MotionDetector.detectBuiltin_ne_failed {params : ParameterSet} {panTilt : Bool}
    {mask : Option (Array Bool)} {cur prev : Reference} {e : DetectionError} :
    detectBuiltin params panTilt mask cur prev ≠ .error (.failed e) := by
  refine Fault.bind_ofRead_ne_failed fun noise => ?_
  refine Fault.bind_ofRead_ne_failed fun pattern => ?_
  cases statistics cur.width cur.height noise pattern panTilt mask cur.luma prev.luma with
  | none => exact fun h => nomatch h
  | some stats =>
  refine Fault.bind_ofRead_ne_failed fun low => ?_
  split
  · refine Fault.bind_ofRead_ne_failed fun high => ?_
    exact fun h => nomatch h
  · exact fun h => nomatch h

namespace MotionTrigger

variable {t : MotionTrigger} {a : Answers} {f : Frame} {allow : Bool} {prev : Reference}
  {e : DetectionError}

/-- A frame on which the detector fails is only logged. -/
theorem processFrame_of_failed (allow : Bool) (hsize : t.resized? f = none)
    (h : t.detector.process a.params f = .error (.failed e)) :
    t.processFrame a f allow = .ok (t, [t.say .warn s!"skipping frame: {e.message}"]) := by
  unfold processFrame examine
  rw [hsize, h]
  rfl

theorem processFrame_of_resized (h : t.detector.reference = some prev) (hdim : f.dim ≠ prev.dim) :
    t.processFrame a f allow =
      .error (.failed ⟨prev.width, prev.height, f.width, f.height⟩) := by
  unfold processFrame
  rw [resized?_of_ne (MotionDetector.dim_of_reference h) hdim]
  rfl

/-- **What a detector fails on is futile.** -/
theorem exists_futile {params : ParameterSet} (h : t.detector.reference = some prev)
    (hfail : t.detector.process params f = .error (.failed e)) :
    ∃ reply, Futile t params prev f reply := by
  have hcount : f.area ≤ maxCount := by
    refine Nat.not_lt.mp fun hlarge => ?_
    rw [MotionDetector.process_of_lt hlarge] at hfail
    cases hfail
  by_cases hdim : f.dim = prev.dim
  · rw [MotionDetector.process_of_reference h hcount] at hfail
    cases hrgb : f.toRgb t.detector.decoder with
    | error cause => exact ⟨_, .unconverted hdim hrgb⟩
    | ok rgb =>
      have hcur : Reference.ofFrame t.detector.decoder f = .ok (f.referenceOf rgb) :=
        Reference.ofFrame_eq_ok_iff.mpr ⟨rgb, hrgb, rfl⟩
      cases hpan : params.getBool ParameterName.panTilt with
      | error m =>
        rw [MotionDetector.compareWith_misuse hdim hrgb hpan] at hfail
        cases hfail
      | ok panTilt =>
        rw [MotionDetector.compareWith_eq hdim hcur hpan, MotionDetector.look] at hfail
        cases hb : t.detector.backend with
        | builtin =>
          rw [hb] at hfail
          dsimp only at hfail
          cases hd : MotionDetector.detectBuiltin params panTilt
              (t.detector.maskFor f.width f.height).1 (f.referenceOf rgb) prev with
          | error cause =>
            rw [hd] at hfail
            cases hfail
            exact absurd hd MotionDetector.detectBuiltin_ne_failed
          | ok seen =>
            rw [hd] at hfail
            cases hfail
        | external x =>
          rw [hb] at hfail
          dsimp only [MotionDetector.detectExternal, Frame.referenceOf] at hfail
          cases hx : x.detect f.ts f.width f.height prev.rgb rgb
              ((t.detector.maskFor f.width f.height).1.map Array.toList) with
          | error fault =>
            cases fault with
            | failed cause => exact ⟨_, .unexamined hdim hb hrgb hpan hx⟩
            | crashed cause =>
              rw [hx] at hfail
              cases hfail
          | ok seen =>
            rw [hx] at hfail
            cases hfail
  · exact ⟨_, .resized hdim⟩

end MotionTrigger

/-- The detector fails on a futile frame of the size that was learned. The reply says why. -/
theorem Futile.process {t : MotionTrigger} {params : ParameterSet} {f : Frame} {prev : Reference}
    {reply : Reply} (h : t.detector.reference = some prev) (hcount : f.area ≤ maxCount)
    (hdim : f.dim = prev.dim) (hf : Futile t params prev f reply) :
    ∃ e, t.detector.process params f = .error (.failed e) ∧
      reply = .done [t.say .warn s!"skipping frame: {e.message}"] := by
  rw [MotionDetector.process_of_reference h hcount]
  cases hf with
  | resized other => exact absurd hdim other
  | unconverted same fails =>
    exact ⟨_, MotionDetector.compareWith_unconverted same fails, rfl⟩
  | unexamined same backend converted read fails =>
    exact ⟨_, MotionDetector.compareWith_unexamined same backend converted read fails, rfl⟩

/-- A frame of another size is refused. -/
theorem Futile.reply_of_resized {t : MotionTrigger} {params : ParameterSet} {f : Frame}
    {prev : Reference} {reply : Reply} (hdim : f.dim ≠ prev.dim)
    (hf : Futile t params prev f reply) :
    reply = .refused ⟨prev.width, prev.height, f.width, f.height⟩ := by
  cases hf with
  | resized other => rfl
  | unconverted same fails => exact absurd same hdim
  | unexamined same backend converted read fails => exact absurd same hdim

namespace MotionDetector

/-- A frame of another size is not looked at, and if its pixels cannot be counted, that is what
stops the program. -/
theorem exists_process_of_resized {d : MotionDetector} {params : ParameterSet} {f : Frame}
    {prev : Reference} (h : d.reference = some prev) (hdim : f.dim ≠ prev.dim) :
    ∃ e, d.process params f = .error e := by
  by_cases hlarge : maxCount < f.area
  · exact ⟨_, process_of_lt hlarge⟩
  · rw [process_of_reference h (Nat.not_lt.mp hlarge)]
    exact ⟨_, compareWith_resized hdim⟩

end MotionDetector

namespace Post

variable {p p' p₀ : Post} {a : Answers} {f g : Frame} {prev : Reference} {reply : Reply}
  {os : List Occasion}

/-! ## Warm triggers -/

/-- **A trigger that remembers a frame always remembers one**, whatever comes. -/
theorem remembers_meet {o : Occasion} (h : ∃ g, p.trigger.detector.Remembers g)
    (ho : p.meet o = .ok (reply, p')) : ∃ g, p'.trigger.detector.Remembers g := by
  cases o with
  | frame a f allow =>
    unfold meet at ho
    dsimp only at ho
    split at ho
    · next step hstep =>
      cases ho
      obtain ⟨-, htrigger, -⟩ | ⟨d, params, hcounted⟩ := MotionTrigger.processFrame_cases hstep
      · rw [proceed, htrigger]
        exact h
      · obtain ⟨writes, hprocess⟩ := hcounted.compared
        exact ⟨f, MotionDetector.remembers_of_process hprocess⟩
    · cases ho
      exact h
    · cases ho
  | shutdown a =>
    cases ho
    rw [proceed, MotionTrigger.shutdown_fst]
    exact h
  | meanwhile change =>
    cases ho
    exact h

theorem remembers_meets (h : ∃ g, p₀.trigger.detector.Remembers g)
    (hos : (p₀.meets os).2 = .ok p) : ∃ g, p.trigger.detector.Remembers g := by
  induction os generalizing p₀ with
  | nil =>
    cases hos
    exact h
  | cons o os ih =>
    unfold meets at hos
    split at hos
    · cases hos
    · next reply q hq => exact ih (remembers_meet h hq) hos

/-! ## Futile frames -/

/-- **A futile frame changes nothing.** -/
theorem meet_of_futile (allow : Bool) (h : p.trigger.detector.reference = some prev)
    (hcount : f.dim = prev.dim → f.area ≤ maxCount)
    (hf : Futile p.trigger a.params prev f reply) :
    p.meet (.frame a f allow) = .ok (reply, p) := by
  unfold meet
  dsimp only
  by_cases hdim : f.dim = prev.dim
  · obtain ⟨e, hfail, rfl⟩ := hf.process h (hcount hdim) hdim
    have hprocess := MotionTrigger.processFrame_of_failed (a := p.consult a) allow
      ((MotionTrigger.resized?_eq_none_iff (MotionDetector.dim_of_reference h)).mpr hdim) hfail
    rw [hprocess]
    rfl
  · rw [MotionTrigger.processFrame_of_resized h hdim, hf.reply_of_resized hdim]

/-- **A futile frame might as well never have come**, after any occasions since the trigger got a
first frame to remember. The trigger says in the log that it skips the frame, or it refuses the
frame. It calls nobody else, it is what it was, and all that follows is what would have followed
without the frame. It does not matter if the detector works in place. -/
theorem meets_of_futile (warm : ∃ g, p₀.trigger.detector.Remembers g)
    (hos : (p₀.meets os).2 = .ok p) :
    ∃ prev, p.trigger.detector.reference = some prev ∧
      ∀ a f allow reply, Futile p.trigger a.params prev f reply →
        p.meet (.frame a f allow) = .ok (reply, p) ∧
        (∀ actions, reply = .done actions → ∀ x ∈ actions, x.concern = .log) ∧
        (∀ later : List Occasion, p.meets (.frame a f allow :: later) =
          (reply :: (p.meets later).1, (p.meets later).2)) ∧
        ∀ mask b, Workbench.Represents mask b p.trigger.detector →
          (b.process a.params f).2.Represents mask p.trigger.detector := by
  obtain ⟨g, hg⟩ := remembers_meets warm hos
  obtain ⟨rgb, -, hreference⟩ := id hg
  refine ⟨g.referenceOf rgb, hreference, fun a f allow reply hf => ?_⟩
  have hcount : f.dim = (g.referenceOf rgb).dim → f.area ≤ maxCount := hg.area_le
  have hmeet : p.meet (.frame a f allow) = .ok (reply, p) :=
    meet_of_futile allow hreference hcount hf
  refine ⟨hmeet, ?_, ?_, ?_⟩
  · rintro actions rfl x hx
    cases hf with
    | unconverted _ _ | unexamined _ _ _ _ _ =>
      rw [List.mem_singleton.mp hx]
      rfl
  · intro later
    rw [meets, hmeet]
  · intro mask b hb
    obtain ⟨e, hfail⟩ : ∃ e, p.trigger.detector.process a.params f = .error e := by
      by_cases hdim : f.dim = (g.referenceOf rgb).dim
      · obtain ⟨e, hfail, -⟩ := hf.process hreference (hcount hdim) hdim
        exact ⟨_, hfail⟩
      · exact MotionDetector.exists_process_of_resized hreference hdim
    have hagree := Workbench.agree_process hb a.params f
    rw [hfail] at hagree
    generalize b.process a.params f = r at hagree
    cases hagree with
    | error h' => exact h'

/-- A dark frame. -/
def dusk : Frame := .flat 1 Frame.paintable_one 0

/-- The trigger in the hall when it has seen the dark. -/
def darkHall : Post :=
  let detector : MotionDetector :=
    ⟨fun _ => none, .builtin, none, some (dusk.referenceOf dusk.data)⟩
  { hall with trigger := { hall.trigger with detector } }

/-- A garbled frame does not keep the door from starting a recording. -/
theorem meets_of_futile_garbled :
    let answers : Answers := ⟨motionDefaults, false, false, (0.0, 0.0), .ok 3, fun _ => .ok (),
      fun _ => .refused ""⟩
    let garbled : Frame := ⟨2, 1, 1, .jpeg, [0], by decide⟩
    let skipped : Reply :=
      .done [darkHall.trigger.say .warn "skipping frame: undecodable JPEG data"]
    darkHall.trigger.detector.Remembers dusk ∧
      darkHall.meet (.frame answers garbled true) = .ok (skipped, darkHall) ∧
      (darkHall.meets (.frame answers garbled true :: doorOpens)).2 =
        (darkHall.meets doorOpens).2 := by
  intro answers garbled skipped
  have hdark : darkHall.trigger.detector.Remembers dusk := ⟨_, rfl, rfl⟩
  have hnothing : (darkHall.meets []).2 = .ok darkHall := rfl
  obtain ⟨prev, hprev, h⟩ := meets_of_futile ⟨dusk, hdark⟩ hnothing
  obtain rfl : dusk.referenceOf dusk.data = prev := Option.some.inj hprev
  have hfails : garbled.toRgb darkHall.trigger.detector.decoder = .error .undecodable := rfl
  have hfutile : Futile darkHall.trigger answers.params (dusk.referenceOf dusk.data) garbled
      skipped := .unconverted rfl hfails
  obtain ⟨hmeet, -, hlater, -⟩ := h answers garbled true skipped hfutile
  refine ⟨hdark, hmeet, ?_⟩
  rw [hlater doorOpens]

end Post

end MotionWatch
