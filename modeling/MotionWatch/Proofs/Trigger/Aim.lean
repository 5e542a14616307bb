import Mathlib.Algebra.Order.Field.Basic
import MotionWatch.Proofs.Detection.Counting
import MotionWatch.Proofs.Detection.Steering
import MotionWatch.Proofs.Frame.Grey
import MotionWatch.Proofs.Trigger.Gimbal

/-!
# Where a recording turns a camera

* `MotionDetector.exists_aim_eq`: the centre of motion and the part of the way to it are those of
  the pixels that have changed.
* `MotionTrigger.exists_aim_of_begins`: and so is the angle that a camera is turned to when a
  recording begins.
* `turned_between_iff`: it lies between the angle before and the one that points at the changes
  where these lie well, and only there.
* `turned_too_far`: changes at an edge for which it does not.
-/

namespace MotionWatch

/-! ## Detections -/

theorem ChangeStatistics.of_centroid_eq_some {width : Nat} {noise : Int}
    {mask : Option (Array Bool)} {distances : List UInt8} {c : Point Float}
    (h : (ofDistances width noise mask distances).centroid = some c) :
    let ps := changedPixels width noise mask distances
    ps ≠ [] ∧ c = MotionWatch.centroid ps ∧
      (ofDistances width noise mask distances).spread = some (MotionWatch.spread ps) := by
  unfold ofDistances at h ⊢
  dsimp only at h ⊢
  split at h
  · cases h
  · next hne =>
    rw [if_neg hne]
    exact ⟨List.isEmpty_iff.not.mp hne, (Option.some.inj h).symm, rfl⟩

namespace MotionDetector

variable {params : ParameterSet} {mask : Option (Array Bool)} {cur prev : Reference}
  {seen : Detection} {c : Point Float} {f : Frame} {d d' : MotionDetector}
  {writes : List MetaWrite}

/-- There are no more differences than pixels. -/
theorem length_differences_le {width height : Nat} {pattern : String}
    {cur prev distances : List UInt8} (hlength : cur.length = width * height)
    (h : differences width height pattern cur prev = some distances) :
    distances.length ≤ width * height := by
  unfold differences at h
  dsimp only at h
  split at h
  · rw [← Option.some.inj h, lumaDistances, List.length_zipWith, ← hlength]
    exact Nat.min_le_left ..
  · exact Nat.le_of_eq (length_of_despeckleValues h)

/-- **The camera is turned by the pixels that have changed.** -/
theorem exists_aim_eq (h : detectBuiltin params true mask cur prev = .ok seen)
    (hlength : cur.luma.length = cur.width * cur.height) (htriggered : seen.triggered = true)
    (hc : seen.stats.centroid = some c) (current : Float × Float) :
    ∃ ps : List (Nat × Nat), ps ≠ [] ∧ ps.Nodup ∧ (∀ p ∈ ps, p.1 < cur.width ∧ p.2 < cur.height) ∧
      steer c (cur.width, cur.height) current seen.factors =
        aim ps (cur.width, cur.height) current := by
  obtain ⟨⟨noise, pattern, hstats⟩, hfactors⟩ := of_detectBuiltin h
  rw [statistics, if_pos (by rw [Bool.or_true, Bool.true_or])] at hstats
  obtain ⟨distances, hdistances, hstats⟩ := Option.map_eq_some_iff.mp hstats
  rw [← hstats] at hc
  obtain ⟨hne, rfl, hspread⟩ := ChangeStatistics.of_centroid_eq_some hc
  refine ⟨_, hne, nodup_changedPixels,
    fun p hp => lt_of_mem_changedPixels (length_differences_le hlength hdistances) hp, ?_⟩
  rw [hfactors, htriggered, Bool.and_true, if_pos rfl, dampingFactors, ← hstats, hc, hspread]
  rfl

/-- Motion is seen in a comparison. -/
theorem detectBuiltin_of_triggered (hb : d.backend = .builtin)
    (hpan : params.getBool ParameterName.panTilt = .ok true)
    (h : d.process params f = .ok (d', seen, writes)) (htriggered : seen.triggered = true) :
    ∃ rgb mask prev, f.toRgb d.decoder = .ok rgb ∧
      detectBuiltin params true mask (f.referenceOf rgb) prev = .ok seen := by
  cases hprev : d.reference with
  | none =>
    obtain ⟨-, rfl, -⟩ := process_first hprev h
    cases htriggered
  | some prev =>
    obtain ⟨⟨-, rgb, panTilt, hrgb, hpanTilt, hlook, -⟩, -⟩ := process_later hprev h
    obtain rfl := Except.ok.inj (hpan.symm.trans hpanTilt)
    rw [look, hb] at hlook
    exact ⟨rgb, _, prev, hrgb, hlook⟩

end MotionDetector

/-! ## Calls -/

namespace MotionTrigger

variable {t t' : MotionTrigger} {a : Answers} {p : MotionParameters} {f : Frame} {d : Detection}
  {allow panTilt : Bool} {actions : List Action} {angle : Float × Float}

/-- A camera is turned towards motion, if that may be done and it is known where it is. -/
theorem of_angleOf?_steering (h : angleOf? (t.steering a f d panTilt) = some angle) :
    panTilt = true ∧ d.triggered = true ∧
      ∃ c, d.stats.centroid = some c ∧ angle = steer c f.dim a.angle d.factors := by
  unfold steering at h
  split at h
  · next c hc =>
    split at h
    · next hboth =>
      obtain ⟨hpan, htriggered⟩ := (Bool.and_eq_true ..).mp hboth
      exact ⟨hpan, htriggered, c, hc, (Option.some.inj h).symm⟩
    · cases h
  · cases h

/-- **When a recording begins the camera is turned by the pixels that have changed.** -/
theorem exists_aim_of_begins (hb : t.detector.backend = .builtin)
    (h : t.processFrame a f allow = .ok (t', actions)) (hrest : t.counters.recording = false)
    (hrec : t'.counters.recording = true) (hturn : angleOf? actions = some angle) :
    ∃ ps : List (Nat × Nat), ps ≠ [] ∧ ps.Nodup ∧ (∀ p ∈ ps, p.1 < f.width ∧ p.2 < f.height) ∧
      angle = aim ps f.dim a.angle := by
  obtain ⟨rfl, -⟩ | ⟨d, p, hcounted, hread⟩ := readsOutline_angle?.processFrame h
  · rw [hrest] at hrec
    cases hrec
  have hbegins : (t.judge a p d allow).2 = .motion true := by
    have hturns := t.counters.turns (a.isActive d allow) p.limits
    have hcounters : (t.judge a p d allow).1.recording = true := by
      rw [hcounted.left] at hrec
      exact hrec
    rw [hrest] at hturns
    change Verdict.Turns false (t.judge a p d allow).1.recording (t.judge a p d allow).2 at hturns
    rw [hcounters] at hturns
    generalize (t.judge a p d allow).2 = v at hturns
    cases hturns
    rfl
  rw [hbegins] at hread
  have hsteered : angleOf? (t.steering a f d (p.panTilt && t.steerable)) = some angle := by
    rw [← angleOf?_outline_begins, ← hturn]
    exact (congrArg List.getLast? hread).symm
  obtain ⟨hpan, htriggered, c, hc, rfl⟩ := of_angleOf?_steering hsteered
  obtain ⟨hpanTilt, -⟩ := (Bool.and_eq_true ..).mp hpan
  obtain ⟨writes, hprocess⟩ := hcounted.compared
  have hfound := (MotionParameters.of_read hcounted.read).panTilt
  rw [hpanTilt] at hfound
  obtain ⟨rgb, mask, prev, hrgb, hseen⟩ :=
    MotionDetector.detectBuiltin_of_triggered hb hfound hprocess htriggered
  exact MotionDetector.exists_aim_eq hseen (Frame.length_lumas hrgb) htriggered hc a.angle

end MotionTrigger

/-! ## Between the angles -/

/-- **How far a camera is turned.** Read in exact numbers, it is by less than twice the way to the
changes, and by at most a quarter of it back. On each axis the camera ends between the angle before
and the one that points at the changes if the two are the same, or if the changes are spread no
farther than they are away from the first edge and their near side lies in the first half of the
picture; otherwise it does not. What is commanded whenever a recording begins and a builtin detector
has the camera turned is that angle, in doubles. -/
theorem turned_between_iff {K : Type} [Field K] [LinearOrder K] [IsStrictOrderedRing K]
    {ps : List (Nat × Nat)} {dim : Nat × Nat} (hne : ps ≠ [])
    (hps : ∀ p ∈ ps, p.1 < dim.1 ∧ p.2 < dim.2) (current : K × K) :
    (let c : Point K := centroid ps
      let s : Point K := spread ps
      let part := (damping c.x s.x dim.1, damping c.y s.y dim.2)
      let target := steer c dim current (1, 1)
      let angle := aim ps dim current
      angle = (blend current.1 target.1 part.1, blend current.2 target.2 part.2) ∧
        (part.1 ∈ Set.Ico (-1 / 4) 2 ∧ part.2 ∈ Set.Ico (-1 / 4) 2) ∧
        (angle.1 ∈ Set.uIcc current.1 target.1 ↔
          current.1 = target.1 ∨ s.x ≤ c.x ∧ (c.x - s.x) * 2 ≤ dim.1) ∧
        (angle.2 ∈ Set.uIcc current.2 target.2 ↔
          current.2 = target.2 ∨ s.y ≤ c.y ∧ (c.y - s.y) * 2 ≤ dim.2)) ∧
    ∀ (t t' : MotionTrigger) (a : Answers) (f : Frame) (allow : Bool) (actions : List Action)
      (angle : Float × Float), t.detector.backend = .builtin →
      t.processFrame a f allow = .ok (t', actions) → t.counters.recording = false →
      t'.counters.recording = true → angleOf? actions = some angle →
      ∃ ps : List (Nat × Nat), ps ≠ [] ∧ ps.Nodup ∧ (∀ p ∈ ps, p.1 < f.width ∧ p.2 < f.height) ∧
        angle = aim ps f.dim a.angle := by
  refine ⟨⟨?_, damping_centroid_mem_Ico hne hps, mem_uIcc_aim_iff hne hps current⟩,
    fun t t' a f allow actions angle hb h hrest hrec hturn =>
      MotionTrigger.exists_aim_of_begins hb h hrest hrec hturn⟩
  exact Prod.ext (congrArg (blend _ · _) (blend_one ..).symm)
    (congrArg (blend _ · _) (blend_one ..).symm)

/-- A trigger that has seen a dark row. -/
def watchful : MotionTrigger :=
  { Gimbal.eye with detector := ⟨fun _ => none, .builtin, none, some ⟨4, 1, [0, 0, 0, 0], []⟩⟩ }

/-- The call in which it sees a light at the right edge. -/
def glare : Call := (Gimbal.lightGoesOn 0)[1]

/-- A recording begins in that call, and the camera is turned. -/
theorem begins_glare : ∃ t actions,
    watchful.processFrame glare.answers glare.frame glare.allow = .ok (t, actions) ∧
      t.counters.recording = true ∧ angleOf? actions = some (135.0, 0.0) := by
  have hread : (watchful.processFrame glare.answers glare.frame glare.allow).toOption.map
      (fun r => (r.1.counters.recording, angleOf? r.2)) = some (true, some (135.0, 0.0)) := by
    decide +kernel
  cases hstep : watchful.processFrame glare.answers glare.frame glare.allow with
  | error e =>
    rw [hstep] at hread
    cases hread
  | ok r =>
    rw [hstep] at hread
    obtain ⟨hrec, hturn⟩ := Prod.mk.inj (Option.some.inj hread)
    exact ⟨r.1, r.2, rfl, hrec, hturn⟩

/-- A camera is turned half of the way to changes in the first half of the picture, and a trigger
turns it to a light at the last edge as is said of that. -/
theorem turned_between_iff_glare :
    (aim [(1, 1)] (4, 4) ((0 : ℚ), 0)).1 = -45 ∧
      (aim [(1, 1)] (4, 4) ((0 : ℚ), 0)).1 ∈ Set.uIcc 0 (-90) ∧
      ∃ ps : List (Nat × Nat), ps ≠ [] ∧ (135.0, 0.0) = aim ps (4, 1) neutral := by
  let dim : Nat × Nat := (4, 4)
  have hps : ∀ p ∈ [(1, 1)], p.1 < dim.1 ∧ p.2 < dim.2 := by decide
  obtain ⟨⟨-, -, hpan, -⟩, hcalls⟩ :=
    turned_between_iff (List.cons_ne_nil (1, 1) []) hps ((0 : ℚ), 0)
  have htarget : steer (centroid [(1, 1)]) (4, 4) ((0 : ℚ), 0) (1, 1) = (-90, -90) := by
    decide +kernel
  rw [htarget] at hpan
  obtain ⟨t, actions, hstep, hrec, hturn⟩ := begins_glare
  obtain ⟨ps, hne, -, -, haim⟩ := hcalls _ _ _ _ _ _ _ rfl hstep rfl hrec hturn
  exact ⟨by decide +kernel, hpan.mpr (.inr (by decide +kernel)), ps, hne, haim⟩

/-- **A light at the edge is missed.** It is at an angle of 90 degrees to the right, and the camera
is turned from straight ahead by 135. -/
theorem turned_too_far :
    (steer (centroid [(3, 0)]) (4, 1) ((0 : ℚ), 0) (1, 1)).1 = 90 ∧
      (aim [(3, 0)] (4, 1) ((0 : ℚ), 0)).1 = 135 ∧
      (aim [(3, 0)] (4, 1) ((0 : ℚ), 0)).1 ∉
        Set.uIcc 0 (steer (centroid [(3, 0)]) (4, 1) ((0 : ℚ), 0) (1, 1)).1 := by
  have htarget : (steer (centroid [(3, 0)]) (4, 1) ((0 : ℚ), 0) (1, 1)).1 = 90 := by
    decide +kernel
  have hangle : (aim [(3, 0)] (4, 1) ((0 : ℚ), 0)).1 = 135 := by decide +kernel
  refine ⟨htarget, hangle, ?_⟩
  rw [htarget, hangle, Set.uIcc_of_le (by norm_num)]
  exact fun h => absurd h.2 (by norm_num)

end MotionWatch
