import MotionWatch.Config.Trigger
import MotionWatch.Proofs.Despeckle.Letters
import MotionWatch.Proofs.Detection.Counting
import MotionWatch.Proofs.Parameter.Administration

/-!
# What a detector cannot cope with

The parameters of a detector come from its configuration, and an administrator may write them at
any time. Whatever is written, a detector can read them as what it takes them for. There are still
frames at which it stops the program, because they are too large.

* `Complete`: all parameters of a motion trigger can be read. `complete_administered`: they always
  can.
* `MotionDetector.Overwhelmed`: a frame is too large for a detector, or its plugin stops.
* `detectBuiltin_eq_error_iff`, `detectExternal_eq_crashed_iff`, `compareWith_eq_crashed_iff`: which
  comparisons stop the program.
* `process_eq_crashed_iff`: which calls do.
-/

namespace MotionWatch

/-! ## Parameters -/

/-- All parameters of a motion trigger can be read. -/
structure Complete (s : ParameterSet) : Prop where
  noiseFactor : s.Reads ParameterName.noiseFactor .int
  minPixelsChanged : s.Reads ParameterName.minPixelsChanged .double
  maxPixelsChanged : s.Reads ParameterName.maxPixelsChanged .double
  panTilt : s.Reads ParameterName.panTilt .bool
  rememberTrigger : s.Reads ParameterName.rememberTrigger .string
  despeckleFilter : s.Reads ParameterName.despeckleFilter .string
  minDuration : s.Reads ParameterName.minDuration .int
  muteDuration : s.Reads ParameterName.muteDuration .int
  minFrames : s.Reads ParameterName.minFrames .int
  preRecordDuration : s.Reads ParameterName.preRecordDuration .int
  maxFps : s.Reads ParameterName.maxFps .double

/-- What was declared can be read, whatever was written. -/
theorem reads_writeAll {name : String} {kind : Kind}
    (h : (motionDefaults.get? name).map Parameter.kind = some kind)
    (ws : List ParameterSet.Write) : (motionDefaults.writeAll ws).Reads name kind := by
  obtain ⟨p, hp, rfl⟩ := Option.map_eq_some_iff.mp h
  obtain ⟨v, hv⟩ := ParameterSet.exists_get?_writeAll hp ws
  exact (ParameterSet.sound_writeAll sound_motionDefaults ws).reads (p := { p with value := v }) hv

theorem complete_writeAll (ws : List ParameterSet.Write) :
    Complete (motionDefaults.writeAll ws) where
  noiseFactor := reads_writeAll rfl ws
  minPixelsChanged := reads_writeAll rfl ws
  maxPixelsChanged := reads_writeAll rfl ws
  panTilt := reads_writeAll rfl ws
  rememberTrigger := reads_writeAll rfl ws
  despeckleFilter := reads_writeAll rfl ws
  minDuration := reads_writeAll rfl ws
  muteDuration := reads_writeAll rfl ws
  minFrames := reads_writeAll rfl ws
  preRecordDuration := reads_writeAll rfl ws
  maxFps := reads_writeAll rfl ws

/-- The parameters of a configuration are those of every motion trigger, with some overrides. -/
theorem TriggerConfig.exists_writeAll {c : TriggerConfig} {params : ParameterSet}
    (h : c.buildParameters = .ok params) (ws : List ParameterSet.Write) :
    ∃ ws', params.writeAll ws = motionDefaults.writeAll ws' := by
  refine ⟨.overrides c.parameters.toList :: ws, ?_⟩
  have hparams : params = (motionDefaults.applyOverrides c.parameters.toList).1 := by
    unfold buildParameters at h
    dsimp only at h
    split at h
    · next overridden heq =>
      obtain ⟨params', hsame, h⟩ := exists_of_bind_eq_ok h
      obtain ⟨rate, -, h⟩ := exists_of_bind_eq_ok h
      obtain rfl := Except.ok.inj hsame
      split at h
      · cases h
      · obtain ⟨pattern, -, h⟩ := exists_of_bind_eq_ok h
        obtain ⟨-, -, h⟩ := exists_of_bind_eq_ok h
        rw [heq, Except.ok.inj h]
    · cases h
  rw [hparams]
  rfl

/-- **Whatever an administrator writes, all parameters of a configured trigger can be read.** -/
theorem complete_administered {c : TriggerConfig} {params : ParameterSet}
    (h : c.buildParameters = .ok params) (ws : List ParameterSet.Write) :
    Complete (params.writeAll ws) := by
  obtain ⟨ws', hws⟩ := c.exists_writeAll h ws
  rw [hws]
  exact complete_writeAll ws'

/-! ## Frames -/

section Frames

variable {s : ParameterSet}

theorem MotionParameters.exists_read (hs : Complete s) : ∃ p, MotionParameters.read s = .ok p := by
  obtain ⟨minFrames, hminFrames⟩ := hs.minFrames
  obtain ⟨minDuration, hminDuration⟩ := hs.minDuration
  obtain ⟨muteDuration, hmuteDuration⟩ := hs.muteDuration
  obtain ⟨panTilt, hpanTilt⟩ := hs.panTilt
  obtain ⟨capacity, hcapacity⟩ := hs.preRecordDuration
  obtain ⟨remember, hremember⟩ := hs.rememberTrigger
  refine ⟨⟨⟨minFrames, minDuration, muteDuration⟩, panTilt, capacity.toNat, remember⟩, ?_⟩
  unfold read
  rw [hminFrames, hminDuration, hmuteDuration, hpanTilt, hcapacity, hremember]
  rfl

namespace MotionDetector

variable {d : MotionDetector} {f : Frame} {cur prev : Reference} {panTilt : Bool}
  {mask : Option (Array Bool)} {pattern : String} {cause : Option Misuse}

/-- What stops the program at a frame, although all parameters can be read. -/
inductive Overwhelmed (d : MotionDetector) (s : ParameterSet) (f : Frame) : Prop
  /-- The pixels of a first frame cannot be counted. -/
  | uncounted (unlearned : d.reference = none) (large : maxCount < f.area)
  /-- Despeckling loses pixels of a frame with a side that is too long. -/
  | cutOff {prev : Reference} {rgb : List UInt8} {pattern : String}
    (learned : d.reference = some prev) (same : f.dim = prev.dim) (backend : d.backend = .builtin)
    (converted : f.toRgb d.decoder = .ok rgb)
    (read : s.getString ParameterName.despeckleFilter = .ok pattern)
    (known : knownLetters pattern ≠ "") (long : sideLimit ≤ f.width ∨ sideLimit ≤ f.height)
  /-- The plugin stops. -/
  | stopped {prev : Reference} {rgb : List UInt8} {x : Plugin.ExternalDetector}
    (learned : d.reference = some prev) (same : f.dim = prev.dim)
    (backend : d.backend = .external x) (converted : f.toRgb d.decoder = .ok rgb)
    (stops : x.detect f.ts f.width f.height prev.rgb rgb
      ((d.maskFor f.width f.height).1.map Array.toList) = .error (.crashed none))

/-- A detector that counts pixels by itself can handle all frames whose sides are not too long. -/
theorem not_overwhelmed (hbuiltin : d.backend = .builtin) (hw : f.width < sideLimit)
    (hh : f.height < sideLimit) : ¬d.Overwhelmed s f := by
  intro h
  cases h with
  | uncounted unlearned large =>
    exact absurd large (Nat.not_lt.mpr (Count.mul_le_maxCount hw hh))
  | cutOff _ _ _ _ _ _ long => exact long.elim (Nat.not_le.mpr hw) (Nat.not_le.mpr hh)
  | stopped _ _ backend _ _ =>
    rw [hbuiltin] at backend
    cases backend

/-- A detector without a reference only counts the pixels. -/
theorem overwhelmed_iff_of_none (h : d.reference = none) :
    d.Overwhelmed s f ↔ maxCount < f.area := by
  refine ⟨fun hover => ?_, .uncounted h⟩
  cases hover with
  | uncounted _ large => exact large
  | cutOff learned _ _ _ _ _ _ | stopped learned _ _ _ _ =>
    rw [h] at learned
    cases learned

section Learned

variable {prev : Reference} {rgb : List UInt8} (learned : d.reference = some prev)

include learned

/-- What cannot be converted is not compared. -/
theorem not_overwhelmed_of_error {e : FrameError} (hrgb : f.toRgb d.decoder = .error e) :
    ¬d.Overwhelmed s f := by
  intro h
  cases h with
  | uncounted unlearned _ =>
    rw [learned] at unlearned
    cases unlearned
  | cutOff _ _ _ converted _ _ _ | stopped _ _ _ converted _ =>
    rw [hrgb] at converted
    cases converted

theorem overwhelmed_iff_of_builtin (same : f.dim = prev.dim) (backend : d.backend = .builtin)
    (converted : f.toRgb d.decoder = .ok rgb)
    (read : s.getString ParameterName.despeckleFilter = .ok pattern) :
    d.Overwhelmed s f ↔
      knownLetters pattern ≠ "" ∧ (sideLimit ≤ f.width ∨ sideLimit ≤ f.height) := by
  refine ⟨fun h => ?_, fun h => .cutOff learned same backend converted read h.1 h.2⟩
  cases h with
  | uncounted unlearned _ =>
    rw [learned] at unlearned
    cases unlearned
  | cutOff _ _ _ _ read' known long =>
    obtain rfl := Except.ok.inj (read.symm.trans read')
    exact ⟨known, long⟩
  | stopped _ _ external _ _ =>
    rw [backend] at external
    cases external

theorem overwhelmed_iff_of_external {x : Plugin.ExternalDetector} (same : f.dim = prev.dim)
    (backend : d.backend = .external x) (converted : f.toRgb d.decoder = .ok rgb) :
    d.Overwhelmed s f ↔ x.detect f.ts f.width f.height prev.rgb rgb
      ((d.maskFor f.width f.height).1.map Array.toList) = .error (.crashed none) := by
  refine ⟨fun h => ?_, .stopped learned same backend converted⟩
  cases h with
  | uncounted unlearned _ =>
    rw [learned] at unlearned
    cases unlearned
  | cutOff _ _ builtin _ _ _ _ =>
    rw [backend] at builtin
    cases builtin
  | stopped learned' _ backend' converted' stops =>
    obtain rfl := Option.some.inj (learned.symm.trans learned')
    obtain rfl := Backend.external.inj (backend.symm.trans backend')
    obtain rfl := Except.ok.inj (converted.symm.trans converted')
    exact stops

end Learned

/-- The passes of a pattern keep all pixels of a frame, unless a letter is known and a side is too
long. -/
theorem not_keeps_iff : ¬Keeps f.width f.height pattern ↔
    knownLetters pattern ≠ "" ∧ (sideLimit ≤ f.width ∨ sideLimit ≤ f.height) := by
  have hpos : f.width * f.height ≠ 0 :=
    Nat.ne_of_gt (Nat.mul_pos f.checked.width_pos f.checked.height_pos)
  rw [Keeps, passes_eq_nil_iff, Count.Fits, not_or, not_or, not_and_or, Nat.not_lt, Nat.not_lt]
  exact and_congr_right fun _ => and_iff_right hpos

/-- Counting stops the program exactly if despeckling loses pixels. -/
theorem detectBuiltin_eq_error_iff (hs : Complete s)
    (hpattern : s.getString ParameterName.despeckleFilter = .ok pattern)
    (hcur : cur.luma.length = cur.width * cur.height)
    (hprev : prev.luma.length = cur.width * cur.height) {e : Fault DetectionError} :
    detectBuiltin s panTilt mask cur prev = .error e ↔
      e = .crashed none ∧ ¬Keeps cur.width cur.height pattern := by
  obtain ⟨noise, hnoise⟩ := hs.noiseFactor
  obtain ⟨low, hlow⟩ := hs.minPixelsChanged
  obtain ⟨high, hhigh⟩ := hs.maxPixelsChanged
  have hlost :
      statistics cur.width cur.height noise pattern panTilt mask cur.luma prev.luma = none ↔
        ¬Keeps cur.width cur.height pattern := statistics_eq_none_iff hcur hprev
  unfold detectBuiltin
  simp only [hnoise, hpattern, hlow, hhigh, Fault.ofRead_ok, ok_bind]
  cases hstats : statistics cur.width cur.height noise pattern panTilt mask cur.luma prev.luma with
  | none =>
    have hcut := hlost.mp hstats
    constructor
    · intro h
      exact ⟨(Except.error.inj h).symm, hcut⟩
    · rintro ⟨rfl, -⟩
      rfl
  | some stats =>
    have hkeeps : ¬¬Keeps cur.width cur.height pattern := fun hcut => by
      rw [hlost.mpr hcut] at hstats
      cases hstats
    refine iff_of_false ?_ fun h => hkeeps h.2
    rw [Option.elim_some, ok_bind]
    split
    · nofun
    · nofun

/-- A plugin stops the program without misuse of a parameter. -/
theorem detectExternal_eq_crashed_iff {x : Plugin.ExternalDetector} {ts : Nat} :
    detectExternal x ts mask cur prev = .error (.crashed cause) ↔
      cause = none ∧ x.detect ts cur.width cur.height prev.rgb cur.rgb (mask.map Array.toList) =
        .error (.crashed none) := by
  have hnone {e : Option Misuse}
      (h : x.detect ts cur.width cur.height prev.rgb cur.rgb (mask.map Array.toList) =
        .error (.crashed e)) : e = none := by
    unfold Plugin.ExternalDetector.detect at h
    dsimp only at h
    split at h
    · exact (Fault.crashed.inj (Except.error.inj h)).symm
    split at h
    · cases h
    split at h
    · cases h
    split at h
    · cases h
    · exact (Fault.crashed.inj (elim_error_eq_error_iff.mp h).2).symm
  unfold detectExternal
  split
  · next e he =>
    rw [he]
    exact iff_of_false nofun fun h => nomatch h.2
  · next e he =>
    obtain rfl := hnone he
    rw [he]
    constructor
    · intro h
      exact ⟨(Fault.crashed.inj (Except.error.inj h)).symm, rfl⟩
    · rintro ⟨rfl, -⟩
      rfl
  · next he =>
    rw [he]
    exact iff_of_false nofun fun h => nomatch h.2

/-- Which comparisons stop the program. -/
theorem compareWith_eq_crashed_iff {old : List UInt8} {g : Frame} (hs : Complete s)
    (learned : d.reference = some (g.referenceOf old)) (hold : g.toRgb d.decoder = .ok old)
    (same : f.dim = (g.referenceOf old).dim) :
    d.compareWith s f (g.referenceOf old) = .error (.crashed cause) ↔
      cause = none ∧ d.Overwhelmed s f := by
  cases hrgb : f.toRgb d.decoder with
  | error e =>
    rw [compareWith_unconverted same hrgb]
    exact iff_of_false nofun fun h => not_overwhelmed_of_error learned hrgb h.2
  | ok rgb =>
    obtain ⟨panTilt, hpan⟩ := hs.panTilt
    obtain ⟨pattern, hpattern⟩ := hs.despeckleFilter
    have hcur := Frame.length_lumas hrgb
    have hprev : (lumasOfRgb old).length = f.width * f.height := by
      obtain ⟨hw, hh⟩ : f.width = g.width ∧ f.height = g.height := Prod.mk.inj same
      rw [hw, hh]
      exact Frame.length_lumas hold
    rw [compareWith_eq same (Reference.ofFrame_eq_ok_iff.mpr ⟨rgb, hrgb, rfl⟩) hpan,
      map_eq_error_iff]
    unfold look
    cases hbackend : d.backend with
    | builtin =>
      dsimp only
      rw [detectBuiltin_eq_error_iff hs hpattern hcur hprev, Fault.crashed.injEq,
        overwhelmed_iff_of_builtin learned same hbackend hrgb hpattern]
      exact and_congr_right fun _ => not_keeps_iff
    | external x =>
      dsimp only
      rw [detectExternal_eq_crashed_iff, overwhelmed_iff_of_external learned same hbackend hrgb]
      rfl

/-- **At which frames a detector stops the program.** -/
theorem process_eq_crashed_iff (hs : Complete s) (hd : d.Genuine)
    (hsize : ∀ prev, d.reference = some prev → f.dim = prev.dim) :
    d.process s f = .error (.crashed cause) ↔ cause = none ∧ d.Overwhelmed s f := by
  cases hreference : d.reference with
  | none =>
    rw [overwhelmed_iff_of_none hreference]
    by_cases hlarge : maxCount < f.area
    · rw [process_of_lt hlarge, and_iff_left hlarge, Except.error.injEq, Fault.crashed.injEq,
        eq_comm]
    · rw [process_of_none hreference (Nat.not_lt.mp hlarge)]
      refine iff_of_false ?_ fun h => hlarge h.2
      split
      · nofun
      · nofun
  | some prev =>
    obtain ⟨g, hg⟩ := hd prev hreference
    obtain ⟨old, hold, hlearned⟩ := id hg
    obtain rfl : prev = g.referenceOf old := Option.some.inj (hreference.symm.trans hlearned)
    have same := hsize _ hreference
    rw [process_of_reference hreference (hg.area_le same)]
    exact compareWith_eq_crashed_iff hs hlearned hold same

end MotionDetector

end Frames

end MotionWatch
