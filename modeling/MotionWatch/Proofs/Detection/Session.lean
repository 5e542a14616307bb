import MotionWatch.Proofs.Detection.Comparison
import MotionWatch.Proofs.Detection.Counting
import MotionWatch.Proofs.Frame.Grey
import MotionWatch.Proofs.Mask.Copies

/-!
# What a builtin detector reports

A detector is shown frames, some of which it fails on. What it reports of a frame is a function of
that frame, of the latest one before it on which it did not fail, and of the settings at that time.

* `Session`: a detector with the latest frame on which it did not fail. `Session.see`: a call.
* `Faithful`: what the detector remembers is that frame. `faithful_see`: every call leaves it so.
* `compared_with_latest`: what is reported and what is written, after any calls.
-/

namespace MotionWatch

/-- A call of a detector. -/
inductive Showing where
  /-- A frame is to become the reference. -/
  | prime (f : Frame)
  /-- A frame is to be compared, with the settings at that time. -/
  | process (params : ParameterSet) (f : Frame)

/-- The frame that is shown. -/
def Showing.frame : Showing → Frame
  | prime f => f
  | process _ f => f

/-- What a detector answers: what it has seen, if it has looked, and what is published. -/
abbrev DetectorAnswer := Except (Fault DetectionError) (Option Detection × List MetaWrite)

/-- The answer to a call, and what it leaves. -/
def MotionDetector.answer (d : MotionDetector) : Showing → DetectorAnswer × MotionDetector
  | .prime f =>
    match d.prime f with
    | .error e => (.error (.failed (.frame e)), d)
    | .ok d => (.ok (none, []), d)
  | .process params f =>
    match d.process params f with
    | .error e => (.error e, d)
    | .ok (d, seen, writes) => (.ok (some seen, writes), d)

/-- A detector and the latest frame on which it did not fail. -/
structure Session where
  detector : MotionDetector
  latest : Option Frame

namespace Session

/-- A builtin detector before the first call. -/
def start (decode : Decoder) (mask : Option SelectionMask) : Session :=
  ⟨⟨decode, .builtin, mask, none⟩, none⟩

/-- The session after a call. -/
def see (s : Session) (c : Showing) : Session :=
  match s.detector.answer c with
  | (.ok _, d) => ⟨d, some c.frame⟩
  | (.error _, _) => s

/-- The session after some calls. -/
def seeAll (s : Session) (calls : List Showing) : Session := calls.foldl see s

/-- What is written in a call. -/
def written (s : Session) (c : Showing) : List MetaWrite :=
  match (s.detector.answer c).1 with
  | .ok (_, writes) => writes
  | .error _ => []

/-- The detector remembers the latest frame, and its mask is the one that it got. -/
structure Faithful (decode : Decoder) (mask : Option SelectionMask) (s : Session) : Prop where
  decoder : s.detector.decoder = decode
  backend : s.detector.backend = .builtin
  mask : Option.Rel SelectionMask.Copies s.detector.mask mask
  first : s.latest = none → s.detector.reference = none
  later : ∀ f, s.latest = some f →
    ∃ rgb, f.toRgb decode = .ok rgb ∧ s.detector.reference = some (f.referenceOf rgb)

variable {decode : Decoder} {s : Session} {mask : Option SelectionMask} {c : Showing}
  {calls : List Showing} {params : ParameterSet} {f : Frame} {d : MotionDetector}
  {seen : Detection} {writes : List MetaWrite}

theorem faithful_start (hmask : ∀ m, mask = some m → m.Copies m) :
    Faithful decode mask (start decode mask) :=
  ⟨rfl, rfl, SelectionMask.Copies.rel_self hmask, fun _ => rfl, nofun⟩

/-! ## Masks -/

theorem maskFor_eq (width height : Nat) : d.maskFor width height =
    (d.mask.map fun m => (m.get width height).1,
      { d with mask := d.mask.map fun m => (m.get width height).2 }) := by
  obtain ⟨decoder, backend, mask, reference⟩ := d
  cases mask <;> rfl

theorem maskFor_fst (h : Option.Rel SelectionMask.Copies d.mask mask) (width height : Nat) :
    (d.maskFor width height).1 = mask.map (·.bitsAt width height) := by
  rw [maskFor_eq]
  exact SelectionMask.Copies.map_get_fst h width height

theorem maskFor_snd (h : Option.Rel SelectionMask.Copies d.mask mask) (width height : Nat) :
    Option.Rel SelectionMask.Copies (d.maskFor width height).2.mask mask := by
  rw [maskFor_eq]
  exact SelectionMask.Copies.map_get h width height

/-! ## Calls -/

namespace Faithful

theorem prime (h : Faithful decode mask s) (hp : s.detector.prime f = .ok d) :
    Faithful decode mask ⟨d, some f⟩ := by
  obtain ⟨rgb, hrgb, rfl⟩ := MotionDetector.prime_eq_ok_iff.mp hp
  refine ⟨h.decoder, h.backend, h.mask, nofun, ?_⟩
  intro g hg
  obtain rfl := Option.some.inj hg
  exact ⟨rgb, h.decoder ▸ hrgb, rfl⟩

theorem process (h : Faithful decode mask s)
    (hp : s.detector.process params f = .ok (d, seen, writes)) :
    Faithful decode mask ⟨d, some f⟩ := by
  cases hlatest : s.latest with
  | none => exact h.prime (MotionDetector.process_first (h.first hlatest) hp).1
  | some g =>
    obtain ⟨rgb, -, href⟩ := h.later g hlatest
    obtain ⟨⟨-, rgb', panTilt, hrgb', -, -, rfl⟩, -⟩ := MotionDetector.process_later href hp
    refine ⟨?_, ?_, maskFor_snd h.mask f.width f.height, nofun, ?_⟩
    · exact (MotionDetector.decoder_maskFor ..).trans h.decoder
    · exact (MotionDetector.backend_maskFor ..).trans h.backend
    · intro g' hg'
      obtain rfl := Option.some.inj hg'
      exact ⟨rgb', h.decoder ▸ hrgb', rfl⟩

end Faithful

/-- **Every call leaves a session faithful**, whether it fails or not. -/
theorem faithful_see (h : Faithful decode mask s) (c : Showing) :
    Faithful decode mask (s.see c) := by
  unfold see
  cases c with
  | prime f =>
    unfold MotionDetector.answer
    dsimp only
    cases hp : s.detector.prime f with
    | error e => exact h
    | ok d => exact h.prime hp
  | process params f =>
    unfold MotionDetector.answer
    dsimp only
    cases hp : s.detector.process params f with
    | error e => exact h
    | ok r => exact h.process hp

theorem faithful_seeAll (h : Faithful decode mask s) (calls : List Showing) :
    Faithful decode mask (s.seeAll calls) := by
  induction calls generalizing s with
  | nil => exact h
  | cons c calls ih => exact ih (faithful_see h c)

/-! ## Reports -/

theorem written_prime : s.written (.prime f) = [] := by
  unfold written MotionDetector.answer
  dsimp only
  cases s.detector.prime f <;> rfl

theorem written_of_error {e : Fault DetectionError} (h : s.detector.process params f = .error e) :
    s.written (.process params f) = [] := by
  unfold written MotionDetector.answer
  dsimp only
  rw [h]

theorem written_of_ok (h : s.detector.process params f = .ok (d, seen, writes)) :
    s.written (.process params f) = writes := by
  unfold written MotionDetector.answer
  dsimp only
  rw [h]

/-- The percentage is published once. -/
theorem filter_writes (htext : seen.text = none) :
    (seen.writes.filter fun w => w.key = MetaKey.pixelsChanged) =
      [⟨MetaKey.pixelsChanged, .unlimited, .double seen.stats.percent⟩] := by
  have hx : MetaKey.centerX ≠ MetaKey.pixelsChanged := by decide
  have hy : MetaKey.centerY ≠ MetaKey.pixelsChanged := by decide
  unfold Detection.writes
  rw [htext]
  cases seen.stats.centroid with
  | none => simp
  | some c => simp [hx, hy]

/-- **A frame is compared with the latest one on which the detector did not fail**, after any calls
with any frames, settings, mask and decoder. The pixels of the picture are counted in which the grey
values differ, after despeckling, by at least the noise, as far as they are selected. The percentage
is written once for each such frame, and for no other. -/
theorem compared_with_latest (decode : Decoder) (mask : Option SelectionMask)
    (hmask : ∀ m, mask = some m → m.Copies m) (calls : List Showing) :
    let s := (start decode mask).seeAll calls
    (∀ f, s.written (.prime f) = []) ∧
    (∀ params f e, s.detector.process params f = .error e → s.written (.process params f) = []) ∧
    ∀ params f d seen writes, s.detector.process params f = .ok (d, seen, writes) →
      s.written (.process params f) = writes ∧
      (s.latest = none → seen = .idle (f.width * f.height) ∧ writes = []) ∧
      ∀ latest, s.latest = some latest → ∀ noise pattern low high,
        params.getInt ParameterName.noiseFactor = .ok noise →
        params.getString ParameterName.despeckleFilter = .ok pattern →
        params.getDouble ParameterName.minPixelsChanged = .ok low →
        params.getDouble ParameterName.maxPixelsChanged = .ok high →
        ∃ cur ref, f.grey? decode = some cur ∧ latest.grey? decode = some ref ∧
          let distances := Raster.ofFn f.width f.height fun x y =>
            lumaDistance (cur.get x y) (ref.get x y)
          let D := despeckle distances pattern
          let selected := selects (mask.map (·.bitsAt f.width f.height))
          let pixels := f.width * f.height
          let changed := ((Finset.range f.width ×ˢ Finset.range f.height).filter fun (x, y) =>
            selected (y * f.width + x) = true ∧ noise ≤ (D.get x y).toNat).card
          let percent :=
            if pixels = 0 then 0.0 else Float.ofNat changed * 100.0 / Float.ofNat pixels
          despeckleValues f.width f.height distances.toList pattern = some D.toList ∧
          seen.stats.pixels = pixels ∧ seen.stats.changed = changed ∧
          seen.stats.percent = percent ∧
          (seen.triggered = true ↔ low < percent ∧ percent < high) ∧
          (writes.filter fun w => w.key = MetaKey.pixelsChanged) =
            [⟨MetaKey.pixelsChanged, .unlimited, .double percent⟩] := by
  intro s
  have h : Faithful decode mask s := faithful_seeAll (faithful_start hmask) calls
  refine ⟨fun f => written_prime, fun params f e he => written_of_error he, ?_⟩
  intro params f d seen writes hp
  refine ⟨written_of_ok hp, ?_, ?_⟩
  · intro hlatest
    exact (MotionDetector.process_first (h.first hlatest) hp).2
  intro latest hlatest noise pattern low high hnoise hpattern hlow hhigh
  obtain ⟨rgb, hrgb, href⟩ := h.later latest hlatest
  obtain ⟨⟨hsized, rgb', panTilt, hrgb', hpan, hlook, -⟩, rfl⟩ :=
    MotionDetector.process_later href hp
  rw [h.decoder] at hrgb'
  -- Both frames have the same size, and all their grey values.
  obtain ⟨hwidth, hheight⟩ : f.width = latest.width ∧ f.height = latest.height :=
    Prod.mk.inj hsized
  have hcur := Frame.length_lumas hrgb'
  have hprev := Frame.length_lumas hrgb
  rw [← hwidth, ← hheight] at hprev
  refine ⟨_, _, Frame.grey?_eq_some_iff.mpr ⟨rgb', hrgb', rfl⟩,
    Frame.grey?_eq_some_iff.mpr ⟨rgb, hrgb, rfl⟩, ?_⟩
  rw [← hwidth, ← hheight]
  intro distances D selected pixels changed percent
  rw [MotionDetector.look, h.backend, maskFor_fst h.mask] at hlook
  obtain ⟨hstats, htriggered, htext⟩ :=
    MotionDetector.detectBuiltin_eq_ok hnoise hpattern hlow hhigh hlook
  obtain ⟨hchanged, hpixels, hpercent⟩ := MotionDetector.statistics_eq_card hcur hprev hstats
  have hkeeps : Keeps f.width f.height pattern := by
    refine Decidable.not_not.mp fun hnot => ?_
    exact absurd (hstats.symm.trans ((MotionDetector.statistics_eq_none_iff hcur hprev).mpr hnot))
      nofun
  have hdistances : distances.toList.length = f.width * f.height :=
    Raster.length_toList (Raster.wellSized_ofFn ..)
  have hseen : seen.stats.percent = percent := hpercent
  rw [hseen] at htriggered
  refine ⟨despeckleValues_eq_some_iff.mpr ⟨hdistances, hkeeps, rfl⟩, hpixels, hchanged, hseen,
    htriggered, ?_⟩
  rw [filter_writes htext, hseen]

/-- A frame of four black pixels. -/
def dark : Frame := .flat 1 Frame.paintable_two 0

/-- The same with one white pixel. -/
def spark : Frame := ⟨2, 2, 2, .rgb, 255 :: 255 :: 255 :: List.replicate 9 0, by decide⟩

/-- A stream. -/
def garbled : Frame := ⟨3, 2, 2, .jpeg, [0], by decide⟩

/-- A mask that selects the left half. -/
def leftHalf : SelectionMask := ⟨2, 2, #[true, false, true, false], none⟩

/-- The calls before the spark. A detector that cannot decode streams fails on the second one. -/
def beforeSpark : List Showing := [.prime dark, .process motionDefaults garbled]

/-- The spark is seen against the dark. -/
theorem compared_with_latest_spark :
    let s := (start (fun _ => none) (some leftHalf)).seeAll beforeSpark
    s.latest = some dark ∧
      ∃ d seen writes, s.detector.process motionDefaults spark = .ok (d, seen, writes) ∧
        seen.stats.changed = 1 ∧ seen.stats.pixels = 4 ∧
        ∃ percent, (writes.filter fun w => w.key = MetaKey.pixelsChanged) =
          [⟨MetaKey.pixelsChanged, .unlimited, .double percent⟩] := by
  intro s
  have hlatest : s.latest = some dark := by decide
  have hchanged : (s.detector.process motionDefaults spark).toOption.map
      (fun r => r.2.1.stats.changed) = some 1 := by decide
  refine ⟨hlatest, ?_⟩
  cases hp : s.detector.process motionDefaults spark with
  | error e =>
    rw [hp] at hchanged
    cases hchanged
  | ok r =>
    obtain ⟨d, seen, writes⟩ := r
    rw [hp] at hchanged
    have hmask : ∀ m, some leftHalf = some m → m.Copies m := by
      rintro m ⟨⟩
      exact .refl rfl
    have h := compared_with_latest (fun _ => none) (some leftHalf) hmask beforeSpark
    obtain ⟨-, -, hreport⟩ := h.2.2 motionDefaults spark d seen writes hp
    obtain ⟨cur, ref, -, -, -, hpixels, -, -, -, hwritten⟩ :=
      hreport dark hlatest _ _ _ _ rfl rfl rfl rfl
    exact ⟨d, seen, writes, rfl, Option.some.inj hchanged, hpixels, _, hwritten⟩

end Session

end MotionWatch
