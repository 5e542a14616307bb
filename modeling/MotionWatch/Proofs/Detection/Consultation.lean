import MotionWatch.Proofs.Detection.Workbench
import MotionWatch.Proofs.Mask.Requests
import MotionWatch.Proofs.Plugin.External

/-!
# What a plugin is asked

A plugin gets bare buffers and believes the sizes that it is told. Here is shown that they are right
whenever it is asked: it gets the pixels of the frame in hand and those of the latest frame before
it on which the detector did not fail, all of them, and a mask with an entry for every pixel. The
answers of the plugin may depend on anything, so a call comes with the plugin as it is then.

* `Inquiry`: a call and the plugin. `Session.hear`, `Workbench.hear`: what it leaves.
* `Attends`: what is kept is that frame. `Attends.hear`: every call leaves it so.
* `Asked`: a question with the right buffers.
* `asked_about_latest`: what is asked after any calls, and which calls fail.
-/

namespace MotionWatch

/-! ## Calls -/

/-- A call of a detector, and the plugin as it is then. -/
structure Inquiry where
  plugin : Plugin.ExternalDetector
  call : Showing

/-- The detector with the plugin as it is now. -/
def MotionDetector.asking (d : MotionDetector) (x : Plugin.ExternalDetector) : MotionDetector :=
  { d with backend := .external x }

/-- The same in place. -/
def Workbench.asking (b : Workbench) (x : Plugin.ExternalDetector) : Workbench :=
  { b with backend := .external x }

/-- What a call leaves in place. -/
def Workbench.hear (b : Workbench) (q : Inquiry) : Workbench :=
  ((b.asking q.plugin).answer q.call).2

/-- What some calls leave in place. -/
def Workbench.hearAll (b : Workbench) (qs : List Inquiry) : Workbench := qs.foldl hear b

namespace MotionDetector

variable {d : MotionDetector} {c : Showing} {r : Option Detection × List MetaWrite}

/-- A call that succeeds leaves its frame as the reference, and the plugin as it is. -/
theorem answer_of_ok (h : (d.answer c).1 = .ok r) :
    (d.answer c).2.backend = d.backend ∧ (d.answer c).2.decoder = d.decoder ∧
      ∃ rgb, c.frame.toRgb d.decoder = .ok rgb ∧
        (d.answer c).2.reference = some (c.frame.referenceOf rgb) := by
  unfold answer at h ⊢
  cases c with
  | prime f =>
    dsimp only at h ⊢
    cases hp : d.prime f with
    | error e => rw [hp] at h; cases h
    | ok d' =>
      obtain ⟨rgb, hrgb, rfl⟩ := prime_eq_ok_iff.mp hp
      exact ⟨rfl, rfl, rgb, hrgb, rfl⟩
  | process params f =>
    dsimp only at h ⊢
    cases hp : d.process params f with
    | error e => rw [hp] at h; cases h
    | ok r =>
      obtain ⟨d', seen, writes⟩ := r
      cases hreference : d.reference with
      | none =>
        obtain ⟨rgb, hrgb, rfl⟩ := prime_eq_ok_iff.mp (process_first hreference hp).1
        exact ⟨rfl, rfl, rgb, hrgb, rfl⟩
      | some prev =>
        obtain ⟨⟨-, rgb, panTilt, hrgb, -, -, rfl⟩, -⟩ := process_later hreference hp
        exact ⟨backend_maskFor .., decoder_maskFor .., rgb, hrgb, rfl⟩

end MotionDetector

namespace Session

/-- A detector with a plugin before the first call. -/
def external (decode : Decoder) (x : Plugin.ExternalDetector) (mask : Option SelectionMask) :
    Session :=
  ⟨⟨decode, .external x, mask, none⟩, none⟩

/-- The session after a call. -/
def hear (s : Session) (q : Inquiry) : Session :=
  { s with detector := s.detector.asking q.plugin }.see q.call

/-- The session after some calls. -/
def hearAll (s : Session) (qs : List Inquiry) : Session := qs.foldl hear s

variable {s : Session} {c : Showing}

theorem see_of_ok {r : Option Detection × List MetaWrite} (h : (s.detector.answer c).1 = .ok r) :
    s.see c = ⟨(s.detector.answer c).2, some c.frame⟩ := by
  unfold see
  generalize s.detector.answer c = answer at h
  obtain ⟨result, d⟩ := answer
  obtain rfl : result = .ok r := h
  rfl

theorem see_of_error {e : Fault DetectionError} (h : (s.detector.answer c).1 = .error e) :
    s.see c = s := by
  unfold see
  generalize s.detector.answer c = answer at h
  obtain ⟨result, d⟩ := answer
  obtain rfl : result = .error e := h
  rfl

end Session

/-- What is kept, in place and not, is the latest frame on which the detector did not fail. -/
structure Attends (decode : Decoder) (mask : Option SelectionMask) (b : Workbench) (s : Session) :
    Prop where
  decoder : s.detector.decoder = decode
  plugin : ∃ x, s.detector.backend = .external x
  represents : b.Represents mask s.detector
  first : s.latest = none → s.detector.reference = none
  later : ∀ f, s.latest = some f →
    ∃ rgb, f.toRgb decode = .ok rgb ∧ s.detector.reference = some (f.referenceOf rgb)

namespace Attends

variable {decode : Decoder} {mask : Option SelectionMask} {b : Workbench} {s : Session}

theorem start (x : Plugin.ExternalDetector) {own : Option SelectionMask}
    (hown : Option.Rel SelectionMask.Copies own mask) :
    Attends decode mask (Workbench.start decode (.external x) own)
      (Session.external decode x own) :=
  ⟨rfl, ⟨x, rfl⟩, ⟨rfl, rfl, hown, hown, fun _ => rfl, nofun⟩, fun _ => rfl, nofun⟩

/-- It does not matter what the plugin is like. -/
theorem asking (h : Attends decode mask b s) (x : Plugin.ExternalDetector) :
    Attends decode mask (b.asking x) { s with detector := s.detector.asking x } := by
  obtain ⟨y, hy⟩ := h.plugin
  refine ⟨h.decoder, ⟨x, rfl⟩, ⟨h.represents.decoder, rfl, h.represents.own, h.represents.mask,
    h.represents.first, ?_⟩, h.first, h.later⟩
  intro r hr
  have hholds := h.represents.later r hr
  exact ⟨hholds.dim, hholds.grey, fun _ _ => hholds.rgb y (h.represents.backend.trans hy)⟩

/-- **Every call leaves the latest frame on which it did not fail.** -/
theorem hear (h : Attends decode mask b s) (q : Inquiry) :
    Attends decode mask (b.hear q) (s.hear q) := by
  have hasked := h.asking q.plugin
  obtain ⟨x, hx⟩ := hasked.plugin
  have hrepresents := (Workbench.represents_answer hasked.represents q.call).2
  unfold Session.hear Workbench.hear
  cases hanswer : ((s.detector.asking q.plugin).answer q.call).1 with
  | ok r =>
    obtain ⟨hbackend, hdecoder, rgb, hrgb, hreference⟩ := MotionDetector.answer_of_ok hanswer
    rw [Session.see_of_ok hanswer]
    refine ⟨hdecoder.trans hasked.decoder, ⟨x, hbackend.trans hx⟩, hrepresents, nofun,
      fun f hf => ?_⟩
    obtain rfl := Option.some.inj hf
    exact ⟨rgb, hasked.decoder ▸ hrgb, hreference⟩
  | error e =>
    rw [MotionDetector.answer_snd_of_error hanswer] at hrepresents
    rw [Session.see_of_error hanswer]
    exact ⟨hasked.decoder, hasked.plugin, hrepresents, hasked.first, hasked.later⟩

theorem hearAll (h : Attends decode mask b s) (qs : List Inquiry) :
    Attends decode mask (b.hearAll qs) (s.hearAll qs) := by
  induction qs generalizing b s with
  | nil => exact h
  | cons q qs ih => exact ih (h.hear q)

end Attends

/-! ## What is asked -/

open Plugin.ExternalDetector (maxDimension maskBytes)

namespace SelectionMask

/-- A new mask. -/
def MadeOfBits (m : SelectionMask) : Prop := ∃ width height bits, ofBits width height bits = .ok m

/-- The mask at the size of a frame has an entry for every pixel, unless that size is cut off. -/
theorem MadeOfBits.length_bitsAt_iff {m : SelectionMask} (hm : m.MadeOfBits) {width height : Nat}
    (hpos : 0 < width ∧ 0 < height) :
    (m.bitsAt width height).toList.length = width * height ↔ ¬m.IsCutOff width height := by
  obtain ⟨w, k, bits, hbits⟩ := hm
  obtain ⟨-, -, -, hlength, rfl⟩ := ofBits_eq_ok_iff.mp hbits
  have harea : width * height ≠ 0 := Nat.ne_of_gt (Nat.mul_pos hpos.1 hpos.2)
  rw [Array.length_toList, size_bitsAt_eq_iff hlength, or_iff_right harea]

/-- No size is cut off if its sides can be passed to a library. -/
theorem not_isCutOff {m : SelectionMask} {width height : Nat} (hwidth : width ≤ maxDimension)
    (hheight : height ≤ maxDimension) : ¬m.IsCutOff width height := by
  have hlimit : maxDimension < sideLimit := by decide
  rintro ⟨-, hlarge⟩
  omega

/-- A mask that may have been requested before is a new one for all that can be told. -/
theorem exists_original {mask : Option SelectionMask}
    (h : ∀ m, mask = some m → ∃ original : SelectionMask, original.MadeOfBits ∧ m.Copies original) :
    ∃ original, Option.Rel Copies mask original ∧ ∀ m, original = some m → m.MadeOfBits := by
  cases mask with
  | none => exact ⟨none, .none, nofun⟩
  | some m =>
    obtain ⟨original, hmade, hcopies⟩ := h m rfl
    refine ⟨some original, .some hcopies, fun m' hm' => ?_⟩
    obtain rfl := Option.some.inj hm'
    exact hmade

theorem Copies.isCutOff_iff {m original : SelectionMask} (h : m.Copies original)
    (width height : Nat) : m.IsCutOff width height ↔ original.IsCutOff width height := by
  rw [IsCutOff, IsCutOff, h.dim_eq]

end SelectionMask

/-- A question with the right buffers: the pixels of the frame in hand and of the latest one before
it, which are also in the buffer, and the mask. -/
structure Asked (decode : Decoder) (mask : Option SelectionMask) (b : Workbench) (latest f : Frame)
    (c : Plugin.Comparison) : Prop where
  ts : c.ts = f.ts
  size : f.dim = (c.width, c.height)
  learned : b.dim = some (c.width, c.height)
  cur : f.toRgb decode = .ok c.cur
  prev : latest.toRgb decode = .ok c.prev
  buffer : b.rgbPrev = c.prev
  length_cur : c.cur.length = c.width * c.height * 3
  length_prev : c.prev.length = c.width * c.height * 3
  mask : c.mask = mask.map fun m => maskBytes (m.get c.width c.height).1.toList
  length_mask : ∀ bytes, c.mask = some bytes → bytes.length = c.width * c.height

/-- What is published as the text of a plugin. -/
def textsOf (writes : List MetaWrite) : List MetaWrite :=
  writes.filter fun w => w.key = MetaKey.motionText

theorem textsOf_writes {seen : Detection} (h : seen.stats.centroid = none) :
    textsOf seen.writes =
      seen.text.toList.map fun t => ⟨MetaKey.motionText, .unlimited, .string t⟩ := by
  have hpercent : MetaKey.pixelsChanged ≠ MetaKey.motionText := by decide
  unfold textsOf Detection.writes
  rw [h]
  cases seen.text <;> simp [hpercent]

/-- What is reported of the answer of a plugin. -/
def Frame.told (f : Frame) (answer : Bool × Option String) : Detection :=
  { Detection.plain answer.1 (.ofCount 0 f.area) with text := answer.2 }

/-- The answer of a plugin, as a detector passes it on. -/
def relayed (f : Frame) :
    Except (Fault Plugin.PluginError) (Bool × Option String) →
      Except (Fault DetectionError) Detection
  | .error (.failed cause) => .error (.failed (.plugin cause))
  | .error (.crashed cause) => .error (.crashed cause)
  | .ok answer => .ok (f.told answer)

namespace MotionDetector

variable {d : MotionDetector} {params : ParameterSet} {f g : Frame} {rgb prev : List UInt8}
  {panTilt : Bool}

/-- A detector with a plugin looks at a frame by asking it. -/
theorem look_asking (d : MotionDetector) (x : Plugin.ExternalDetector)
    (params : ParameterSet) (panTilt : Bool) (f g : Frame) (rgb prev : List UInt8) :
    (d.asking x).look params panTilt f (f.referenceOf rgb) (g.referenceOf prev) =
      relayed f (x.detect f.ts f.width f.height prev rgb
        ((d.maskFor f.width f.height).1.map Array.toList)) := by
  have hmask : ((d.asking x).maskFor f.width f.height).1 = (d.maskFor f.width f.height).1 := by
    rw [Session.maskFor_eq, Session.maskFor_eq]
    rfl
  rw [← hmask]
  unfold look asking detectExternal
  dsimp only [Frame.referenceOf]
  cases x.detect f.ts f.width f.height prev rgb
      (Option.map Array.toList (MotionDetector.maskFor { d with backend := .external x }
        f.width f.height).1) with
  | ok answer => rfl
  | error fault => cases fault <;> rfl

/-- A later frame of the same size is looked at, whatever the plugin is like. -/
theorem process_asking (hreference : d.reference = some (g.referenceOf prev))
    (hrgb : f.toRgb d.decoder = .ok rgb) (hdim : f.dim = g.dim)
    (hpan : params.getBool ParameterName.panTilt = .ok panTilt) (x : Plugin.ExternalDetector) :
    (d.asking x).process params f =
      (relayed f (x.detect f.ts f.width f.height prev rgb
        ((d.maskFor f.width f.height).1.map Array.toList))).map fun seen =>
        ({ ((d.asking x).maskFor f.width f.height).2 with reference := some (f.referenceOf rgb) },
          seen, seen.writes) := by
  have hasked : (d.asking x).reference = some (g.referenceOf prev) := hreference
  rw [process_of_reference hasked (Frame.area_le_of_toRgb hrgb), ← look_asking d x params panTilt]
  exact compareWith_eq hdim (Reference.ofFrame_eq_ok_iff.mpr ⟨rgb, hrgb, rfl⟩) hpan

end MotionDetector

namespace Attends

variable {own : Option SelectionMask} {params : ParameterSet} {f g : Frame} {rgb : List UInt8}
  {panTilt : Bool}

/-- A first frame is not compared. -/
theorem process_first (h : Attends decode mask b s) (params : ParameterSet)
    (hlatest : s.latest = none) (hrgb : f.toRgb decode = .ok rgb) (x : Plugin.ExternalDetector) :
    ∃ d, (s.detector.asking x).process params f = .ok (d, .idle f.area, []) := by
  have hreference : (s.detector.asking x).reference = none := h.first hlatest
  have hprime : (s.detector.asking x).prime f =
      .ok { s.detector.asking x with reference := some (f.referenceOf rgb) } :=
    MotionDetector.prime_eq_ok_iff.mpr ⟨rgb, h.decoder.symm ▸ hrgb, rfl⟩
  rw [MotionDetector.process_of_none hreference (Frame.area_le_of_toRgb hrgb), hprime]
  exact ⟨_, rfl⟩

/-- The mask of a detector has an entry for every pixel, unless the size of the frame is cut off. -/
theorem length_maskFor_iff (h : Attends decode mask b s) (hmask : ∀ m, mask = some m → m.MadeOfBits)
    (f : Frame) :
    (∀ bits, (s.detector.maskFor f.width f.height).1.map Array.toList = some bits →
      bits.length = f.width * f.height) ↔
        ∀ m, mask = some m → ¬m.IsCutOff f.width f.height := by
  rw [Session.maskFor_fst h.represents.mask]
  cases mask with
  | none => exact iff_of_true nofun nofun
  | some m =>
    have hpos := And.intro f.checked.width_pos f.checked.height_pos
    simp only [Option.map_some, Option.some.injEq, forall_eq']
    exact (hmask m rfl).length_bitsAt_iff hpos

/-- **What a plugin is asked**, and what becomes of its answer. -/
theorem exists_asked (h : Attends decode mask b s) (hmask : ∀ m, mask = some m → m.MadeOfBits)
    (hown : Option.Rel SelectionMask.Copies own mask) (hlatest : s.latest = some g)
    (hrgb : f.toRgb decode = .ok rgb) (hdim : f.dim = g.dim)
    (hpan : params.getBool ParameterName.panTilt = .ok panTilt)
    (hwidth : f.width ≤ maxDimension) (hheight : f.height ≤ maxDimension) :
    ∃ c, Asked decode own b g f c ∧ ∀ x : Plugin.ExternalDetector,
      (x.detector.detect c = none →
        (s.detector.asking x).process params f = .error (.crashed none)) ∧
      ∀ answer, x.detector.detect c = some answer → ∃ d writes,
        (s.detector.asking x).process params f = .ok (d, f.told answer, writes) ∧
        textsOf writes =
          answer.2.toList.map fun t => ⟨MetaKey.motionText, .unlimited, .string t⟩ := by
  obtain ⟨prev, hprev, hreference⟩ := h.later g hlatest
  obtain ⟨y, hy⟩ := h.plugin
  obtain ⟨hw, hh⟩ : f.width = g.width ∧ f.height = g.height := Prod.mk.inj hdim
  have hlength := Frame.length_toRgb hprev
  rw [← hw, ← hh] at hlength
  have hfits : Plugin.ExternalDetector.Fits f.width f.height prev rgb
      ((s.detector.maskFor f.width f.height).1.map Array.toList) :=
    ⟨hlength, Frame.length_toRgb hrgb, (h.length_maskFor_iff hmask f).mpr fun m _ =>
      SelectionMask.not_isCutOff hwidth hheight⟩
  have hholds := h.represents.later _ hreference
  refine ⟨⟨f.ts, f.width, f.height, prev, rgb,
    ((s.detector.maskFor f.width f.height).1.map Array.toList).map maskBytes⟩, ?_, fun x => ?_⟩
  · refine ⟨rfl, rfl, hholds.dim.trans (congrArg some hdim.symm), hrgb, hprev,
      hholds.rgb y (h.represents.backend.trans hy), hfits.cur, hfits.prev, ?_,
      fun bytes hbytes => ?_⟩
    · rw [Session.maskFor_fst h.represents.mask, ← SelectionMask.Copies.map_get_fst hown,
        Option.map_map, Option.map_map]
      rfl
    · obtain ⟨bits, hbits, rfl⟩ := Option.map_eq_some_iff.mp hbytes
      rw [maskBytes, List.length_map, hfits.mask bits hbits]
  · rw [MotionDetector.process_asking hreference (h.decoder ▸ hrgb) hdim hpan,
      x.detect_of_le hfits hwidth hheight]
    refine ⟨fun hnone => ?_, fun answer hanswer => ?_⟩
    · rw [hnone]
      rfl
    · rw [hanswer]
      exact ⟨_, _, rfl, textsOf_writes rfl⟩

/-- No plugin is asked about a frame whose sides cannot be passed to it. -/
theorem exists_unasked (h : Attends decode mask b s)
    (hmask : ∀ m, mask = some m → m.MadeOfBits)
    (hown : Option.Rel SelectionMask.Copies own mask) (hlatest : s.latest = some g)
    (hrgb : f.toRgb decode = .ok rgb) (hdim : f.dim = g.dim)
    (hpan : params.getBool ParameterName.panTilt = .ok panTilt)
    (hlarge : maxDimension < f.width ∨ maxDimension < f.height) :
    ∃ cause, (∀ x : Plugin.ExternalDetector,
        (s.detector.asking x).process params f = .error (.failed (.plugin cause))) ∧
      (cause = .tooLarge ↔ ∀ m, own = some m → ¬m.IsCutOff f.width f.height) := by
  obtain ⟨prev, hprev, hreference⟩ := h.later g hlatest
  obtain ⟨hw, hh⟩ : f.width = g.width ∧ f.height = g.height := Prod.mk.inj hdim
  have hlength := Frame.length_toRgb hprev
  rw [← hw, ← hh] at hlength
  obtain ⟨cause, herror, hcause⟩ := Plugin.ExternalDetector.exists_detect_error f.ts hlength
    (Frame.length_toRgb hrgb) ((s.detector.maskFor f.width f.height).1.map Array.toList)
    (Frame.countable_of_toRgb hrgb) hlarge
  refine ⟨cause, fun x => ?_, hcause.trans ((h.length_maskFor_iff hmask f).trans ?_)⟩
  · rw [MotionDetector.process_asking hreference (h.decoder ▸ hrgb) hdim hpan, herror x]
    rfl
  · cases hown with
    | none => exact iff_of_true nofun nofun
    | some hcopies =>
      simp only [Option.some.injEq, forall_eq', hcopies.isCutOff_iff]

/-- A frame that can be compared fails if its sides are too large for a library. -/
theorem fails_iff_of_dim_eq (h : Attends decode mask b s)
    (hmask : ∀ m, mask = some m → m.MadeOfBits) (hlatest : s.latest = some g)
    (hrgb : f.toRgb decode = .ok rgb) (hdim : f.dim = g.dim)
    (hpan : params.getBool ParameterName.panTilt = .ok panTilt) (x : Plugin.ExternalDetector) :
    (∃ e, (s.detector.asking x).process params f = .error (.failed e)) ↔
      maxDimension < f.width ∨ maxDimension < f.height := by
  have hown := h.represents.mask
  by_cases hlarge : maxDimension < f.width ∨ maxDimension < f.height
  · obtain ⟨cause, hprocess, -⟩ := h.exists_unasked hmask hown hlatest hrgb hdim hpan hlarge
    exact iff_of_true ⟨_, hprocess x⟩ hlarge
  · obtain ⟨c, -, hanswer⟩ :=
      h.exists_asked hmask hown hlatest hrgb hdim hpan (by omega) (by omega)
    obtain ⟨hstopped, hanswered⟩ := hanswer x
    refine iff_of_false ?_ hlarge
    cases hdetect : x.detector.detect c with
    | none =>
      rw [hstopped hdetect]
      nofun
    | some answer =>
      obtain ⟨d, writes, hprocess, -⟩ := hanswered answer hdetect
      rw [hprocess]
      nofun

/-- **When a call fails.** -/
theorem fails_iff (h : Attends decode mask b s) (hmask : ∀ m, mask = some m → m.MadeOfBits)
    (f : Frame) (hpan : params.getBool ParameterName.panTilt = .ok panTilt)
    (x : Plugin.ExternalDetector) :
    (∃ e, (s.detector.asking x).process params f = .error (.failed e)) ↔
      f.area ≤ maxCount ∧ ((∃ e, f.toRgb decode = .error e) ∨ ∃ g, s.latest = some g ∧
        (f.dim ≠ g.dim ∨ maxDimension < f.width ∨ maxDimension < f.height)) := by
  by_cases hlarge : maxCount < f.area
  · rw [MotionDetector.process_of_lt hlarge]
    exact iff_of_false nofun fun hfails => absurd hfails.1 (Nat.not_le.mpr hlarge)
  have hcount : f.area ≤ maxCount := Nat.not_lt.mp hlarge
  rw [and_iff_right hcount]
  cases hlatest : s.latest with
  | none =>
    cases hrgb : f.toRgb decode with
    | ok rgb =>
      obtain ⟨d, hprocess⟩ := h.process_first params hlatest hrgb x
      simp [hprocess]
    | error e =>
      have hreference : (s.detector.asking x).reference = none := h.first hlatest
      refine iff_of_true ⟨.frame e, ?_⟩ (.inl ⟨e, rfl⟩)
      rw [MotionDetector.process_of_none hreference hcount,
        MotionDetector.prime_eq_error_iff.mpr (h.decoder ▸ hrgb)]
  | some g =>
    obtain ⟨prev, -, hreference⟩ := h.later g hlatest
    have hasked : (s.detector.asking x).reference = some (g.referenceOf prev) := hreference
    by_cases hdim : f.dim = g.dim
    · cases hrgb : f.toRgb decode with
      | error e =>
        refine iff_of_true ⟨.frame e, ?_⟩ (.inl ⟨e, rfl⟩)
        rw [MotionDetector.process_of_reference hasked hcount]
        exact MotionDetector.compareWith_unconverted hdim (h.decoder ▸ hrgb)
      | ok rgb =>
        rw [h.fails_iff_of_dim_eq hmask hlatest hrgb hdim hpan x]
        simp [hdim]
    · refine iff_of_true ⟨.resized g.width g.height f.width f.height, ?_⟩
        (.inr ⟨g, rfl, .inl hdim⟩)
      rw [MotionDetector.process_of_reference hasked hcount]
      exact MotionDetector.compareWith_resized hdim

end Attends

/-- **What a plugin is asked after any calls**, with any decoder, frames, masks, settings and
answers. It is asked about every frame that can be converted, has the size of the latest frame
before it on which the detector did not fail, and has sides that can be passed to a library. It gets
the pixels of both frames and the mask, with an entry for every place, and its text is what is
published. On other frames the detector fails, but on a first one that can be converted, about which
nobody is asked. If the sides are too large, this is what is found to be wrong unless the mask is
cut off at this size. A frame whose pixels cannot be counted stops the program before anything else.
-/
theorem asked_about_latest (decode : Decoder) (x : Plugin.ExternalDetector)
    (mask : Option SelectionMask)
    (hmask : ∀ m, mask = some m → ∃ original : SelectionMask, original.MadeOfBits ∧
      m.Copies original)
    (qs : List Inquiry) (params : ParameterSet) (panTilt : Bool)
    (hpan : params.getBool ParameterName.panTilt = .ok panTilt) (f : Frame) :
    let s := (Session.external decode x mask).hearAll qs
    let b := (Workbench.start decode (.external x) mask).hearAll qs
    (maxCount < f.area → ∀ y,
      (s.detector.asking y).process params f = .error (.crashed none)) ∧
    (∀ y, (∃ e, (s.detector.asking y).process params f = .error (.failed e)) ↔
      f.area ≤ maxCount ∧ ((∃ e, f.toRgb decode = .error e) ∨ ∃ g, s.latest = some g ∧
        (f.dim ≠ g.dim ∨ maxDimension < f.width ∨ maxDimension < f.height))) ∧
    ∀ rgb, f.toRgb decode = .ok rgb →
      (s.latest = none → ∀ y, ∃ d,
        (s.detector.asking y).process params f = .ok (d, .idle f.area, [])) ∧
      ∀ g, s.latest = some g → f.dim = g.dim →
        (f.width ≤ maxDimension → f.height ≤ maxDimension → ∃ c, Asked decode mask b g f c ∧
          ∀ y : Plugin.ExternalDetector,
            (y.detector.detect c = none →
              (s.detector.asking y).process params f = .error (.crashed none)) ∧
            ∀ answer, y.detector.detect c = some answer → ∃ d writes,
              (s.detector.asking y).process params f = .ok (d, f.told answer, writes) ∧
              textsOf writes =
                answer.2.toList.map fun t => ⟨MetaKey.motionText, .unlimited, .string t⟩) ∧
        (maxDimension < f.width ∨ maxDimension < f.height → ∃ cause,
          (∀ y, (s.detector.asking y).process params f = .error (.failed (.plugin cause))) ∧
          (cause = .tooLarge ↔ ∀ m, mask = some m → ¬m.IsCutOff f.width f.height)) := by
  intro s b
  obtain ⟨original, hown, hmade⟩ := SelectionMask.exists_original hmask
  have h : Attends decode original b s := (Attends.start x hown).hearAll qs
  refine ⟨fun hlarge y => MotionDetector.process_of_lt hlarge, h.fails_iff hmade f hpan,
    fun rgb hrgb => ⟨fun hlatest => h.process_first params hlatest hrgb,
      fun g hlatest hdim => ⟨?_, ?_⟩⟩⟩
  · exact h.exists_asked hmade hown hlatest hrgb hdim hpan
  · exact h.exists_unasked hmade hown hlatest hrgb hdim hpan

/-- A plugin that tells frames apart. -/
def differ : Plugin.ExternalDetector := ⟨⟨fun c => some (decide (c.cur ≠ c.prev), some "differ")⟩⟩

/-- A plugin is asked about the spark and the dark before it, although a frame in between could not
be converted. -/
theorem asked_about_latest_spark :
    let decode : Decoder := fun _ => none
    let qs := Session.beforeSpark.map (Inquiry.mk differ)
    let s := (Session.external decode differ (some Session.leftHalf)).hearAll qs
    let b := (Workbench.start decode (.external differ) (some Session.leftHalf)).hearAll qs
    ∃ c, Asked decode (some Session.leftHalf) b Session.dark Session.spark c ∧ ∃ d seen writes,
      (s.detector.asking differ).process motionDefaults Session.spark = .ok (d, seen, writes) ∧
      seen.triggered = true ∧
      textsOf writes = [⟨MetaKey.motionText, .unlimited, .string "differ"⟩] := by
  intro decode qs s b
  have hmask : ∀ m, some Session.leftHalf = some m →
      ∃ original : SelectionMask, original.MadeOfBits ∧ m.Copies original := by
    intro m hm
    obtain rfl := Option.some.inj hm
    exact ⟨_, ⟨2, 2, [true, false, true, false], rfl⟩, .refl rfl⟩
  obtain ⟨-, -, hasked⟩ := asked_about_latest decode differ (some Session.leftHalf) hmask qs
    motionDefaults false rfl Session.spark
  obtain ⟨-, hlatest⟩ := hasked Session.spark.data rfl
  obtain ⟨c, hc, hanswer⟩ := (hlatest Session.dark rfl rfl).1 (by decide) (by decide)
  have hcur : c.cur = Session.spark.data := (Except.ok.inj hc.cur).symm
  have hprev : c.prev = Session.dark.data := (Except.ok.inj hc.prev).symm
  have hdetect : differ.detector.detect c = some (true, some "differ") := by
    have hdiffer : decide (Session.spark.data ≠ Session.dark.data) = true := by decide
    show some (decide (c.cur ≠ c.prev), some "differ") = _
    rw [hcur, hprev, hdiffer]
  obtain ⟨d, writes, hprocess, htexts⟩ := (hanswer differ).2 _ hdetect
  exact ⟨c, hc, d, _, writes, hprocess, rfl, htexts⟩

/-- A stream whose frame claims more pixels than can be counted. -/
def immense : Frame := ⟨4, 4294967296, 4294967296, .jpeg, [0], by decide⟩

/-- **A frame that stops the program:** it has another size than the latest one, but nobody finds
out about that, because its pixels are counted before. -/
theorem immense_frame_stops_counting :
    immense.dim ≠ Session.dark.dim ∧ ∀ decode,
      let s := (Session.external decode differ none).hearAll [⟨differ, .prime Session.dark⟩]
      s.latest = some Session.dark ∧
        (s.detector.asking differ).process motionDefaults immense = .error (.crashed none) := by
  refine ⟨by decide, ?_⟩
  intro decode s
  exact ⟨rfl, MotionDetector.process_of_lt (by decide)⟩

end MotionWatch
