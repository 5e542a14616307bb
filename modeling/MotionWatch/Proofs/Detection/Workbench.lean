import MotionWatch.Proofs.Detection.Session

/-!
# Detectors that work in place

For every frame a detector needs grey values, differences and a mask. One that works in place keeps
them in buffers, which it overwrites before it knows whether it will fail. Here is shown that this
makes no difference: what a failing call leaves in the buffers is never looked at.

* `Workbench`: a detector with its buffers. `prime`, `process`: its calls.
* `Represents`: what of the buffers counts.
* `agree_process`: a call does what it does with a detector that has no buffers.
* `represents_answer`, `answers_eq`: so do all calls, one after the other.
* `answers_of_failed`: a call that fails might as well be left out.
-/

namespace MotionWatch

/-- A detector with its buffers. -/
structure Workbench where
  decoder : Decoder
  backend : Backend
  mask : Option SelectionMask
  /-- The resolution, once it has been learned. -/
  dim : Option (Nat × Nat)
  /-- The grey values of the frame in hand. -/
  greyCur : List UInt8
  /-- The grey values of the reference. -/
  greyPrev : List UInt8
  /-- The pixels of the reference, which only a plugin needs. -/
  rgbPrev : List UInt8
  /-- The differences. -/
  scratch : List UInt8

namespace Workbench

/-- A detector before the first call. -/
def start (decode : Decoder) (backend : Backend) (mask : Option SelectionMask) : Workbench :=
  ⟨decode, backend, mask, none, [], [], [], []⟩

/-- The pixels of the reference after a frame. -/
def keptRgb (b : Workbench) (rgb : List UInt8) : List UInt8 :=
  match b.backend with
  | .builtin => b.rgbPrev
  | .external _ => rgb

/-- Makes a frame the reference. -/
def prime (b : Workbench) (f : Frame) : Except FrameError Workbench :=
  (f.toRgb b.decoder).map fun rgb =>
    { b with greyPrev := lumasOfRgb rgb, rgbPrev := b.keptRgb rgb, dim := some f.dim }

/-- The mask at a resolution. The copy stays on the bench. -/
def request (b : Workbench) (width height : Nat) : Option (Array Bool) × Workbench :=
  (b.mask.map fun m => (m.get width height).1,
    { b with mask := b.mask.map fun m => (m.get width height).2 })

/-- Asks a plugin about the frame in hand. -/
def ask (b : Workbench) (x : Plugin.ExternalDetector) (f : Frame) (rgb : List UInt8) :
    Except (Fault DetectionError) Detection × Workbench :=
  let (mask, b) := b.request f.width f.height
  match x.detect f.ts f.width f.height b.rgbPrev rgb (mask.map Array.toList) with
  | .error (.failed cause) => (.error (.failed (.plugin cause)), b)
  | .error (.crashed cause) => (.error (.crashed cause), b)
  | .ok (triggered, text) =>
    (.ok { Detection.plain triggered (.ofCount 0 (f.width * f.height)) with text },
      { b with rgbPrev := rgb })

/-- Compares the numbers of the frame in hand with the thresholds. -/
def judge (params : ParameterSet) (panTilt : Bool) (width height : Nat)
    (stats : ChangeStatistics) : Except (Fault DetectionError) Detection := do
  let low ← Fault.ofRead (params.getDouble ParameterName.minPixelsChanged)
  let triggered ←
    if low < stats.percent then do
      let high ← Fault.ofRead (params.getDouble ParameterName.maxPixelsChanged)
      pure (decide (stats.percent < high))
    else pure false
  let factors :=
    if triggered && panTilt then MotionDetector.dampingFactors width height stats else (1.0, 1.0)
  return { Detection.plain triggered stats with factors }

/-- Computes the differences between the frame in hand and the reference. -/
def fill (b : Workbench) (width height : Nat) (pattern : String) : Option Workbench :=
  (MotionDetector.differences width height pattern b.greyCur b.greyPrev).map fun distances =>
    { b with scratch := distances }

/-- Counts the changed pixels of the frame in hand. -/
def count (b : Workbench) (params : ParameterSet) (panTilt : Bool) (f : Frame) :
    Except (Fault DetectionError) Detection × Workbench :=
  match params.getInt ParameterName.noiseFactor with
  | .error m => (.error (.crashed (some m)), b)
  | .ok noise =>
    match params.getString ParameterName.despeckleFilter with
    | .error m => (.error (.crashed (some m)), b)
    | .ok pattern =>
      if b.mask.isSome || panTilt || !pattern.isEmpty then
        match b.fill f.width f.height pattern with
        | none => (.error (.crashed none), b)
        | some b =>
          let (mask, b) := b.request f.width f.height
          (judge params panTilt f.width f.height (.ofDistances f.width noise mask b.scratch), b)
      else
        let changed := (lumaDistances b.greyCur b.greyPrev).countP fun d => noise ≤ d.toNat
        (judge params panTilt f.width f.height (.ofCount changed (f.width * f.height)), b)

/-- Looks at the frame in hand. -/
def look (b : Workbench) (params : ParameterSet) (panTilt : Bool) (f : Frame)
    (rgb : List UInt8) : Except (Fault DetectionError) Detection × Workbench :=
  match b.backend with
  | .builtin => b.count params panTilt f
  | .external x => b.ask x f rgb

/-- The frame in hand becomes the reference. -/
def swap (b : Workbench) : Workbench := { b with greyCur := b.greyPrev, greyPrev := b.greyCur }

/-- Compares a frame with the reference. -/
def compare (b : Workbench) (params : ParameterSet) (f : Frame) :
    Except (Fault DetectionError) (Detection × List MetaWrite) × Workbench :=
  match f.toRgb b.decoder with
  | .error e => (.error (.failed (.frame e)), b)
  | .ok rgb =>
    let b := { b with greyCur := lumasOfRgb rgb }
    match params.getBool ParameterName.panTilt with
    | .error m => (.error (.crashed (some m)), b)
    | .ok panTilt =>
      match b.look params panTilt f rgb with
      | (.error e, b) => (.error e, b)
      | (.ok seen, b) => (.ok (seen, seen.writes), b.swap)

/-- Handles a frame. -/
def process (b : Workbench) (params : ParameterSet) (f : Frame) :
    Except (Fault DetectionError) (Detection × List MetaWrite) × Workbench :=
  if maxCount < f.area then (.error (.crashed none), b)
  else
    match b.dim with
    | none =>
      match b.prime f with
      | .error e => (.error (.failed (.frame e)), b)
      | .ok b => (.ok (.idle f.area, []), b)
    | some (w, h) =>
      if (w, h) ≠ f.dim then (.error (.failed (.resized w h f.width f.height)), b)
      else b.compare params f

/-! ## What counts -/

/-- The reference is on the bench. -/
structure Holds (b : Workbench) (r : Reference) : Prop where
  dim : b.dim = some r.dim
  grey : b.greyPrev = r.luma
  rgb : ∀ x, b.backend = .external x → b.rgbPrev = r.rgb

/-- What of the buffers counts: the reference, if there is one. The masks may have other copies. -/
structure Represents (mask : Option SelectionMask) (b : Workbench) (d : MotionDetector) :
    Prop where
  decoder : b.decoder = d.decoder
  backend : b.backend = d.backend
  own : Option.Rel SelectionMask.Copies b.mask mask
  mask : Option.Rel SelectionMask.Copies d.mask mask
  first : d.reference = none → b.dim = none
  later : ∀ r, d.reference = some r → b.Holds r

variable {b : Workbench} {d : MotionDetector} {mask : Option SelectionMask}
  {params : ParameterSet} {panTilt : Bool} {f : Frame} {rgb : List UInt8} {prev : Reference}

theorem represents_start (decode : Decoder) (backend : Backend)
    (hmask : ∀ m, mask = some m → m.Copies m) :
    Represents mask (start decode backend mask) ⟨decode, backend, mask, none⟩ := by
  have hcopies := SelectionMask.Copies.rel_self hmask
  refine ⟨rfl, rfl, hcopies, hcopies, fun _ => rfl, ?_⟩
  intro r hr
  cases hr

theorem request_eq (h : Option.Rel SelectionMask.Copies b.mask mask) (width height : Nat) :
    b.request width height = (mask.map (·.bitsAt width height),
      { b with mask := b.mask.map fun m => (m.get width height).2 }) := by
  rw [request, SelectionMask.Copies.map_get_fst h width height]

/-! ## Looking -/

/-- What a look leaves on the bench. The reference of a plugin is exchanged if it has not failed. -/
structure Looked (mask : Option SelectionMask) (b : Workbench) (rgb : List UInt8)
    (r : Except (Fault DetectionError) Detection × Workbench) : Prop where
  decoder : r.2.decoder = b.decoder
  backend : r.2.backend = b.backend
  own : Option.Rel SelectionMask.Copies r.2.mask mask
  dim : r.2.dim = b.dim
  greyCur : r.2.greyCur = b.greyCur
  greyPrev : r.2.greyPrev = b.greyPrev
  rgbOk : ∀ seen, r.1 = .ok seen → r.2.rgbPrev = b.keptRgb rgb
  rgbError : ∀ e, r.1 = .error e → r.2.rgbPrev = b.rgbPrev

theorem detectBuiltin_eq {noise : Int} {pattern : String} {bits : Option (Array Bool)}
    {cur prev : Reference} (hnoise : params.getInt ParameterName.noiseFactor = .ok noise)
    (hpattern : params.getString ParameterName.despeckleFilter = .ok pattern) :
    MotionDetector.detectBuiltin params panTilt bits cur prev =
      (MotionDetector.statistics cur.width cur.height noise pattern panTilt bits cur.luma
        prev.luma).elim (.error (.crashed none)) (judge params panTilt cur.width cur.height) := by
  unfold MotionDetector.detectBuiltin
  rw [hnoise, hpattern]
  simp only [Fault.ofRead_ok, ok_bind]
  cases MotionDetector.statistics cur.width cur.height noise pattern panTilt bits cur.luma
      prev.luma <;> rfl

/-- A builtin detector keeps no pixels. -/
theorem keptRgb_builtin (h : b.backend = .builtin) : b.keptRgb rgb = b.rgbPrev := by
  rw [keptRgb, h]

theorem keptRgb_external {x : Plugin.ExternalDetector} (h : b.backend = .external x) :
    b.keptRgb rgb = rgb := by
  rw [keptRgb, h]

/-- Counting in place is counting. -/
theorem count_spec (hbuiltin : b.backend = .builtin)
    (hown : Option.Rel SelectionMask.Copies b.mask mask)
    (hcur : b.greyCur = lumasOfRgb rgb) (hprev : b.greyPrev = prev.luma) :
    (b.count params panTilt f).1 = MotionDetector.detectBuiltin params panTilt
        (mask.map (·.bitsAt f.width f.height)) (f.referenceOf rgb) prev ∧
      Looked mask b rgb (b.count params panTilt f) := by
  have hkept : b.keptRgb rgb = b.rgbPrev := keptRgb_builtin hbuiltin
  have hsame : ∀ result, Looked mask b rgb (result, b) := fun result =>
    ⟨rfl, rfl, hown, rfl, rfl, rfl, fun _ _ => hkept.symm, fun _ _ => rfl⟩
  unfold count
  cases hnoise : params.getInt ParameterName.noiseFactor with
  | error m =>
    exact ⟨(MotionDetector.detectBuiltin_of_misuse hnoise).symm, hsame _⟩
  | ok noise =>
    cases hpattern : params.getString ParameterName.despeckleFilter with
    | error m =>
      refine ⟨?_, hsame _⟩
      unfold MotionDetector.detectBuiltin
      rw [hnoise, hpattern]
      rfl
    | ok pattern =>
      rw [detectBuiltin_eq hnoise hpattern, MotionDetector.statistics, Option.isSome_map,
        ← SelectionMask.Copies.isSome_eq hown]
      dsimp only
      by_cases hfull : (b.mask.isSome || panTilt || !pattern.isEmpty) = true
      · rw [if_pos hfull, if_pos hfull]
        unfold fill
        dsimp only [Frame.referenceOf]
        rw [← hcur, ← hprev]
        cases MotionDetector.differences f.width f.height pattern b.greyCur b.greyPrev with
        | none => exact ⟨rfl, hsame _⟩
        | some distances =>
          have hfill : Option.Rel SelectionMask.Copies
            ({ b with scratch := distances } : Workbench).mask mask := hown
          dsimp only [Option.map_some]
          rw [request_eq hfill]
          exact ⟨rfl, rfl, rfl, SelectionMask.Copies.map_get hfill f.width f.height, rfl, rfl, rfl,
            fun _ _ => hkept.symm, fun _ _ => rfl⟩
      · rw [if_neg hfull, if_neg hfull, hcur, hprev]
        exact ⟨rfl, hsame _⟩

/-- Asking in place is asking. -/
theorem ask_spec {x : Plugin.ExternalDetector} (hexternal : b.backend = .external x)
    (hown : Option.Rel SelectionMask.Copies b.mask mask) (hprev : b.rgbPrev = prev.rgb) :
    (b.ask x f rgb).1 = MotionDetector.detectExternal x f.ts
        (mask.map (·.bitsAt f.width f.height)) (f.referenceOf rgb) prev ∧
      Looked mask b rgb (b.ask x f rgb) := by
  have hkept : b.keptRgb rgb = rgb := keptRgb_external hexternal
  have hrequest := SelectionMask.Copies.map_get hown f.width f.height
  unfold ask MotionDetector.detectExternal
  rw [request_eq hown]
  dsimp only [Frame.referenceOf]
  rw [hprev]
  cases x.detect f.ts f.width f.height prev.rgb rgb
      ((mask.map (·.bitsAt f.width f.height)).map Array.toList) with
  | error e =>
    cases e with
    | failed cause => exact ⟨rfl, rfl, rfl, hrequest, rfl, rfl, rfl, nofun, fun _ _ => hprev.symm⟩
    | crashed cause => exact ⟨rfl, rfl, rfl, hrequest, rfl, rfl, rfl, nofun, fun _ _ => hprev.symm⟩
  | ok r =>
    refine ⟨rfl, rfl, rfl, hrequest, rfl, rfl, rfl, fun _ _ => hkept.symm, ?_⟩
    intro e he
    cases he

/-- A look in place is a look. -/
theorem look_spec (h : Represents mask b d) (hb : b.Holds prev) (hcur : b.greyCur = lumasOfRgb rgb)
    (params : ParameterSet) (panTilt : Bool) (f : Frame) :
    (b.look params panTilt f rgb).1 = d.look params panTilt f (f.referenceOf rgb) prev ∧
      Looked mask b rgb (b.look params panTilt f rgb) := by
  unfold look MotionDetector.look
  rw [← h.backend, Session.maskFor_fst h.mask]
  cases hbackend : b.backend with
  | builtin => exact count_spec hbackend h.own hcur hb.grey
  | external x => exact ask_spec hbackend h.own (hb.rgb x hbackend)

/-! ## Calls -/

/-- Two results of a call, in place and not. -/
inductive Agree (mask : Option SelectionMask) (d : MotionDetector) :
    Except (Fault DetectionError) (Detection × List MetaWrite) × Workbench →
    Except (Fault DetectionError) (MotionDetector × Detection × List MetaWrite) → Prop
  | ok {d' : MotionDetector} {seen : Detection} {writes : List MetaWrite} {b' : Workbench}
    (h : Represents mask b' d') : Agree mask d (.ok (seen, writes), b') (.ok (d', seen, writes))
  | error {e : Fault DetectionError} {b' : Workbench} (h : Represents mask b' d) :
    Agree mask d (.error e, b') (.error e)

/-- The frame in hand does not count. -/
theorem Represents.takeInHand (h : Represents mask b d) (grey : List UInt8) :
    Represents mask { b with greyCur := grey } d := by
  refine ⟨h.decoder, h.backend, h.own, h.mask, h.first, fun r hr => ?_⟩
  exact ⟨(h.later r hr).dim, (h.later r hr).grey, (h.later r hr).rgb⟩

/-- **Comparing in place is comparing**, whether it fails or not. -/
theorem agree_compare (h : Represents mask b d) (hprev : d.reference = some prev)
    (hdim : f.dim = prev.dim) :
    Agree mask d (b.compare params f) (d.compareWith params f prev) := by
  have hb : b.Holds prev := h.later prev hprev
  unfold compare
  cases hrgb : f.toRgb b.decoder with
  | error e =>
    rw [h.decoder] at hrgb
    rw [MotionDetector.compareWith_unconverted hdim hrgb]
    exact .error h
  | ok rgb =>
    rw [h.decoder] at hrgb
    have hcur : Reference.ofFrame d.decoder f = .ok (f.referenceOf rgb) :=
      Reference.ofFrame_eq_ok_iff.mpr ⟨rgb, hrgb, rfl⟩
    have hhand : Represents mask { b with greyCur := lumasOfRgb rgb } d :=
      h.takeInHand (lumasOfRgb rgb)
    dsimp only
    cases hpan : params.getBool ParameterName.panTilt with
    | error m =>
      rw [MotionDetector.compareWith_misuse hdim hrgb hpan]
      exact .error hhand
    | ok panTilt =>
      rw [MotionDetector.compareWith_eq hdim hcur hpan]
      obtain ⟨hresult, hlooked⟩ := look_spec hhand (hhand.later prev hprev) rfl params panTilt f
      dsimp only
      rw [← hresult]
      generalize look { b with greyCur := lumasOfRgb rgb } params panTilt f rgb = r at hlooked
      obtain ⟨result, b'⟩ := r
      have hdecoder : b'.decoder = d.decoder := hlooked.decoder.trans h.decoder
      have hbackend : b'.backend = d.backend := hlooked.backend.trans h.backend
      cases result with
      | error e =>
        refine .error ⟨hdecoder, hbackend, hlooked.own, h.mask, fun hr => ?_, fun r hr => ?_⟩
        · exact hlooked.dim.trans (h.first hr)
        · have hlater := h.later r hr
          refine ⟨hlooked.dim.trans hlater.dim, hlooked.greyPrev.trans hlater.grey, ?_⟩
          intro x hx
          exact (hlooked.rgbError e rfl).trans (hlater.rgb x (hlooked.backend.symm.trans hx))
      | ok seen =>
        -- The frame in hand has become the reference.
        refine .ok ⟨?_, ?_, hlooked.own, Session.maskFor_snd h.mask f.width f.height, nofun, ?_⟩
        · exact hdecoder.trans (MotionDetector.decoder_maskFor ..).symm
        · exact hbackend.trans (MotionDetector.backend_maskFor ..).symm
        · intro r hr
          obtain rfl := Option.some.inj hr
          refine ⟨?_, hlooked.greyCur, ?_⟩
          · exact (hlooked.dim.trans hb.dim).trans (congrArg some hdim.symm)
          · intro x hx
            have hx : b.backend = .external x := hlooked.backend.symm.trans hx
            exact (hlooked.rgbOk seen rfl).trans
              (keptRgb_external (b := { b with greyCur := lumasOfRgb rgb }) hx)

theorem prime_eq_ok (h : Represents mask b d) (hrgb : f.toRgb d.decoder = .ok rgb) :
    ∃ b' d', b.prime f = .ok b' ∧ d.prime f = .ok d' ∧ Represents mask b' d' := by
  refine ⟨{ b with greyPrev := lumasOfRgb rgb, rgbPrev := b.keptRgb rgb, dim := some f.dim },
    { d with reference := some (f.referenceOf rgb) }, ?_, ?_, h.decoder, h.backend, h.own, h.mask,
    nofun, ?_⟩
  · rw [prime, h.decoder, hrgb]
    rfl
  · exact MotionDetector.prime_eq_ok_iff.mpr ⟨rgb, hrgb, rfl⟩
  · intro r hr
    obtain rfl := Option.some.inj hr
    exact ⟨rfl, rfl, fun x hx => keptRgb_external hx⟩

theorem prime_eq_error {e : FrameError} (h : Represents mask b d)
    (hrgb : f.toRgb d.decoder = .error e) : b.prime f = .error e := by
  rw [prime, h.decoder, hrgb]
  rfl

/-- **A call in place does what the call does.** -/
theorem agree_process (h : Represents mask b d) (params : ParameterSet) (f : Frame) :
    Agree mask d (b.process params f) (d.process params f) := by
  unfold process MotionDetector.process
  split
  · exact .error h
  cases href : d.reference with
  | none =>
    rw [h.first href]
    dsimp only
    cases hrgb : f.toRgb d.decoder with
    | error e =>
      rw [prime_eq_error h hrgb, MotionDetector.prime_eq_error_iff.mpr hrgb]
      exact .error h
    | ok rgb =>
      obtain ⟨b', d', hb', hd', h'⟩ := prime_eq_ok h hrgb
      rw [hb', hd']
      exact .ok h'
  | some prev =>
    rw [(h.later prev href).dim]
    dsimp only [Reference.dim]
    by_cases hdim : f.dim = prev.dim
    · have hsame : ¬(prev.width, prev.height) ≠ f.dim := not_not_intro hdim.symm
      rw [if_neg hsame]
      exact agree_compare h href hdim
    · have hother : (prev.width, prev.height) ≠ f.dim := Ne.symm hdim
      rw [if_pos hother, MotionDetector.compareWith_resized hdim]
      exact .error h

end Workbench

/-! ## Many calls -/

/-- The answers to some calls. -/
def MotionDetector.answers (d : MotionDetector) : List Showing → List DetectorAnswer
  | [] => []
  | c :: calls => (d.answer c).1 :: (d.answer c).2.answers calls

/-- The detector after some calls. -/
def MotionDetector.after (d : MotionDetector) (calls : List Showing) : MotionDetector :=
  calls.foldl (fun d c => (d.answer c).2) d

/-- A call that fails leaves a detector alone that has no buffers. -/
theorem MotionDetector.answer_snd_of_error {d : MotionDetector} {c : Showing}
    {e : Fault DetectionError} (h : (d.answer c).1 = .error e) : (d.answer c).2 = d := by
  unfold answer at h ⊢
  cases c with
  | prime f =>
    dsimp only at h ⊢
    cases hp : d.prime f with
    | error e => rfl
    | ok d' =>
      rw [hp] at h
      cases h
  | process params f =>
    dsimp only at h ⊢
    cases hp : d.process params f with
    | error e => rfl
    | ok r =>
      rw [hp] at h
      cases h

namespace Workbench

variable {b : Workbench} {d : MotionDetector} {mask : Option SelectionMask} {c : Showing}
  {calls : List Showing}

/-- The answer to a call, and the bench after it. -/
def answer (b : Workbench) : Showing → DetectorAnswer × Workbench
  | .prime f =>
    match b.prime f with
    | .error e => (.error (.failed (.frame e)), b)
    | .ok b => (.ok (none, []), b)
  | .process params f =>
    match b.process params f with
    | (.error e, b) => (.error e, b)
    | (.ok (seen, writes), b) => (.ok (some seen, writes), b)

/-- The answers to some calls. -/
def answers (b : Workbench) : List Showing → List DetectorAnswer
  | [] => []
  | c :: calls => (b.answer c).1 :: (b.answer c).2.answers calls

/-- The bench after some calls. -/
def after (b : Workbench) (calls : List Showing) : Workbench :=
  calls.foldl (fun b c => (b.answer c).2) b

/-- **A call gets the same answer**, and the bench still represents the detector. -/
theorem represents_answer (h : Represents mask b d) (c : Showing) :
    (b.answer c).1 = (d.answer c).1 ∧ Represents mask (b.answer c).2 (d.answer c).2 := by
  unfold answer MotionDetector.answer
  cases c with
  | prime f =>
    dsimp only
    cases hrgb : f.toRgb d.decoder with
    | error e =>
      rw [prime_eq_error h hrgb, MotionDetector.prime_eq_error_iff.mpr hrgb]
      exact ⟨rfl, h⟩
    | ok rgb =>
      obtain ⟨b', d', hb', hd', h'⟩ := prime_eq_ok h hrgb
      rw [hb', hd']
      exact ⟨rfl, h'⟩
  | process params f =>
    dsimp only
    have hagree := agree_process h params f
    generalize b.process params f = r, d.process params f = r' at hagree
    cases hagree with
    | ok h' => exact ⟨rfl, h'⟩
    | error h' => exact ⟨rfl, h'⟩

theorem represents_after (h : Represents mask b d) (calls : List Showing) :
    Represents mask (b.after calls) (d.after calls) := by
  induction calls generalizing b d with
  | nil => exact h
  | cons c calls ih => exact ih (represents_answer h c).2

/-- **All calls get the same answers.** -/
theorem answers_eq (h : Represents mask b d) (calls : List Showing) :
    b.answers calls = d.answers calls := by
  induction calls generalizing b d with
  | nil => rfl
  | cons c calls ih =>
    obtain ⟨hanswer, hrest⟩ := represents_answer h c
    rw [answers, MotionDetector.answers, hanswer, ih hrest]

/-- **A call that fails might as well be left out**, whatever it has left in the buffers. -/
theorem answers_of_failed (decode : Decoder) (backend : Backend) (mask : Option SelectionMask)
    (hmask : ∀ m, mask = some m → m.Copies m) (before later : List Showing) (c : Showing)
    {e : Fault DetectionError}
    (h : (((start decode backend mask).after before).answer c).1 = .error e) :
    let b := (start decode backend mask).after before
    b.answers (c :: later) = .error e :: b.answers later := by
  intro b
  have hb : Represents mask b ((⟨decode, backend, mask, none⟩ : MotionDetector).after before) :=
    represents_after (represents_start decode backend hmask) before
  obtain ⟨hanswer, hrest⟩ := represents_answer hb c
  rw [h] at hanswer
  rw [MotionDetector.answer_snd_of_error hanswer.symm] at hrest
  rw [answers, h, answers_eq hrest later, answers_eq hb later]

end Workbench

end MotionWatch
