import MotionWatch.Proofs.Detection.Workbench
import MotionWatch.Proofs.Mask.Full
import MotionWatch.Proofs.Parameter.Set

/-!
# Looking for positions makes no difference

A detector looks for the positions of changed pixels if it has a mask, or if a camera is to be
turned. The numbers that it reports are the same as if it only counted.

* `Reading`: the numbers that are reported of a frame. `readingOf`: those in an answer.
* `SameNumbers`: settings that may differ in whether a camera is to be turned, and in nothing else
  that the numbers depend on. `sameNumbers_set`: so do settings before and after that was changed.
* `reading_detectBuiltin`: the numbers of one comparison, whatever is looked for.
* `contrast`: a white frame after a black one. `changed_contrast`: all selected pixels are counted.
* `readings_agree`: the numbers of all comparisons by two detectors, with masks that select
  everything or without. `long_row_is_not_counted`: a row that such a mask does not cover.
-/

namespace MotionWatch

/-- The numbers that are reported of a frame, and whether they mean motion. -/
structure Reading where
  triggered : Bool
  changed : Nat
  pixels : Nat
  percent : Float

/-- The numbers of a comparison. -/
def Detection.reading (d : Detection) : Reading :=
  ⟨d.triggered, d.stats.changed, d.stats.pixels, d.stats.percent⟩

/-- The numbers in an answer, or how the call has failed. -/
def readingOf (answer : DetectorAnswer) : Except (Fault DetectionError) (Option Reading) :=
  answer.map fun r => r.1.map Detection.reading

/-- Settings without despeckling. The one may turn a camera where the other does not, and there is
no other difference that the numbers depend on. -/
structure SameNumbers (p q : ParameterSet) : Prop where
  noise : p.getInt ParameterName.noiseFactor = q.getInt ParameterName.noiseFactor
  pattern : p.getString ParameterName.despeckleFilter = .ok "" ∧
    q.getString ParameterName.despeckleFilter = .ok ""
  low : p.getDouble ParameterName.minPixelsChanged = q.getDouble ParameterName.minPixelsChanged
  high : p.getDouble ParameterName.maxPixelsChanged = q.getDouble ParameterName.maxPixelsChanged
  panTilt : (∃ on, p.getBool ParameterName.panTilt = .ok on) ∧
    ∃ on, q.getBool ParameterName.panTilt = .ok on

/-- Whether a camera is to be turned can be changed without a change of the numbers. -/
theorem sameNumbers_set {p q : ParameterSet} {old new : Bool}
    (h : p.set ParameterName.panTilt (.bool new) = .ok q)
    (hold : p.getBool ParameterName.panTilt = .ok old)
    (hpattern : p.getString ParameterName.despeckleFilter = .ok "") : SameNumbers p q := by
  have hread : ∀ other, ParameterName.panTilt ≠ other → p.read other = q.read other :=
    fun other hne => (ParameterSet.read_of_set_of_ne h hne).symm
  refine ⟨?_, ⟨hpattern, ?_⟩, ?_, ?_, ⟨old, hold⟩, ⟨new, ParameterSet.getBool_of_set h⟩⟩
  · rw [ParameterSet.getInt, ParameterSet.getInt, hread _ (by decide)]
  · rw [← hpattern, ParameterSet.getString, ParameterSet.getString, hread _ (by decide)]
  · rw [ParameterSet.getDouble, ParameterSet.getDouble, hread _ (by decide)]
  · rw [ParameterSet.getDouble, ParameterSet.getDouble, hread _ (by decide)]

/-- Two calls with the same frame, and with settings that give the same numbers. -/
inductive Alike : Showing → Showing → Prop
  | prime (f : Frame) : Alike (.prime f) (.prime f)
  | process {p q : ParameterSet} (f : Frame) (same : SameNumbers p q) :
    Alike (.process p f) (.process q f)

/-! ## One comparison -/

section Detect

variable {p q : ParameterSet} {on on' : Bool} {width height : Nat}
  {bits bits' : Option (Array Bool)}

/-- A mask that selects every pixel makes no difference. -/
theorem changedPixels_of_selectsAll {noise : Int} {distances : List UInt8}
    (hbits : SelectsAll bits distances.length) :
    changedPixels width noise bits distances = changedPixels width noise none distances := by
  unfold changedPixels
  refine congrArg (List.map _) (List.filter_congr fun (d, i) hi => ?_)
  obtain ⟨hlt, -⟩ := List.getElem?_eq_some_iff.mp (List.mem_zipIdx_iff_getElem?.mp hi)
  exact congrArg (· && _) (hbits i hlt)

/-- If all pixels have changed, the selected ones are counted. -/
theorem length_changedPixels_of_le {noise : Int} {distances : List UInt8}
    (h : ∀ d ∈ distances, noise ≤ d.toNat) :
    (changedPixels width noise bits distances).length =
      ((List.range distances.length).filter (selects bits)).length := by
  have hsecond : List.range distances.length = distances.zipIdx.map Prod.snd := by
    rw [List.zipIdx_map_snd, List.range_eq_range']
  rw [hsecond, List.filter_map, List.length_map, changedPixels, List.length_map]
  refine congrArg _ (List.filter_congr fun p hp => ?_)
  have hd := h p.1 (List.mem_of_getElem? (List.mem_zipIdx_iff_getElem?.mp hp))
  exact Bool.and_eq_left_iff_imp.mpr fun _ => decide_eq_true hd

/-- Without despeckling there always are numbers. -/
theorem exists_statistics {cur prev : List UInt8} (noise : Int) (on : Bool)
    (bits : Option (Array Bool)) (hcur : cur.length = width * height)
    (hprev : prev.length = width * height) :
    ∃ stats, MotionDetector.statistics width height noise "" on bits cur prev = some stats := by
  refine Option.ne_none_iff_exists'.mp fun hnone => ?_
  exact (MotionDetector.statistics_eq_none_iff hcur hprev).mp hnone (.inl rfl)

/-- Equal numbers are judged equally. -/
theorem reading_judge {stats stats' : ChangeStatistics} (same : SameNumbers p q)
    (hchanged : stats.changed = stats'.changed) (hpixels : stats.pixels = stats'.pixels)
    (hpercent : stats.percent = stats'.percent) :
    (Workbench.judge p on width height stats).map Detection.reading =
      (Workbench.judge q on' width height stats').map Detection.reading := by
  have hplain : ∀ (triggered : Bool) (factors factors' : Float × Float),
      ({ Detection.plain triggered stats with factors } : Detection).reading =
        ({ Detection.plain triggered stats' with factors := factors' } : Detection).reading := by
    intro triggered factors factors'
    simp only [Detection.reading, Detection.plain, hchanged, hpixels, hpercent]
  unfold Workbench.judge
  rw [same.low, same.high, hpercent]
  cases q.getDouble ParameterName.minPixelsChanged with
  | error m => rfl
  | ok low =>
    simp only [Fault.ofRead, mapError_ok, bind, Except.bind]
    split
    · cases q.getDouble ParameterName.maxPixelsChanged with
      | error m => rfl
      | ok high => exact congrArg Except.ok (hplain ..)
    · exact congrArg Except.ok (hplain ..)

/-- **The numbers of a comparison do not depend on what is looked for.** -/
theorem reading_detectBuiltin {cur prev : Reference} (same : SameNumbers p q)
    (hcur : cur.luma.length = cur.width * cur.height)
    (hprev : prev.luma.length = cur.width * cur.height)
    (hbits : SelectsAll bits (cur.width * cur.height))
    (hbits' : SelectsAll bits' (cur.width * cur.height)) :
    (MotionDetector.detectBuiltin p on bits cur prev).map Detection.reading =
      (MotionDetector.detectBuiltin q on' bits' cur prev).map Detection.reading := by
  obtain ⟨hpattern, hpattern'⟩ := same.pattern
  have hnoise' := same.noise
  cases hnoise : p.getInt ParameterName.noiseFactor with
  | error m =>
    rw [hnoise] at hnoise'
    rw [MotionDetector.detectBuiltin_of_misuse hnoise,
      MotionDetector.detectBuiltin_of_misuse hnoise'.symm]
  | ok noise =>
    rw [hnoise] at hnoise'
    obtain ⟨stats, hstats⟩ := exists_statistics noise on bits hcur hprev
    obtain ⟨stats', hstats'⟩ :=
      exists_statistics noise on' bits' hcur hprev
    rw [Workbench.detectBuiltin_eq hnoise hpattern, hstats,
      Workbench.detectBuiltin_eq hnoise'.symm hpattern', hstats']
    have hlength : (despeckle (MotionDetector.distanceMap cur.width cur.height cur.luma prev.luma)
        "").toList.length = cur.width * cur.height :=
      Raster.length_toList (MotionDetector.wellSized_distanceMap hcur hprev)
    obtain ⟨hchanged, hpixels, hpercent⟩ := MotionDetector.of_statistics hcur hprev hstats
    obtain ⟨hchanged', hpixels', hpercent'⟩ := MotionDetector.of_statistics hcur hprev hstats'
    rw [changedPixels_of_selectsAll (hlength.symm ▸ hbits)] at hchanged hpercent
    rw [changedPixels_of_selectsAll (hlength.symm ▸ hbits')] at hchanged' hpercent'
    exact reading_judge same (hchanged.trans hchanged'.symm) (hpixels.trans hpixels'.symm)
      (hpercent.trans hpercent'.symm)

end Detect

/-! ## Calls -/

/-- If there is a mask, it selects everything in a frame, unless this cannot be converted. -/
def CoversFrame (decode : Decoder) (mask : Option SelectionMask) (f : Frame) : Prop :=
  ∀ m, mask = some m → ∀ rgb, f.toRgb decode = .ok rgb → m.Covers f.width f.height

theorem CoversFrame.selectsAll {decode : Decoder} {mask : Option SelectionMask} {f : Frame}
    {rgb : List UInt8} (h : CoversFrame decode mask f) (hfull : ∀ m, mask = some m → m.IsFull)
    (hrgb : f.toRgb decode = .ok rgb) :
    SelectsAll (mask.map (·.bitsAt f.width f.height)) (f.width * f.height) := by
  cases mask with
  | none => exact fun _ _ => rfl
  | some m =>
    have hpos := And.intro f.checked.width_pos f.checked.height_pos
    exact ((hfull m rfl).selectsAll_iff hpos).mpr (h m rfl rgb hrgb)

namespace Session

open MotionWatch.Frame (Paintable flat)

variable {decode : Decoder} {d d' : MotionDetector} {mask mask' : Option SelectionMask}
  {latest : Option Frame} {p q : ParameterSet} {f : Frame} {c c' : Showing}

theorem readingOf_process : readingOf (d.answer (.process p f)).1 =
    (d.process p f).map fun r => some r.2.1.reading := by
  unfold MotionDetector.answer
  dsimp only
  cases d.process p f <;> rfl

/-- Two detectors that remember the same frame report the same numbers of the next one. -/
theorem reading_process (h : Faithful decode mask ⟨d, latest⟩)
    (h' : Faithful decode mask' ⟨d', latest⟩) (same : SameNumbers p q)
    (hmask : ∀ rgb, f.toRgb decode = .ok rgb →
      SelectsAll (mask.map (·.bitsAt f.width f.height)) (f.width * f.height))
    (hmask' : ∀ rgb, f.toRgb decode = .ok rgb →
      SelectsAll (mask'.map (·.bitsAt f.width f.height)) (f.width * f.height)) :
    (d.process p f).map (fun r => r.2.1.reading) =
      (d'.process q f).map fun r => r.2.1.reading := by
  by_cases hlarge : maxCount < f.area
  · rw [MotionDetector.process_of_lt hlarge, MotionDetector.process_of_lt hlarge]
  have hcount : f.area ≤ maxCount := Nat.not_lt.mp hlarge
  cases latest with
  | none =>
    rw [MotionDetector.process_of_none (h.first rfl) hcount,
      MotionDetector.process_of_none (h'.first rfl) hcount, MotionDetector.prime,
      MotionDetector.prime, h.decoder, h'.decoder]
    cases Reference.ofFrame decode f <;> rfl
  | some g =>
    obtain ⟨rgb, hrgb, href⟩ := h.later g rfl
    obtain ⟨rgb', hrgb', href'⟩ := h'.later g rfl
    obtain rfl : rgb = rgb' := Except.ok.inj (hrgb.symm.trans hrgb')
    rw [MotionDetector.process_of_reference href hcount,
      MotionDetector.process_of_reference href' hcount]
    by_cases hdim : f.dim = g.dim
    · cases hfrgb : f.toRgb decode with
      | error e =>
        rw [MotionDetector.compareWith_unconverted hdim (h.decoder ▸ hfrgb),
          MotionDetector.compareWith_unconverted hdim (h'.decoder ▸ hfrgb)]
      | ok cur =>
        obtain ⟨⟨on, hon⟩, ⟨on', hon'⟩⟩ := same.panTilt
        have hcur : Reference.ofFrame decode f = .ok (f.referenceOf cur) :=
          Reference.ofFrame_eq_ok_iff.mpr ⟨cur, hfrgb, rfl⟩
        obtain ⟨hwidth, hheight⟩ : f.width = g.width ∧ f.height = g.height := Prod.mk.inj hdim
        have hprev := Frame.length_lumas hrgb
        rw [← hwidth, ← hheight] at hprev
        rw [MotionDetector.compareWith_eq hdim (h.decoder ▸ hcur) hon,
          MotionDetector.compareWith_eq hdim (h'.decoder ▸ hcur) hon', MotionDetector.look,
          MotionDetector.look, h.backend, h'.backend, maskFor_fst h.mask, maskFor_fst h'.mask]
        rw [map_map_except, map_map_except]
        exact reading_detectBuiltin same (Frame.length_lumas hfrgb) hprev (hmask cur hfrgb)
          (hmask' cur hfrgb)
    · rw [MotionDetector.compareWith_resized hdim, MotionDetector.compareWith_resized hdim]

/-- The session after a call, by the answer to it. -/
theorem see_eq (s : Session) (c : Showing) :
    s.see c =
      ⟨(s.detector.answer c).2,
        match readingOf (s.detector.answer c).1 with
        | .ok _ => some c.frame
        | .error _ => s.latest⟩ := by
  unfold see
  cases hanswer : s.detector.answer c with
  | mk answer left =>
    cases answer with
    | ok r => rfl
    | error e =>
      have hleft := MotionDetector.answer_snd_of_error (congrArg Prod.fst hanswer)
      rw [hanswer] at hleft
      rw [hleft]
      rfl

/-- A call has the same numbers, and leaves the same frame to be remembered. -/
theorem readingOf_answer (h : Faithful decode mask ⟨d, latest⟩)
    (h' : Faithful decode mask' ⟨d', latest⟩) (hc : Alike c c')
    (hfull : ∀ m, mask = some m → m.IsFull) (hfull' : ∀ m, mask' = some m → m.IsFull)
    (hmask : CoversFrame decode mask c.frame) (hmask' : CoversFrame decode mask' c.frame) :
    readingOf (d.answer c).1 = readingOf (d'.answer c').1 ∧
      ∃ next, Faithful decode mask ⟨(d.answer c).2, next⟩ ∧
        Faithful decode mask' ⟨(d'.answer c').2, next⟩ := by
  have hreading : readingOf (d.answer c).1 = readingOf (d'.answer c').1 := by
    cases hc with
    | prime f =>
      unfold MotionDetector.answer MotionDetector.prime
      dsimp only
      rw [h.decoder, h'.decoder]
      cases Reference.ofFrame decode f <;> rfl
    | process f same =>
      have hprocess := congrArg (Except.map some) (reading_process h h' same
        (fun _ hrgb => hmask.selectsAll hfull hrgb) (fun _ hrgb => hmask'.selectsAll hfull' hrgb))
      rw [map_map_except, map_map_except] at hprocess
      exact (readingOf_process.trans hprocess).trans readingOf_process.symm
  refine ⟨hreading, _, see_eq ⟨d, latest⟩ c ▸ faithful_see h c, ?_⟩
  have hframe : c'.frame = c.frame := by cases hc <;> rfl
  have hsee := see_eq ⟨d', latest⟩ c' ▸ faithful_see h' c'
  rw [hframe, ← hreading] at hsee
  exact hsee

theorem readings_of_faithful {calls calls' : List Showing} (h : Faithful decode mask ⟨d, latest⟩)
    (h' : Faithful decode mask' ⟨d', latest⟩) (hcalls : List.Forall₂ Alike calls calls')
    (hfull : ∀ m, mask = some m → m.IsFull) (hfull' : ∀ m, mask' = some m → m.IsFull)
    (hmask : ∀ c ∈ calls, CoversFrame decode mask c.frame)
    (hmask' : ∀ c ∈ calls, CoversFrame decode mask' c.frame) :
    (d.answers calls).map readingOf = (d'.answers calls').map readingOf := by
  induction hcalls generalizing d d' latest with
  | nil => rfl
  | @cons c c' calls calls' hc _ ih =>
    have hmem := List.mem_cons_self (a := c) (l := calls)
    obtain ⟨hreading, next, hnext, hnext'⟩ :=
      readingOf_answer h h' hc hfull hfull' (hmask c hmem) (hmask' c hmem)
    rw [MotionDetector.answers, MotionDetector.answers, List.map_cons, List.map_cons, hreading]
    refine congrArg _ (ih hnext hnext' ?_ ?_)
    · exact fun c hc => hmask c (List.mem_cons_of_mem _ hc)
    · exact fun c hc => hmask' c (List.mem_cons_of_mem _ hc)

/-! ## A white frame after a black one -/

/-- The grey values of bytes that are all the same. -/
theorem lumasOfRgb_replicate (n : Nat) (v : UInt8) :
    lumasOfRgb (.replicate (n * 3) v) = .replicate n (Rgb.grey v).luma := by
  induction n with
  | zero => rfl
  | succ n ih =>
    rw [Nat.succ_mul, List.replicate_succ (n := n), ← ih]
    rfl

/-- The calls of a white frame after a black one. -/
def contrast {width height : Nat} (h : Paintable width height) : List Showing :=
  [.prime (flat 0 h 0), .process motionDefaults (flat 0 h 255)]

/-- What is reported of some calls to a builtin detector. -/
def readings (decode : Decoder) (mask : Option SelectionMask) (calls : List Showing) :
    List (Except (Fault DetectionError) (Option Reading)) :=
  ((start decode mask).detector.answers calls).map readingOf

/-- The numbers of changed pixels that are reported. -/
def counts (decode : Decoder) (mask : Option SelectionMask) (calls : List Showing) :
    List (Option (Option Nat)) :=
  (readings decode mask calls).map fun r => r.toOption.map (·.map Reading.changed)

/-- With the initial settings everything is judged. -/
theorem exists_judge_motionDefaults (on : Bool) (width height : Nat) (stats : ChangeStatistics) :
    ∃ seen, Workbench.judge motionDefaults on width height stats = .ok seen ∧
      seen.stats = stats := by
  have hlow : motionDefaults.getDouble ParameterName.minPixelsChanged = .ok 1.0 := rfl
  have hhigh : motionDefaults.getDouble ParameterName.maxPixelsChanged = .ok 100.0 := rfl
  unfold Workbench.judge
  simp only [hlow, hhigh, Fault.ofRead_ok, ok_bind]
  split
  · exact ⟨_, rfl, rfl⟩
  · exact ⟨_, rfl, rfl⟩

theorem toRgb_flat {width height : Nat} (h : Paintable width height) (v : UInt8) :
    (flat 0 h v).toRgb decode = .ok (flat 0 h v).data := rfl

/-- What is remembered of a frame all of whose bytes are the same. -/
theorem ofFrame_flat {width height : Nat} (h : Paintable width height) (v : UInt8) :
    Reference.ofFrame decode (flat 0 h v) = .ok
      ⟨width, height, .replicate (width * height) (Rgb.grey v).luma, (flat 0 h v).data⟩ := by
  refine Reference.ofFrame_eq_ok_iff.mpr ⟨(flat 0 h v).data, toRgb_flat h v, ?_⟩
  rw [← lumasOfRgb_replicate]
  rfl

/-- If every pixel turns from black to white, the selected ones are counted. -/
theorem changed_of_white {width height : Nat} {on : Bool} {bits : Option (Array Bool)}
    {stats : ChangeStatistics}
    (h : MotionDetector.statistics width height 32 "" on bits (.replicate (width * height) 255)
      (.replicate (width * height) 0) = some stats) :
    stats.changed = ((List.range (width * height)).filter (selects bits)).length := by
  have hdistances : (despeckle (MotionDetector.distanceMap width height
      (.replicate (width * height) 255) (.replicate (width * height) 0)) "").toList =
        .replicate (width * height) 255 := by
    change List.zipWith lumaDistance (.replicate (width * height) 255) (.replicate _ 0) = _
    rw [List.zipWith_replicate, Nat.min_self]
    rfl
  have hloud : ∀ d ∈ List.replicate (width * height) (255 : UInt8), (32 : Int) ≤ d.toNat := by
    intro d hd
    rw [List.eq_of_mem_replicate hd]
    decide
  obtain ⟨hchanged, -, -⟩ :=
    MotionDetector.of_statistics List.length_replicate List.length_replicate h
  rw [hchanged, hdistances, length_changedPixels_of_le hloud, List.length_replicate]

/-- **Of a white frame after a black one all selected pixels are counted.** -/
theorem counts_contrast {width height : Nat} (h : Paintable width height)
    (hmask : ∀ m, mask = some m → m.Copies m) :
    counts decode mask (contrast h) = [some none, some (some ((List.range (width * height)).filter
      (selects (mask.map (·.bitsAt width height)))).length)] := by
  have hnoise : motionDefaults.getInt ParameterName.noiseFactor = .ok 32 := rfl
  have hpattern : motionDefaults.getString ParameterName.despeckleFilter = .ok "" := rfl
  have hpan : motionDefaults.getBool ParameterName.panTilt = .ok false := rfl
  have hcount : (flat 0 h 255).area ≤ maxCount :=
    Frame.area_le_of_toRgb (show (flat 0 h 255).toRgb decode = _ from toRgb_flat h 255)
  -- The detector after the black frame.
  let black : Reference := ⟨width, height, .replicate (width * height) 0, (flat 0 h 0).data⟩
  let d : MotionDetector := ⟨decode, .builtin, mask, some black⟩
  have hprime : (start decode mask).detector.answer (.prime (flat 0 h 0)) = (.ok (none, []), d) := by
    unfold MotionDetector.answer MotionDetector.prime start
    dsimp only
    rw [ofFrame_flat]
    rfl
  -- It sees the white one.
  obtain ⟨stats, hstats⟩ := exists_statistics 32 false (mask.map (·.bitsAt width height))
    (List.length_replicate (a := (255 : UInt8))) (List.length_replicate (a := (0 : UInt8)))
  obtain ⟨seen, hseen, rfl⟩ := exists_judge_motionDefaults false width height stats
  have hprocess : readingOf (d.answer (.process motionDefaults (flat 0 h 255))).1 =
      .ok (some seen.reading) := by
    rw [readingOf_process, MotionDetector.process_of_reference rfl hcount,
      MotionDetector.compareWith_eq rfl (ofFrame_flat h 255) hpan, map_map_except,
      MotionDetector.look, maskFor_fst (SelectionMask.Copies.rel_self hmask)]
    dsimp only
    rw [Workbench.detectBuiltin_eq hnoise hpattern]
    have hblack : black.luma = .replicate (width * height) 0 := rfl
    have hwhite : (Rgb.grey 255).luma = 255 := rfl
    have hwidth : (flat 0 h 255).width = width := rfl
    have hheight : (flat 0 h 255).height = height := rfl
    rw [hblack, hwhite, hwidth, hheight, hstats, Option.elim_some, hseen]
    rfl
  rw [← changed_of_white hstats, counts, readings, contrast, MotionDetector.answers,
    MotionDetector.answers, MotionDetector.answers, hprime]
  simp only [List.map_cons, hprocess]
  rfl

/-- Without a mask everything is selected. -/
theorem filter_selects_none (n : Nat) : (List.range n).filter (selects none) = List.range n :=
  List.filter_eq_self.mpr fun _ _ => rfl

/-- **Looking for positions makes no difference.** Two detectors are shown the same frames. Each of
them has no mask, or one that selects everything, and for each frame either of them looks for
positions to turn a camera, or does not. All numbers that they report are the same, and they fail
on the same frames, as long as the masks cover all frames that can be converted. For frames of a
size that a mask does not cover this is not so. -/
theorem readings_agree (decode : Decoder) :
    (∀ mask mask' : Option SelectionMask, (∀ m, mask = some m → m.IsFull) →
      (∀ m, mask' = some m → m.IsFull) → ∀ calls calls', List.Forall₂ Alike calls calls' →
        (∀ c ∈ calls, CoversFrame decode mask c.frame ∧ CoversFrame decode mask' c.frame) →
          readings decode mask calls = readings decode mask' calls') ∧
    ∀ m : SelectionMask, m.IsFull → ∀ width height, Paintable width height →
      ((∀ calls calls', List.Forall₂ Alike calls calls' →
          (∀ c ∈ calls, c.frame.dim = (width, height)) →
            readings decode none calls = readings decode (some m) calls') ↔
        m.Covers width height) := by
  have hagree {mask mask' : Option SelectionMask} (hfull : ∀ m, mask = some m → m.IsFull)
      (hfull' : ∀ m, mask' = some m → m.IsFull) {calls calls' : List Showing}
      (hcalls : List.Forall₂ Alike calls calls')
      (hcovers : ∀ c ∈ calls, CoversFrame decode mask c.frame ∧ CoversFrame decode mask' c.frame) :
      readings decode mask calls = readings decode mask' calls' :=
    readings_of_faithful (faithful_start fun m hm => (hfull m hm).kept)
      (faithful_start fun m hm => (hfull' m hm).kept) hcalls hfull hfull'
      (fun c hc => (hcovers c hc).1) fun c hc => (hcovers c hc).2
  refine ⟨fun _ _ hfull hfull' _ _ => hagree hfull hfull', ?_⟩
  intro m hm width height hsize
  have hfull : ∀ m', some m = some m' → m'.IsFull := fun _ heq => Option.some.inj heq ▸ hm
  have hnone : ∀ m : SelectionMask, none = some m → m.IsFull := nofun
  constructor
  · intro hsame
    have hdefaults : SameNumbers motionDefaults motionDefaults :=
      ⟨rfl, ⟨rfl, rfl⟩, rfl, rfl, ⟨false, rfl⟩, ⟨false, rfl⟩⟩
    have hcontrast : List.Forall₂ Alike (contrast hsize) (contrast hsize) :=
      .cons (.prime _) (.cons (.process _ hdefaults) .nil)
    have hframes : ∀ c ∈ contrast hsize, c.frame.dim = (width, height) := by
      intro c hc
      simp only [contrast, List.mem_cons, List.not_mem_nil, or_false] at hc
      rcases hc with rfl | rfl
      · rfl
      · rfl
    have hcounts : counts decode none (contrast hsize) = counts decode (some m) (contrast hsize) :=
      congrArg (List.map _) (hsame _ _ hcontrast hframes)
    rw [counts_contrast hsize fun m' hm' => (hnone m' hm').kept,
      counts_contrast hsize fun m' hm' => (hfull m' hm').kept] at hcounts
    simp only [List.cons.injEq, Option.some.injEq, and_true, true_and] at hcounts
    -- All pixels are counted without a mask, so they are with this one.
    refine (hm.selectsAll_iff ⟨hsize.1, hsize.2.1⟩).mp fun i hi => ?_
    rw [Option.map_none, filter_selects_none, eq_comm, List.length_filter_eq_length_iff] at hcounts
    exact hcounts i (List.mem_range.mpr hi)
  · intro hcovers calls calls' hcalls hframes
    refine hagree hnone hfull hcalls fun c hc => ⟨nofun, fun m' hm' _ _ => ?_⟩
    obtain rfl := Option.some.inj hm'
    obtain ⟨hwidth, hheight⟩ := Prod.mk.inj (hframes c hc)
    rwa [hwidth, hheight]

/-- Settings with which a camera is turned. -/
def steered : ParameterSet :=
  (motionDefaults.applyOverrides [(ParameterName.panTilt, .bool true)]).1

/-- A row of three pixels, all of them selected. -/
def wideOpen : SelectionMask := ⟨3, 1, #[true, true, true], none⟩

/-- The calls with the spark. A detector that cannot decode streams fails on the second one. -/
def sparkCalls (params : ParameterSet) : List Showing :=
  [.prime dark, .process params garbled, .process params spark]

/-- The spark is one pixel, whether its position is looked for or not. -/
theorem readings_agree_spark :
    let decode : Decoder := fun _ => none
    readings decode none (sparkCalls motionDefaults) =
        readings decode (some wideOpen) (sparkCalls steered) ∧
      counts decode none (sparkCalls motionDefaults) = [some none, none, some (some 1)] := by
  intro decode
  have hset : motionDefaults.set ParameterName.panTilt (.bool true) = .ok steered := rfl
  have same : SameNumbers motionDefaults steered := sameNumbers_set hset rfl rfl
  have hfull : ∀ m, some wideOpen = some m → m.IsFull := by
    rintro m ⟨⟩
    exact ⟨rfl, .refl rfl, by simp [wideOpen]⟩
  refine ⟨(readings_agree decode).1 none (some wideOpen) nofun hfull _ _ ?_ ?_, by decide⟩
  · exact .cons (.prime dark) (.cons (.process _ same) (.cons (.process spark same) .nil))
  · intro c hc
    refine ⟨nofun, ?_⟩
    rintro m ⟨⟩ rgb -
    simp only [sparkCalls, List.mem_cons, List.not_mem_nil, or_false] at hc
    rcases hc with rfl | rfl | rfl
    · decide
    · decide
    · decide

/-- A single pixel that is selected. -/
def pinhole : SelectionMask := ⟨1, 1, #[true], none⟩

/-- **A row that is not covered:** without a mask all of its `2 ^ 32` pixels are counted, and with a
mask that selects everything none of them is. -/
theorem long_row_is_not_counted :
    pinhole.IsFull ∧ ∃ h : Paintable 4294967296 1, ∀ decode,
      counts decode none (contrast h) = [some none, some (some 4294967296)] ∧
      counts decode (some pinhole) (contrast h) = [some none, some (some 0)] := by
  have h : Paintable 4294967296 1 := by
    unfold Paintable
    decide
  have hnone : ∀ m : SelectionMask, none = some m → m.Copies m := nofun
  have hpinhole : ∀ m : SelectionMask, some pinhole = some m → m.Copies m := by
    rintro m ⟨⟩
    exact .refl rfl
  refine ⟨⟨rfl, .refl rfl, by simp [pinhole]⟩, h, fun decode => ⟨?_, ?_⟩⟩
  · rw [counts_contrast h hnone, Option.map_none, filter_selects_none, List.length_range]
  · have hempty : pinhole.bitsAt 4294967296 1 = #[] := by decide
    have hfilter : (List.range (4294967296 * 1)).filter (selects (some #[])) = [] :=
      List.filter_eq_nil_iff.mpr fun _ _ => Bool.false_ne_true
    rw [counts_contrast h hpinhole, Option.map_some, hempty, hfilter, List.length_nil]

end Session

end MotionWatch
