import MotionWatch.Proofs.Despeckle.Reach
import MotionWatch.Proofs.Detection.Session

/-!
# Which pixels matter

A detector with a mask only counts selected pixels. Despeckling looks at pixels around them, as far
as the pattern reaches. What happens further away has no influence on anything that is reported.

* `Selected`: the pixels of a picture that a mask selects.
* `changedPixels_eq`: the pixels that are counted, by their indices; `changedPixels_congr`: they
  only depend on the values at the selected pixels.
* `statistics_congr`, `detectBuiltin_congr`: so do the numbers and what follows from them.
* `far_pixels_have_no_influence`: so does everything that is reported, after any calls.
-/

namespace MotionWatch

/-- The pixels of a picture that a mask selects. -/
def Selected (mask : Option (Array Bool)) (width height : Nat) (p : Nat × Nat) : Prop :=
  p.1 < width ∧ p.2 < height ∧ selects mask (p.2 * width + p.1) = true

/-! ## One comparison -/

section Pixels

variable {m m' : Raster UInt8} {noise : Int} {mask : Option (Array Bool)}

/-- The pixels that are counted, by their indices. -/
theorem changedPixels_eq (hm : m.WellSized) : changedPixels m.width noise mask m.toList =
    ((List.range (m.width * m.height)).filter fun i =>
      selects mask i && noise ≤ (m.get (i % m.width) (i / m.width)).toNat).map fun i =>
        (i % m.width, i / m.width) := by
  rw [changedPixels, Raster.zipIdx_toList hm, List.filter_map, List.map_map]
  rfl

/-- Values at other pixels than the selected ones do not count. -/
theorem changedPixels_congr {width height : Nat} (hm : m.WellSized) (hm' : m'.WellSized)
    (hwidth : m.width = width) (hheight : m.height = height)
    (h : AgreeNear (Selected mask width height) 0 m m') :
    changedPixels width noise mask m.toList = changedPixels width noise mask m'.toList := by
  subst hwidth hheight
  rw [changedPixels_eq hm, ← h.width, changedPixels_eq hm', h.width, h.height]
  refine congrArg _ (List.filter_congr fun i hi => ?_)
  obtain ⟨hx, hy, heq⟩ := Raster.mod_div_index (List.mem_range.mp hi)
  cases hselects : selects mask i with
  | false => rfl
  | true =>
    have hselected : Selected mask m.width m.height (i % m.width, i / m.width) :=
      ⟨hx, hy, heq.symm ▸ hselects⟩
    rw [h.get_eq _ hx _ hy (near_zero_iff.mpr hselected)]

end Pixels

namespace MotionDetector

section Statistics

variable {width height : Nat} {cur cur' prev prev' : List UInt8} {noise : Int} {pattern : String}
  {panTilt : Bool} {bits : Array Bool}

/-- Differences out of reach of the selected pixels do not count. -/
theorem statistics_congr (hcur : cur.length = width * height)
    (hprev : prev.length = width * height) (hcur' : cur'.length = width * height)
    (hprev' : prev'.length = width * height)
    (h : AgreeNear (Selected (some bits) width height) (reach pattern)
      (distanceMap width height cur prev) (distanceMap width height cur' prev')) :
    statistics width height noise pattern panTilt (some bits) cur prev =
      statistics width height noise pattern panTilt (some bits) cur' prev' := by
  have hwell := wellSized_distanceMap hcur hprev
  have hwell' := wellSized_distanceMap hcur' hprev'
  have hlength : (despeckle (distanceMap width height cur prev) pattern).toList.length =
      (despeckle (distanceMap width height cur' prev') pattern).toList.length := by
    rw [Raster.length_toList (wellSized_despeckle hwell pattern), width_despeckle hwell,
      height_despeckle hwell, Raster.length_toList (wellSized_despeckle hwell' pattern),
      width_despeckle hwell', height_despeckle hwell']
    rfl
  have hpixels : changedPixels width noise (some bits)
      (despeckle (distanceMap width height cur prev) pattern).toList =
        changedPixels width noise (some bits)
          (despeckle (distanceMap width height cur' prev') pattern).toList :=
    changedPixels_congr (wellSized_despeckle hwell pattern) (wellSized_despeckle hwell' pattern)
      (width_despeckle hwell pattern) (height_despeckle hwell pattern) h.despeckle
  rw [statistics_eq hcur hprev, statistics_eq hcur' hprev']
  simp only [Option.isSome_some, Bool.true_or, if_true, ChangeStatistics.ofDistances]
  rw [hlength, hpixels]

/-- Grey values out of reach of the selected pixels make no differences that count. -/
theorem agreeNear_distanceMap {S : Nat × Nat → Prop} {r : Nat}
    (hcur : cur.length = width * height) (hprev : prev.length = width * height)
    (hcur' : cur'.length = width * height) (hprev' : prev'.length = width * height)
    (h : ∀ x < width, ∀ y < height, Near S r (x, y) →
      (⟨width, height, cur.toArray⟩ : Raster UInt8).get x y =
          (⟨width, height, cur'.toArray⟩ : Raster UInt8).get x y ∧
        (⟨width, height, prev.toArray⟩ : Raster UInt8).get x y =
          (⟨width, height, prev'.toArray⟩ : Raster UInt8).get x y) :
    AgreeNear S r (distanceMap width height cur prev) (distanceMap width height cur' prev') := by
  rw [distanceMap_eq hcur hprev, distanceMap_eq hcur' hprev']
  refine ⟨rfl, rfl, fun x hx y hy hnear => ?_⟩
  change x < width at hx
  change y < height at hy
  obtain ⟨hc, hp⟩ := h x hx y hy hnear
  rw [Raster.get_ofFn _ hx hy, Raster.get_ofFn _ hx hy, hc, hp]

end Statistics

/-- What a comparison says depends on the pictures by the statistics alone. -/
theorem detectBuiltin_congr {params : ParameterSet} {panTilt : Bool} {mask : Option (Array Bool)}
    {cur cur' prev prev' : Reference} {pattern : String}
    (hpattern : params.getString ParameterName.despeckleFilter = .ok pattern)
    (hwidth : cur.width = cur'.width) (hheight : cur.height = cur'.height)
    (h : ∀ noise,
      statistics cur.width cur.height noise pattern panTilt mask cur.luma prev.luma =
        statistics cur'.width cur'.height noise pattern panTilt mask cur'.luma prev'.luma) :
    detectBuiltin params panTilt mask cur prev = detectBuiltin params panTilt mask cur' prev' := by
  cases hnoise : params.getInt ParameterName.noiseFactor with
  | error m => rw [detectBuiltin_of_misuse hnoise, detectBuiltin_of_misuse hnoise]
  | ok noise =>
    unfold detectBuiltin
    rw [hnoise, hpattern]
    simp only [Fault.ofRead, mapError_ok, bind, Except.bind, h noise]
    rw [hwidth, hheight]

end MotionDetector

/-! ## All calls -/

namespace Session

variable {decode : Decoder} {m : SelectionMask} {d d' : MotionDetector} {params : ParameterSet}
  {pattern : String}
  {f f' g g' : Frame} {cur cur' ref ref' : Raster UInt8}

/-- What is reported and written of a frame only depends on the pixels within reach of the selected
ones, in this frame and in the one before. -/
theorem process_congr (h : Faithful decode (some m) ⟨d, some g⟩)
    (h' : Faithful decode (some m) ⟨d', some g'⟩) (hfsize : f'.dim = f.dim)
    (hgsize : g.dim = f.dim) (hgsize' : g'.dim = f.dim) (hcur : f.grey? decode = some cur)
    (hcur' : f'.grey? decode = some cur') (href : g.grey? decode = some ref)
    (href' : g'.grey? decode = some ref')
    (hpattern : params.getString ParameterName.despeckleFilter = .ok pattern)
    (hagree : ∀ x < f.width, ∀ y < f.height,
      Near (Selected (some (m.bitsAt f.width f.height)) f.width f.height) (reach pattern) (x, y) →
        cur.get x y = cur'.get x y ∧ ref.get x y = ref'.get x y) :
    (d.process params f).map Prod.snd = (d'.process params f').map Prod.snd := by
  obtain ⟨prgb, hprgb, hreference⟩ := h.later g rfl
  obtain ⟨prgb', hprgb', hreference'⟩ := h'.later g' rfl
  obtain ⟨rgb, hrgb, rfl⟩ := Frame.grey?_eq_some_iff.mp hcur
  obtain ⟨rgb', hrgb', rfl⟩ := Frame.grey?_eq_some_iff.mp hcur'
  obtain rfl := Option.some.inj ((Frame.grey?_eq_some_iff.mpr ⟨_, hprgb, rfl⟩).symm.trans href)
  obtain rfl := Option.some.inj ((Frame.grey?_eq_some_iff.mpr ⟨_, hprgb', rfl⟩).symm.trans href')
  -- All four pictures have the same size.
  obtain ⟨hw, hh⟩ : f'.width = f.width ∧ f'.height = f.height := Prod.mk.inj hfsize
  obtain ⟨hgw, hgh⟩ : g.width = f.width ∧ g.height = f.height := Prod.mk.inj hgsize
  obtain ⟨hgw', hgh'⟩ : g'.width = f.width ∧ g'.height = f.height := Prod.mk.inj hgsize'
  have hlength := Frame.length_lumas hrgb
  have hlength' := Frame.length_lumas hrgb'
  have hplength := Frame.length_lumas hprgb
  have hplength' := Frame.length_lumas hprgb'
  rw [hw, hh] at hlength' hagree
  rw [hgw, hgh] at hplength hagree
  rw [hgw', hgh'] at hplength' hagree
  have hsized : f'.dim = g'.dim := hfsize.trans hgsize'.symm
  rw [MotionDetector.process_of_reference hreference (Frame.area_le_of_toRgb hrgb),
    MotionDetector.process_of_reference hreference' (Frame.area_le_of_toRgb hrgb')]
  rw [← h.decoder] at hrgb
  rw [← h'.decoder] at hrgb'
  cases hpan : params.getBool ParameterName.panTilt with
  | error e =>
    rw [MotionDetector.compareWith_misuse hgsize.symm hrgb hpan,
      MotionDetector.compareWith_misuse hsized hrgb' hpan]
  | ok panTilt =>
    have hsame : MotionDetector.detectBuiltin params panTilt (some (m.bitsAt f.width f.height))
          (f.referenceOf rgb) (g.referenceOf prgb) =
        MotionDetector.detectBuiltin params panTilt (some (m.bitsAt f.width f.height))
          (f'.referenceOf rgb') (g'.referenceOf prgb') := by
      refine MotionDetector.detectBuiltin_congr hpattern hw.symm hh.symm fun noise => ?_
      dsimp only [Frame.referenceOf]
      rw [hw, hh]
      exact MotionDetector.statistics_congr hlength hplength hlength' hplength'
        (MotionDetector.agreeNear_distanceMap hlength hplength hlength' hplength' hagree)
    rw [MotionDetector.compareWith_eq hgsize.symm
        (Reference.ofFrame_eq_ok_iff.mpr ⟨rgb, hrgb, rfl⟩) hpan,
      MotionDetector.compareWith_eq hsized (Reference.ofFrame_eq_ok_iff.mpr ⟨rgb', hrgb', rfl⟩)
        hpan, map_map_except, map_map_except, MotionDetector.look, MotionDetector.look, h.backend,
      h'.backend, maskFor_fst h.mask, maskFor_fst h'.mask, hw, hh]
    exact congrArg (Except.map _) hsame

/-- **Motion out of reach has no influence.** Two detectors with the same mask and the same decoder
are shown a frame, each after calls of its own. If the grey values in these frames, and those in the
latest frames before them, are the same wherever despeckling can reach from a selected pixel, then
all that is reported and all that is written is the same. Without despeckling it is enough that they
are the same at the selected pixels. -/
theorem far_pixels_have_no_influence {calls calls' : List Showing} (hm : m.Copies m)
    (hlatest : ((start decode (some m)).seeAll calls).latest = some g)
    (hlatest' : ((start decode (some m)).seeAll calls').latest = some g')
    (hfsize : f'.dim = f.dim) (hgsize : g.dim = f.dim) (hgsize' : g'.dim = f.dim)
    (hcur : f.grey? decode = some cur) (hcur' : f'.grey? decode = some cur')
    (href : g.grey? decode = some ref) (href' : g'.grey? decode = some ref')
    (hpattern : params.getString ParameterName.despeckleFilter = .ok pattern) :
    let selected := Selected (some (m.bitsAt f.width f.height)) f.width f.height
    let agree (p : Nat × Nat) := cur.get p.1 p.2 = cur'.get p.1 p.2 ∧
      ref.get p.1 p.2 = ref'.get p.1 p.2
    let same :=
      (((start decode (some m)).seeAll calls).detector.process params f).map Prod.snd =
        (((start decode (some m)).seeAll calls').detector.process params f').map Prod.snd
    ((∀ x < f.width, ∀ y < f.height, Near selected (reach pattern) (x, y) → agree (x, y)) → same) ∧
      (pattern = "" → (∀ p, selected p → agree p) → same) := by
  intro selected agree same
  have hstart : Faithful decode (some m) (start decode (some m)) :=
    faithful_start fun _ heq => Option.some.inj heq ▸ hm
  have h := faithful_seeAll hstart calls
  have h' := faithful_seeAll hstart calls'
  have hsame : (∀ x < f.width, ∀ y < f.height,
      Near selected (reach pattern) (x, y) → agree (x, y)) → same :=
    process_congr (hlatest ▸ h) (hlatest' ▸ h') hfsize hgsize hgsize' hcur hcur' href href'
      hpattern
  refine ⟨hsame, fun hempty hselected => hsame fun x _ y _ hnear => ?_⟩
  subst hempty
  exact hselected _ (near_zero_iff.mp hnear)

/-- A row of four grey pixels. -/
def row (a b c d : UInt8) : Frame :=
  ⟨1, 4, 1, .rgb, [a, a, a, b, b, b, c, c, c, d, d, d],
    ⟨by decide, by decide, nofun, by rintro n ⟨⟩; rfl, by decide, nofun⟩⟩

/-- A mask that selects the first pixel of a row. -/
def firstOfRow : SelectionMask := ⟨4, 1, #[true, false, false, false], none⟩

/-- Settings with one pass that looks at two pixels on each side. -/
def eroding : ParameterSet :=
  (motionDefaults.applyOverrides [(ParameterName.despeckleFilter, .string "e")]).1

/-- The last pixel of a row is out of reach of the first one. -/
theorem far_pixels_have_no_influence_row :
    let decode : Decoder := fun _ => none
    let s := (start decode (some firstOfRow)).seeAll [.prime (row 0 0 0 0)]
    let s' := (start decode (some firstOfRow)).seeAll [.prime (row 9 9 9 9), .prime (row 0 0 0 90)]
    let outcome (s : Session) (params : ParameterSet) (f : Frame) :=
      (s.detector.process params f).map Prod.snd
    outcome s eroding (row 200 0 0 0) = outcome s' eroding (row 200 0 0 255) ∧
      outcome s motionDefaults (row 200 0 0 0) = outcome s' motionDefaults (row 200 0 0 255) ∧
      (outcome s motionDefaults (row 200 0 0 0)).toOption.map (fun r => r.1.stats.changed) =
        some 1 := by
  intro decode s s' outcome
  have hcur : (row 200 0 0 0).grey? decode = some ⟨4, 1, #[200, 0, 0, 0]⟩ := by decide
  have hcur' : (row 200 0 0 255).grey? decode = some ⟨4, 1, #[200, 0, 0, 255]⟩ := by decide
  have href : (row 0 0 0 0).grey? decode = some ⟨4, 1, #[0, 0, 0, 0]⟩ := by decide
  have href' : (row 0 0 0 90).grey? decode = some ⟨4, 1, #[0, 0, 0, 90]⟩ := by decide
  have hlatest : ((start decode (some firstOfRow)).seeAll [.prime (row 0 0 0 0)]).latest =
      some (row 0 0 0 0) := rfl
  have hlatest' : ((start decode (some firstOfRow)).seeAll
      [.prime (row 9 9 9 9), .prime (row 0 0 0 90)]).latest = some (row 0 0 0 90) := rfl
  have hfsize : (row 200 0 0 255).dim = (row 200 0 0 0).dim := rfl
  have hgsize : (row 0 0 0 0).dim = (row 200 0 0 0).dim := rfl
  have hgsize' : (row 0 0 0 90).dim = (row 200 0 0 0).dim := rfl
  have h {params : ParameterSet} {pattern : String}
      (hpattern : params.getString ParameterName.despeckleFilter = .ok pattern) :=
    far_pixels_have_no_influence (.refl rfl) hlatest hlatest' hfsize hgsize hgsize' hcur hcur' href href'
      hpattern
  have heroding : eroding.getString ParameterName.despeckleFilter = .ok "e" := rfl
  have hnone : motionDefaults.getString ParameterName.despeckleFilter = .ok "" := rfl
  -- The pictures are the same but for the last pixel, which is not selected.
  have hsame : ∀ x < 3, ∀ y < 1,
      (⟨4, 1, #[200, 0, 0, 0]⟩ : Raster UInt8).get x y =
          (⟨4, 1, #[200, 0, 0, 255]⟩ : Raster UInt8).get x y ∧
        (⟨4, 1, #[0, 0, 0, 0]⟩ : Raster UInt8).get x y =
          (⟨4, 1, #[0, 0, 0, 90]⟩ : Raster UInt8).get x y := by decide
  have hfirst : ∀ u < 4, ∀ v < 1, selects (some firstOfRow.bits) (v * 4 + u) = true → u = 0 := by
    decide
  refine ⟨(h heroding).1 ?_, (h hnone).2 rfl ?_, by decide⟩
  · rintro x - y hy ⟨⟨u, v⟩, ⟨hu, hv, hselects⟩, hdist⟩
    obtain rfl : u = 0 := hfirst u hu v hv hselects
    have hx : x ≤ 2 := (Nat.dist_zero_right x).symm.le.trans ((Nat.le_max_left ..).trans hdist)
    exact hsame x (Nat.lt_succ_of_le hx) y hy
  · rintro ⟨x, y⟩ ⟨hx, hy, hselects⟩
    obtain rfl : x = 0 := hfirst x hx y hy hselects
    exact hsame 0 (by decide) y hy

end Session

end MotionWatch
