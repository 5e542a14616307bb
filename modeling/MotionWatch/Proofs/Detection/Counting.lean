import Mathlib.Data.Finset.Prod
import MotionWatch.Proofs.Despeckle.Basic
import MotionWatch.Proofs.Detection.Comparison

/-!
# Counting changed pixels

* `mem_changedPixels`, `nodup_changedPixels`: which pixels are counted, each of them once;
  `lt_of_mem_changedPixels`: they lie in the picture; `length_changedPixels`: so their number is
  that of a set of pixels.
* `distanceMap`, `differences_eq`: the map in which they are counted.
* `statistics_eq`, `of_statistics`: the numbers are the same, whether positions are looked for or
  not; `statistics_eq_card`: what they are, in terms of the pictures. `statistics_eq_none_iff`:
  there are none if despeckling loses pixels.
* `of_detectBuiltin`, `detectBuiltin_eq_ok`: what follows from them.
-/

namespace MotionWatch

/-! ## Pixels -/

section Pixels

variable {D : Raster UInt8} {noise : Int} {mask : Option (Array Bool)} {x y : Nat}

/-- A pixel is counted if it is selected and its difference is at least the noise. -/
theorem mem_changedPixels (hD : D.WellSized) :
    (x, y) ∈ changedPixels D.width noise mask D.toList ↔
      (x < D.width ∧ y < D.height) ∧ selects mask (y * D.width + x) = true ∧
        noise ≤ (D.get x y).toNat := by
  unfold changedPixels
  simp only [List.mem_map, List.mem_filter, Prod.exists, List.mem_zipIdx_iff_getElem?,
    Bool.and_eq_true, decide_eq_true_eq, Prod.mk.injEq]
  constructor
  · rintro ⟨d, i, ⟨hd, hselected, hnoise⟩, rfl, rfl⟩
    have hi : i < D.width * D.height := by
      rw [← Raster.length_toList hD]
      exact (List.getElem?_eq_some_iff.mp hd).1
    obtain ⟨hx, hy, heq⟩ := Raster.mod_div_index hi
    rw [Raster.getElem?_toList_of_lt hD hi] at hd
    obtain rfl := Option.some.inj hd
    rw [heq]
    exact ⟨⟨hx, hy⟩, hselected, hnoise⟩
  · rintro ⟨⟨hx, hy⟩, hselected, hnoise⟩
    obtain ⟨hmod, hdiv⟩ := Raster.index_mod_div (y := y) hx
    exact ⟨D.get x y, y * D.width + x, ⟨Raster.getElem?_toList hD hx hy, hselected, hnoise⟩, hmod,
      hdiv⟩

/-- The pixels that are counted lie in the picture. -/
theorem lt_of_mem_changedPixels {width height : Nat} {distances : List UInt8} {p : Nat × Nat}
    (hlength : distances.length ≤ width * height)
    (hp : p ∈ changedPixels width noise mask distances) : p.1 < width ∧ p.2 < height := by
  obtain ⟨⟨d, i⟩, hi, rfl⟩ := List.mem_map.mp hp
  have hd := List.mem_zipIdx_iff_getElem?.mp (List.mem_filter.mp hi).1
  obtain ⟨hx, hy, -⟩ := Raster.mod_div_index
    ((List.getElem?_eq_some_iff.mp hd).1.trans_le hlength)
  exact ⟨hx, hy⟩

/-- No pixel is counted twice. -/
theorem nodup_changedPixels {width : Nat} {distances : List UInt8} :
    (changedPixels width noise mask distances).Nodup := by
  have hindex : (distances.zipIdx.map Prod.snd).Nodup := by
    rw [List.zipIdx_map_snd]
    exact List.nodup_range'
  unfold changedPixels
  refine List.Nodup.map_on ?_ ((List.Nodup.of_map _ hindex).filter _)
  rintro ⟨d, i⟩ hi ⟨d', j⟩ hj heq
  obtain ⟨hmod, hdiv⟩ := Prod.mk.inj heq
  have hij : i = j := by rw [← Nat.div_add_mod i width, ← Nat.div_add_mod j width, hmod, hdiv]
  subst hij
  have hd := List.mem_zipIdx_iff_getElem?.mp (List.mem_filter.mp hi).1
  have hd' := List.mem_zipIdx_iff_getElem?.mp (List.mem_filter.mp hj).1
  rw [hd] at hd'
  exact congrArg (·, i) (Option.some.inj hd')

/-- **The pixels that are counted are a set.** -/
theorem length_changedPixels (hD : D.WellSized) (noise : Int) (mask : Option (Array Bool)) :
    (changedPixels D.width noise mask D.toList).length =
      ((Finset.range D.width ×ˢ Finset.range D.height).filter fun p =>
        selects mask (p.2 * D.width + p.1) = true ∧ noise ≤ (D.get p.1 p.2).toNat).card := by
  rw [← List.toFinset_card_of_nodup nodup_changedPixels]
  refine congrArg Finset.card (Finset.ext fun p => ?_)
  obtain ⟨x, y⟩ := p
  rw [List.mem_toFinset, mem_changedPixels hD, Finset.mem_filter, Finset.mem_product,
    Finset.mem_range, Finset.mem_range]

/-- Without a mask the pixels need no positions. -/
theorem length_changedPixels_none (width : Nat) (distances : List UInt8) :
    (changedPixels width noise none distances).length =
      distances.countP fun d => noise ≤ d.toNat := by
  have hfst : distances.countP (fun d => noise ≤ d.toNat) =
      (distances.zipIdx.map Prod.fst).countP fun d => noise ≤ d.toNat := by
    rw [List.zipIdx_map_fst]
  rw [hfst, changedPixels, List.length_map, List.countP_map, List.countP_eq_length_filter]
  rfl

end Pixels

/-! ## Statistics -/

namespace ChangeStatistics

variable {width : Nat} {noise : Int} {mask : Option (Array Bool)} {distances : List UInt8}

theorem changed_ofDistances : (ofDistances width noise mask distances).changed =
    (changedPixels width noise mask distances).length := by
  unfold ofDistances
  dsimp only
  split <;> rfl

theorem pixels_ofDistances :
    (ofDistances width noise mask distances).pixels = distances.length := by
  unfold ofDistances
  dsimp only
  split <;> rfl

theorem percent_ofDistances : (ofDistances width noise mask distances).percent =
    percentage (changedPixels width noise mask distances).length distances.length := by
  unfold ofDistances
  dsimp only
  split <;> rfl

end ChangeStatistics

namespace MotionDetector

section Statistics

variable {width height : Nat} {cur prev : List UInt8}

/-- The map of the differences of grey values. -/
def distanceMap (width height : Nat) (cur prev : List UInt8) : Raster UInt8 :=
  ⟨width, height, (lumaDistances cur prev).toArray⟩

theorem wellSized_distanceMap (hcur : cur.length = width * height)
    (hprev : prev.length = width * height) : (distanceMap width height cur prev).WellSized := by
  refine Raster.wellSized_mk ?_
  rw [lumaDistances, List.length_zipWith, hcur, hprev, Nat.min_self]

/-- The map in terms of the pictures. -/
theorem distanceMap_eq (hcur : cur.length = width * height) (hprev : prev.length = width * height) :
    distanceMap width height cur prev =
      .ofFn width height fun x y => lumaDistance
        ((⟨width, height, cur.toArray⟩ : Raster UInt8).get x y)
        ((⟨width, height, prev.toArray⟩ : Raster UInt8).get x y) := by
  have hwell := wellSized_distanceMap hcur hprev
  refine Raster.ext_get hwell (Raster.wellSized_ofFn ..) rfl rfl fun x hx y hy => ?_
  change x < width at hx
  change y < height at hy
  rw [Raster.get_ofFn _ hx hy]
  have hc := Raster.getElem?_toList (Raster.wellSized_mk hcur) hx hy
  have hp := Raster.getElem?_toList (Raster.wellSized_mk hprev) hx hy
  have hd := Raster.getElem?_toList hwell hx hy
  change cur[y * width + x]? = _ at hc
  change prev[y * width + x]? = _ at hp
  change (List.zipWith lumaDistance cur prev)[y * width + x]? = _ at hd
  rw [List.getElem?_zipWith, hc, hp] at hd
  exact (Option.some.inj hd).symm

/-- The differences are those of the map, as long as despeckling keeps all pixels. -/
theorem differences_eq (hcur : cur.length = width * height) (hprev : prev.length = width * height)
    (pattern : String) :
    differences width height pattern cur prev =
      if Keeps width height pattern then
        some (despeckle (distanceMap width height cur prev) pattern).toList
      else none := by
  have hlength : (lumaDistances cur prev).length = width * height :=
    wellSized_distanceMap hcur hprev
  unfold differences
  dsimp only
  split
  · next hempty =>
    obtain rfl := String.isEmpty_iff.mp hempty
    rw [if_pos (.inl rfl)]
    rfl
  · exact (despeckleValues_eq ..).trans (if_congr (and_iff_right hlength) rfl rfl)

/-- **What is counted**, whether positions are looked for or not. -/
theorem statistics_eq (hcur : cur.length = width * height) (hprev : prev.length = width * height)
    (noise : Int) (pattern : String) (panTilt : Bool) (mask : Option (Array Bool)) :
    statistics width height noise pattern panTilt mask cur prev =
      if Keeps width height pattern then
        let distances := (despeckle (distanceMap width height cur prev) pattern).toList
        some (if (mask.isSome || panTilt || !pattern.isEmpty) = true then
          .ofDistances width noise mask distances
        else .ofCount (distances.countP fun d => noise ≤ d.toNat) (width * height))
      else none := by
  unfold statistics
  by_cases hpath : (mask.isSome || panTilt || !pattern.isEmpty) = true
  · simp only [if_pos hpath, differences_eq hcur hprev]
    split <;> rfl
  · simp only [if_neg hpath]
    simp only [Bool.or_eq_true, not_or, Bool.not_eq_true, Bool.not_eq_false'] at hpath
    obtain rfl := String.isEmpty_iff.mp hpath.2
    rw [if_pos (.inl rfl)]
    rfl

theorem statistics_eq_none_iff {noise : Int} {pattern : String} {panTilt : Bool}
    {mask : Option (Array Bool)} (hcur : cur.length = width * height)
    (hprev : prev.length = width * height) :
    statistics width height noise pattern panTilt mask cur prev = none ↔
      ¬Keeps width height pattern := by
  rw [statistics_eq hcur hprev, ite_eq_right_iff]
  exact forall_congr' fun _ => iff_of_false nofun id

/-- **Looking for positions does not change the numbers.** -/
theorem of_statistics {noise : Int} {pattern : String} {panTilt : Bool}
    {mask : Option (Array Bool)} {s : ChangeStatistics} (hcur : cur.length = width * height)
    (hprev : prev.length = width * height)
    (h : statistics width height noise pattern panTilt mask cur prev = some s) :
    let ps := changedPixels width noise mask
      (despeckle (distanceMap width height cur prev) pattern).toList
    s.changed = ps.length ∧ s.pixels = width * height ∧
      s.percent = percentage ps.length (width * height) := by
  intro ps
  have hwell := wellSized_distanceMap hcur hprev
  have hlength : (despeckle (distanceMap width height cur prev) pattern).toList.length =
      width * height := by
    rw [Raster.length_toList (wellSized_despeckle hwell pattern), width_despeckle hwell,
      height_despeckle hwell]
    rfl
  rw [statistics_eq hcur hprev] at h
  obtain ⟨-, h⟩ := Option.ite_none_right_eq_some.mp h
  obtain rfl := Option.some.inj h
  split
  · rw [← hlength]
    exact ⟨ChangeStatistics.changed_ofDistances, ChangeStatistics.pixels_ofDistances,
      ChangeStatistics.percent_ofDistances⟩
  · next hpath =>
    simp only [Bool.or_eq_true, not_or, Bool.not_eq_true, Option.isSome_eq_false_iff,
      Option.isNone_iff_eq_none] at hpath
    obtain rfl := hpath.1.1
    rw [show ps.length = _ from length_changedPixels_none width _]
    exact ⟨rfl, rfl, rfl⟩

/-- **What is counted**, in terms of the pictures. -/
theorem statistics_eq_card {noise : Int} {pattern : String} {panTilt : Bool}
    {mask : Option (Array Bool)} {s : ChangeStatistics} (hcur : cur.length = width * height)
    (hprev : prev.length = width * height)
    (h : statistics width height noise pattern panTilt mask cur prev = some s) :
    let D := despeckle
      (.ofFn width height fun x y => lumaDistance
        ((⟨width, height, cur.toArray⟩ : Raster UInt8).get x y)
        ((⟨width, height, prev.toArray⟩ : Raster UInt8).get x y)) pattern
    let changed := ((Finset.range width ×ˢ Finset.range height).filter fun p =>
      selects mask (p.2 * width + p.1) = true ∧ noise ≤ (D.get p.1 p.2).toNat).card
    s.changed = changed ∧ s.pixels = width * height ∧
      s.percent = percentage changed (width * height) := by
  rw [← distanceMap_eq hcur hprev]
  intro D changed
  have hwell := wellSized_distanceMap hcur hprev
  have hlength : (changedPixels width noise mask D.toList).length = changed := by
    have h := length_changedPixels (wellSized_despeckle hwell pattern) noise mask
    rw [width_despeckle hwell, height_despeckle hwell] at h
    exact h
  rw [← hlength]
  exact of_statistics hcur hprev h

end Statistics

section Detect

variable {params : ParameterSet} {panTilt : Bool} {mask : Option (Array Bool)}
  {cur prev : Reference} {seen : Detection} {noise : Int} {pattern : String} {low high : Float}

/-- No pictures are compared without a noise factor. -/
theorem detectBuiltin_of_misuse {m : Misuse}
    (h : params.getInt ParameterName.noiseFactor = .error m) :
    detectBuiltin params panTilt mask cur prev = .error (.crashed (some m)) := by
  unfold detectBuiltin
  rw [h]
  rfl

/-- What a comparison counts, and how far a camera is to be turned after it. -/
theorem of_detectBuiltin (h : detectBuiltin params panTilt mask cur prev = .ok seen) :
    (∃ noise pattern,
      statistics cur.width cur.height noise pattern panTilt mask cur.luma prev.luma =
        some seen.stats) ∧
      seen.factors = if seen.triggered && panTilt then
        dampingFactors cur.width cur.height seen.stats else (1.0, 1.0) := by
  obtain ⟨noise, -, h⟩ := exists_of_bind_eq_ok h
  obtain ⟨pattern, -, h⟩ := exists_of_bind_eq_ok h
  obtain ⟨stats, hstats, h⟩ := exists_of_bind_eq_ok h
  have hstats := elim_error_eq_ok_iff.mp hstats
  obtain ⟨low, -, h⟩ := exists_of_bind_eq_ok h
  dsimp only at h
  split at h
  · obtain ⟨high, -, h⟩ := exists_of_bind_eq_ok h
    obtain rfl := Except.ok.inj h
    exact ⟨⟨noise, pattern, hstats⟩, rfl⟩
  · obtain rfl := Except.ok.inj h
    exact ⟨⟨noise, pattern, hstats⟩, rfl⟩

/-- What a comparison says, by the settings at that time. -/
theorem detectBuiltin_eq_ok (hnoise : params.getInt ParameterName.noiseFactor = .ok noise)
    (hpattern : params.getString ParameterName.despeckleFilter = .ok pattern)
    (hlow : params.getDouble ParameterName.minPixelsChanged = .ok low)
    (hhigh : params.getDouble ParameterName.maxPixelsChanged = .ok high)
    (h : detectBuiltin params panTilt mask cur prev = .ok seen) :
    statistics cur.width cur.height noise pattern panTilt mask cur.luma prev.luma =
        some seen.stats ∧
      (seen.triggered = true ↔ low < seen.stats.percent ∧ seen.stats.percent < high) ∧
      seen.text = none := by
  unfold detectBuiltin at h
  simp only [hnoise, hpattern, Fault.ofRead_ok, ok_bind] at h
  obtain ⟨stats, hstats, h⟩ := exists_of_bind_eq_ok h
  have hstats := elim_error_eq_ok_iff.mp hstats
  simp only [hlow, hhigh, Fault.ofRead_ok, ok_bind] at h
  split at h
  · next hlt =>
    obtain rfl := Except.ok.inj h
    refine ⟨hstats, ?_, rfl⟩
    exact ⟨fun ht => ⟨hlt, of_decide_eq_true ht⟩, fun ht => decide_eq_true ht.2⟩
  · next hle =>
    obtain rfl := Except.ok.inj h
    refine ⟨hstats, ?_, rfl⟩
    exact ⟨fun ht => absurd ht Bool.false_ne_true, fun ht => absurd ht.1 hle⟩

end Detect

end MotionDetector

end MotionWatch
