import MotionWatch.Proofs.Block.Fill
import MotionWatch.Proofs.Decimal.Integer
import MotionWatch.Proofs.Single

/-!
# Comparisons of pictures in blocks do not fail

A detector that is made of a line of settings compares any two pictures of the same size, also of
size zero. It looks up values only where there are some, and divides by zero nowhere: not when it
finds the number of blocks, because settings are positive and not too small, and not when it takes
averages.

* `Accepted`: settings that have been checked. `accepted_of_ofText`: those of a line.
  `Accepted.blockWidth_beq_zero`: the width of a block is not rounded to zero.
* `Checked.changed`, `Checked.gridSide`, `Checked.compare`: the steps of the comparison, checked.
  `compare_eq_ok`: no check fails.
* `exists_checked_report`: what a comparison reports and what it counts.
-/

namespace MotionWatch

open Block Single

/-! ## Settings -/

namespace BlockDetector

variable {d d' : BlockDetector} {line key value : String}

/-- Settings that have been checked. -/
structure Accepted (d : BlockDetector) : Prop where
  minSize_pos : 0.0 < d.minSize
  minSize_le : d.minSize ≤ 1.0
  subdivide_pos : 0 < d.subdivide
  subdivide_le : d.subdivide ≤ maxCount

/-- A number of blocks is read as a count. -/
theorem subdivide_le_of_assign (hd : d.subdivide ≤ maxCount) (h : d.assign key value = .ok d') :
    d'.subdivide ≤ maxCount := by
  unfold assign at h
  split at h
  · split at h <;> cases h
    exact hd
  · split at h
    · split at h <;> cases h
      next hread => exact Decimal.readNat_le hread
    · split at h
      · split at h <;> cases h
        exact hd
      · cases h

/-- **The settings of a line have been checked.** -/
theorem accepted_of_ofText (h : ofText line = .ok d) : d.Accepted := by
  unfold ofText at h
  obtain ⟨read, hread, h⟩ := exists_of_bind_eq_ok h
  have hcount : read.subdivide ≤ maxCount :=
    of_foldlM_eq_ok (P := fun d => d.subdivide ≤ maxCount) (by decide)
      (fun _ _ _ hd hassign => subdivide_le_of_assign hd hassign) hread
  split at h
  · cases h
  · next hsize =>
    split at h
    · cases h
    · next hzero =>
      cases h
      obtain ⟨hpos, hle⟩ := not_not.mp hsize
      exact ⟨hpos, hle, Nat.pos_of_ne_zero hzero, hcount⟩

/-- **Blocks have a width** that can be expressed: at least `2 ^ -74` is divided by at most
`2 ^ 64`. -/
theorem Accepted.blockWidth_beq_zero (h : d.Accepted) :
    (d.minSize.sqrt / .ofNat d.subdivide == 0.0) = false := by
  have hlog : d.subdivide.log2 < 64 := by
    refine (Nat.log2_lt (Nat.ne_of_gt h.subdivide_pos)).mpr ?_
    exact Nat.lt_of_le_of_lt h.subdivide_le (by decide)
  have hsize := between_of_le_one h.minSize_pos h.minSize_le
  have hroot : Between (-74) 2 d.minSize.sqrt.toModel.unpack :=
    between_unpack rfl (between_sqrt hsize (Int.le_refl _)) (by decide)
  obtain ⟨u, hu, hcount⟩ := exists_ofNat h.subdivide_pos
  have hcount' : Between 1 66 (Float32.ofNat d.subdivide).toModel.unpack :=
    between_unpack hu (hcount.mono (by omega) (by omega)) (by decide)
  exact beq_zero_eq_false rfl (between_div hroot hcount' (by decide))

end BlockDetector

/-! ## The checked comparison -/

namespace Checked

variable {d : BlockDetector} {side width height : Nat} {prev cur : Array UInt8}
  {mask : Option (Array UInt8)} {ts : Array BlockDetector.Tally}

/-- Whether the pixels of a block changed enough on average. -/
def isChanged (d : BlockDetector) (t : BlockDetector.Tally) : Except Misstep Bool :=
  if 0 < t.count then do
    let mean ← ratio t.sum (.ofNat t.count)
    .ok (d.threshold ≤ mean)
  else .ok false

theorem isChanged_eq_ok (d : BlockDetector) (t : BlockDetector.Tally) :
    isChanged d t = .ok (d.isChanged t) := by
  unfold isChanged BlockDetector.isChanged
  split
  · next hcount =>
    rw [ratio_eq_ok (ofNat_beq_zero hcount), ok_bind, decide_eq_true hcount, Bool.true_and]
  · next hcount => rw [decide_eq_false hcount, Bool.false_and]

/-- The matrix that marks the changed blocks. -/
def changed (d : BlockDetector) (side : Nat) (ts : Array BlockDetector.Tally) :
    Except Misstep (Array Bool) := do
  let marks ← (List.range (side * side)).mapM fun i => do
    let k ← place side side (i % side, i / side)
    let t ← read ts k
    isChanged d t
  .ok marks.toArray

theorem exists_changed (d : BlockDetector) (hts : ts.size = side * side) :
    ∃ m, changed d side ts = .ok m ∧ Shows side side m (d.changedBlocks side ts) := by
  have hmarks := mapM_eq_ok (g := fun i => d.isChanged (ts.getD i .zero))
    (f := fun i => do
      let k ← place side side (i % side, i / side)
      let t ← read ts k
      isChanged d t) (List.range (side * side)) (by
    intro i hi
    obtain ⟨hx, hy, hindex⟩ := Raster.mod_div_index (List.mem_range.mp hi)
    have hlt : i < ts.size := by
      rw [hts]
      exact List.mem_range.mp hi
    simp only [place_eq_ok (c := (i % side, i / side)) hx hy, ok_bind, hindex,
      read_eq_getD hlt .zero, isChanged_eq_ok])
  refine ⟨_, by rw [changed, hmarks, ok_bind], ?_⟩
  rw [changedBlocks_eq]
  refine shows_cellsOf (by simp) fun x hx y hy => ?_
  rw [List.getElem?_toArray, List.getElem?_map, List.getElem?_range (Raster.index_lt hx hy)]
  rfl

/-- The number of blocks along each side of a picture that is large enough. -/
def gridSide (d : BlockDetector) : Except Misstep Nat := do
  let width ← ratio d.minSize.sqrt (.ofNat d.subdivide)
  let blocks ← ratio 1.0 width
  .ok (ceilNat blocks)

theorem gridSide_eq_ok (hd : d.Accepted) : gridSide d = .ok d.gridSide := by
  rw [gridSide, ratio_eq_ok (ofNat_beq_zero hd.subdivide_pos), ok_bind,
    ratio_eq_ok hd.blockWidth_beq_zero, ok_bind]
  rfl

/-- Compares the grey values of two pictures. -/
def compare (d : BlockDetector) (width height : Nat) (prev cur : Array UInt8)
    (mask : Option (Array UInt8)) : Except Misstep BlockDetector.Report := do
  let blocks ← gridSide d
  let side := max 1 (min (min blocks width) height)
  let ts ← tallies side width height prev cur mask
  let area ← biggestArea side side (← changed d side ts)
  let part ← ratio (.ofNat area) (.ofNat (side * side))
  .ok { triggered := d.minSize ≤ part, area, total := side * side }

/-- There is a report if all pixels can be counted. -/
theorem report_eq_ite (d : BlockDetector) (width height : Nat) (prev cur : Array UInt8)
    (mask : Option (Array UInt8)) :
    let side := d.sideFor width height
    let ts := BlockDetector.tallies side width height prev cur mask
    d.compare width height prev cur mask =
      if Counted side ts then some (d.report side ts) else none := by
  intro side ts
  have hsize : ts.size = side * side := BlockDetector.size_tallies ..
  have hiff : ts.all (·.count ≤ BlockDetector.maxTally) = true ↔ Counted side ts :=
    (and_iff_right hsize).symm
  exact if_congr hiff rfl rfl

/-- **The comparison makes no misstep**, unless there is too much to count. -/
theorem compare_eq_elim (hd : d.Accepted) (h : Complete width height prev cur mask) :
    compare d width height prev cur mask =
      (d.compare width height prev cur mask).elim (.error .overflow) .ok := by
  have hside := BlockDetector.sideFor_pos d width height
  have hclamp : max 1 (min (min d.gridSide width) height) = d.sideFor width height := rfl
  unfold compare
  rw [gridSide_eq_ok hd, ok_bind]
  dsimp only
  rw [hclamp, tallies_eq_ite h hside, report_eq_ite]
  split
  · next hcounted =>
    obtain ⟨m, hm, hshows⟩ := exists_changed d hcounted.1
    have harea := biggestArea_eq_ok hshows (by
      rw [changedBlocks_eq]
      exact sublist_cellsOf ..)
    simp only [ok_bind, hm, harea, ratio_eq_ok (ofNat_beq_zero (Nat.mul_pos hside hside))]
    rfl
  · rfl

end Checked

/-! ## Reports -/

namespace BlockDetector

variable {d : BlockDetector} {side width height : Nat} {line : String} {prev cur : List UInt8}
  {mask : Option (List UInt8)}

theorem length_lumasOfRgb {bytes : List UInt8} {n : Nat} (h : bytes.length = 3 * n) :
    (lumasOfRgb bytes).length = n := by
  rw [lumasOfRgb, List.length_map, length_pixelsOfRgb, h]
  omega

theorem complete_lumas (hprev : prev.length = 3 * (width * height))
    (hcur : cur.length = 3 * (width * height)) (hmask : ∀ m ∈ mask, m.length = width * height) :
    Checked.Complete width height (lumasOfRgb prev).toArray (lumasOfRgb cur).toArray
      (mask.map List.toArray) where
  prev_size := Nat.le_of_eq (length_lumasOfRgb hprev).symm
  cur_size := Nat.le_of_eq (length_lumasOfRgb hcur).symm
  mask_size m hm := by
    obtain ⟨bytes, hbytes, rfl⟩ := Option.mem_map.mp hm
    exact Nat.le_of_eq (hmask bytes hbytes).symm

theorem reaches_of_complete {prev cur : Array UInt8} {mask : Option (Array UInt8)}
    (h : Checked.Complete width height prev cur mask) :
    reaches (width * height) prev cur mask = true :=
  reaches_iff.mpr ⟨h.mask_size, fun _ hi _ =>
    ⟨Nat.lt_of_lt_of_le hi h.prev_size, Nat.lt_of_lt_of_le hi h.cur_size⟩⟩

theorem detect?_eq_compare (hprev : prev.length = 3 * (width * height))
    (hcur : cur.length = 3 * (width * height)) (hmask : ∀ m ∈ mask, m.length = width * height) :
    d.detect? width height prev cur mask = d.compare width height (lumasOfRgb prev).toArray
      (lumasOfRgb cur).toArray (mask.map List.toArray) :=
  if_pos (reaches_of_complete (complete_lumas hprev hcur hmask))

/-- An area has at most all blocks. -/
theorem area_report_le (d : BlockDetector) (side : Nat) (ts : Array Tally) :
    (d.report side ts).area ≤ side * side := by
  refine Nat.le_trans (biggestArea_le_length _) (Nat.le_trans (List.length_filterMap_le ..) ?_)
  rw [List.length_range]

/-- Without a mask every block counts some pixel. -/
theorem count_pos {prev cur : Array UInt8} (hwidth : 0 < width) (hheight : 0 < height) :
    ∀ t ∈ tallies (d.sideFor width height) width height prev cur none, 0 < t.count := by
  intro t ht
  obtain ⟨k, hk, rfl⟩ := Array.mem_iff_getElem.mp ht
  have hside := sideFor_pos d width height
  have hle := sideFor_le d width height
  generalize d.sideFor width height = side at *
  rw [size_tallies] at hk
  obtain ⟨hx, hy, hindex⟩ := Raster.mod_div_index hk
  let b : Cell := (k % side, k / side)
  obtain ⟨i, hi, hblock⟩ : ∃ i < width * height, blockOf side width height i = b :=
    exists_blockOf_eq (by omega) (by omega) hx hy
  have hcount : (tallies side width height prev cur none)[b.2 * side + b.1]?.map Tally.count =
      some (pixelsIn side width height none b) := count_tallies hside hx hy
  rw [hindex, Array.getElem?_eq_getElem (by rwa [size_tallies])] at hcount
  rw [Option.some.inj hcount, pixelsIn, List.countP_pos_iff]
  exact ⟨i, List.mem_range.mpr hi, decide_eq_true ((holds_iff hi).mpr hblock)⟩

/-- All pixels can be counted if no block has too many. -/
theorem counted_tallies_iff {prev cur : Array UInt8} {mask : Option (Array UInt8)}
    (hside : 0 < side) : Checked.Counted side (tallies side width height prev cur mask) ↔
      ∀ b : Cell, b.1 < side → b.2 < side → pixelsIn side width height mask b ≤ maxTally := by
  have hsize := size_tallies side width height prev cur mask
  rw [Checked.Counted, and_iff_right hsize, Checked.all_count_le_iff]
  constructor
  · intro h b hx hy
    exact h _ _ (count_tallies hside hx hy)
  · intro h k n hk
    obtain ⟨t, ht, -⟩ := Option.map_eq_some_iff.mp hk
    have hlt : k < side * side := hsize ▸ (Array.getElem?_eq_some_iff.mp ht).1
    obtain ⟨hx, hy, hindex⟩ := Raster.mod_div_index hlt
    let b : Cell := (k % side, k / side)
    have hcount : (tallies side width height prev cur mask)[b.2 * side + b.1]?.map Tally.count =
      some (pixelsIn side width height mask b) := count_tallies hside hx hy
    rw [hindex, hk] at hcount
    rw [Option.some.inj hcount]
    exact h _ hx hy

/-- There is a report as long as no block has too many pixels. -/
theorem exists_report_iff (hprev : prev.length = 3 * (width * height))
    (hcur : cur.length = 3 * (width * height)) (hmask : ∀ m ∈ mask, m.length = width * height) :
    (∃ report, d.detect? width height prev cur mask = some report) ↔
      let side := d.sideFor width height
      ∀ b : Cell, b.1 < side → b.2 < side →
        pixelsIn side width height (mask.map List.toArray) b ≤ maxTally := by
  rw [detect?_eq_compare hprev hcur hmask, Checked.report_eq_ite]
  dsimp only
  rw [← counted_tallies_iff (sideFor_pos d width height)]
  exact ⟨fun ⟨_, h⟩ => (Option.ite_none_right_eq_some.mp h).1, fun h => ⟨_, if_pos h⟩⟩

/-- **A detector compares any two pictures of a size**, unless a block has more pixels that are
looked at than can be counted in 32 bits. It divides the picture into at least one and at most as
many rows and columns of blocks as there are pixels, and every pixel is in one block. If no block
has too many pixels, no check fails: every block counts the pixels that are looked at in it, all
blocks together count them all, and without a mask every block counts some pixel. The report names
a number of changed blocks that is not greater than that of all blocks. If a block has too many,
counting stops the comparison, and there is no report. -/
theorem exists_checked_report (hline : ofText line = .ok d)
    (hprev : prev.length = 3 * (width * height)) (hcur : cur.length = 3 * (width * height))
    (hmask : ∀ m ∈ mask, m.length = width * height) :
    let side := d.sideFor width height
    let before := (lumasOfRgb prev).toArray
    let now := (lumasOfRgb cur).toArray
    let bytes := mask.map List.toArray
    let countable :=
      ∀ b : Cell, b.1 < side → b.2 < side → pixelsIn side width height bytes b ≤ maxTally
    (1 ≤ side ∧ side ≤ max 1 (min width height)) ∧
    (∀ i < width * height, ∃! b : Cell, b.1 < side ∧ b.2 < side ∧ Holds side width height b i) ∧
    (countable → ∃ ts report, Checked.tallies side width height before now bytes = .ok ts ∧
      (∀ b : Cell, b.1 < side → b.2 < side → ts[b.2 * side + b.1]?.map Tally.count =
        some (pixelsIn side width height bytes b)) ∧
      (ts.toList.map Tally.count).sum = (List.range (width * height)).countP (isSelected bytes) ∧
      (mask = none → 0 < width → 0 < height → ∀ t ∈ ts, 0 < t.count) ∧
      Checked.compare d width height before now bytes = .ok report ∧
      d.detect? width height prev cur mask = some report ∧
      report.text = s!"area={report.area}/{side * side}" ∧ report.area ≤ side * side) ∧
    (¬countable → Checked.tallies side width height before now bytes = .error .overflow ∧
      Checked.compare d width height before now bytes = .error .overflow ∧
      d.detect? width height prev cur mask = none) := by
  intro side before now bytes countable
  let ts := tallies side width height before now bytes
  have hside : 0 < side := sideFor_pos d width height
  have hcomplete := complete_lumas hprev hcur hmask
  have hcounted : Checked.Counted side ts ↔ countable := counted_tallies_iff hside
  have htallies : Checked.tallies side width height before now bytes =
    if Checked.Counted side ts then .ok ts else .error .overflow :=
      Checked.tallies_eq_ite hcomplete hside
  have hreport : d.compare width height before now bytes =
    if Checked.Counted side ts then some (d.report side ts) else none :=
      Checked.report_eq_ite d width height before now bytes
  have hchecked : Checked.compare d width height before now bytes =
    (d.compare width height before now bytes).elim (.error .overflow) .ok :=
      Checked.compare_eq_elim (accepted_of_ofText hline) hcomplete
  have hdetect : d.detect? width height prev cur mask = d.compare width height before now bytes :=
    detect?_eq_compare hprev hcur hmask
  refine ⟨⟨hside, sideFor_le d width height⟩, fun i hi => existsUnique_holds hside hi,
    fun hcountable => ?_, fun hnot => ?_⟩
  · have hpos := hcounted.mpr hcountable
    rw [if_pos hpos] at htallies hreport
    rw [hreport] at hchecked hdetect
    refine ⟨ts, d.report side ts, htallies, fun b hx hy => count_tallies hside hx hy,
      sum_count_tallies hside, ?_, hchecked, hdetect, rfl, area_report_le ..⟩
    rintro rfl hwidth hheight
    exact count_pos hwidth hheight
  · have hneg : ¬Checked.Counted side ts := fun h => hnot (hcounted.mp h)
    rw [if_neg hneg] at htallies hreport
    rw [hreport] at hchecked hdetect
    exact ⟨htallies, hchecked, hdetect⟩

/-- The standard settings, and six pixels of which four are looked at. -/
theorem exists_checked_report_masked :
    let black : List UInt8 := .replicate 18 0
    let white : List UInt8 := .replicate 18 255
    let bytes : List UInt8 := [1, 0, 1, 7, 0, 255]
    let side := standard.sideFor 3 2
    ofText "" = .ok standard ∧ black.length = 3 * (3 * 2) ∧ white.length = 3 * (3 * 2) ∧
    bytes.length = 3 * 2 ∧ (1 ≤ side ∧ side ≤ 2) ∧
    ∃ ts report, Checked.tallies side 3 2 (lumasOfRgb black).toArray (lumasOfRgb white).toArray
        (some bytes.toArray) = .ok ts ∧ (ts.toList.map Tally.count).sum = 4 ∧
      standard.detect? 3 2 black white (some bytes) = some report ∧
      report.text = s!"area={report.area}/{side * side}" ∧ report.area ≤ side * side := by
  intro black white bytes side
  have hline : ofText "" = .ok standard := rfl
  have hblack : black.length = 3 * (3 * 2) := List.length_replicate
  have hwhite : white.length = 3 * (3 * 2) := List.length_replicate
  have hbytes : bytes.length = 3 * 2 := rfl
  have hmask : ∀ m ∈ some bytes, m.length = 3 * 2 := by
    rintro m ⟨⟩
    exact hbytes
  obtain ⟨hside, -, hcountable, -⟩ := exists_checked_report hline hblack hwhite hmask
  obtain ⟨ts, report, hts, -, hsum, -, -, hdetect, htext, harea⟩ := hcountable fun b _ _ =>
    Nat.le_trans List.countP_le_length (by rw [List.length_range]; decide)
  exact ⟨hline, hblack, hwhite, hbytes, hside, ts, report, hts, hsum.trans (by decide), hdetect,
    htext, harea⟩

/-- A single block has all pixels. -/
theorem pixelsIn_single (width height : Nat) :
    pixelsIn 1 width height none (0, 0) = width * height := by
  have hall : ∀ i ∈ List.range (width * height),
      (isSelected none i && decide (Holds 1 width height (0, 0) i)) = true := by
    intro i hi
    have hi := List.mem_range.mp hi
    obtain ⟨hx, hy⟩ := blockOf_lt Nat.one_pos hi
    exact decide_eq_true ((holds_iff hi).mpr
      (Prod.ext (Nat.lt_one_iff.mp hx) (Nat.lt_one_iff.mp hy)))
  rw [pixelsIn, List.countP_eq_length.mpr hall, List.length_range]

/-- If there is a single block with too many pixels, there is no report. -/
theorem detect?_of_single_block (hd : d.Accepted) (hprev : prev.length = 3 * (width * height))
    (hcur : cur.length = 3 * (width * height)) (hside : d.sideFor width height = 1)
    (hlarge : maxTally < width * height) :
    d.detect? width height prev cur none = none ∧
      Checked.compare d width height (lumasOfRgb prev).toArray (lumasOfRgb cur).toArray none =
        .error .overflow := by
  have hmask : ∀ m ∈ (none : Option (List UInt8)), m.length = width * height := nofun
  have hnone : d.detect? width height prev cur none = none := by
    by_contra hsome
    obtain ⟨report, hreport⟩ := Option.ne_none_iff_exists'.mp hsome
    have hcount := (exists_report_iff hprev hcur hmask).mp ⟨report, hreport⟩ (0, 0)
    rw [hside] at hcount
    have hle := hcount Nat.one_pos Nat.one_pos
    rw [Option.map_none, pixelsIn_single] at hle
    omega
  have hchecked := Checked.compare_eq_elim hd (complete_lumas hprev hcur hmask)
  rw [← detect?_eq_compare hprev hcur hmask, hnone] at hchecked
  exact ⟨hnone, hchecked⟩

/-- **A block with too many pixels**: a picture of `2 ^ 32` pixels in a single block has no report,
because counting the last one stops the program. -/
theorem full_block_stops_counting :
    let d : BlockDetector := ⟨1.0, 1, 16.0⟩
    let black : List UInt8 := .replicate (3 * (65536 * 65536)) 0
    let luma := (lumasOfRgb black).toArray
    ofText "min_size=1,subdivide=1" = .ok d ∧ black.length = 3 * (65536 * 65536) ∧
      d.sideFor 65536 65536 = 1 ∧ d.detect? 65536 65536 black black none = none ∧
      Checked.compare d 65536 65536 luma luma none = .error .overflow := by
  intro d black luma
  have hline : ofText "min_size=1,subdivide=1" = .ok d := rfl
  have hblack : black.length = 3 * (65536 * 65536) := List.length_replicate
  have hside : d.sideFor 65536 65536 = 1 := by decide +kernel
  exact ⟨hline, hblack, hside, detect?_of_single_block (accepted_of_ofText hline) hblack hblack
    hside (by decide)⟩

end BlockDetector

end MotionWatch
