import Mathlib.Algebra.GroupWithZero.Nat
import Mathlib.Logic.ExistsUnique
import MotionWatch.Block.Detector
import MotionWatch.Proofs.Raster

/-!
# The blocks of a picture

The grid is laid over the picture, so that its lines may run through pixels. A pixel is in the block
that has its left upper corner. There are not more blocks than pixels along a side, and so no block
is without a pixel.

* `sideFor_pos`, `sideFor_le`: the number of blocks along a side.
* `Holds`: the pixels of a block. `existsUnique_holds`: every pixel is in one block.
  `exists_blockOf_eq`: every block has a pixel.
* `tallyPixel`, `tallies_eq`: how pixels are counted, one after the other.
* `reaches_iff`: the bytes that are needed.
* `pixelsIn`: the pixels of a block that are looked at. `count_tallies`, `sum_count_tallies`: what
  is counted in each block and in all of them.
-/

namespace MotionWatch.BlockDetector

open Block

variable {d : BlockDetector} {side width height i k n c : Nat} {b : Cell}
  {prev cur : Array UInt8} {mask : Option (Array UInt8)} {ts : Array Tally}

/-! ## The side of the grid -/

theorem sideFor_pos (d : BlockDetector) (width height : Nat) : 0 < d.sideFor width height :=
  Nat.le_max_left ..

theorem sideFor_le (d : BlockDetector) (width height : Nat) :
    d.sideFor width height ≤ max 1 (min width height) := by
  unfold sideFor
  omega

/-! ## Pixels and blocks -/

/-- The left upper corner of pixel `i` is in block `b` of the grid. Lengths are multiplied by the
number of blocks along a side, so that all of them are integers. -/
structure Holds (side width height : Nat) (b : Cell) (i : Nat) : Prop where
  left : b.1 * width ≤ i % width * side
  right : i % width * side < (b.1 + 1) * width
  top : b.2 * height ≤ i / width * side
  bottom : i / width * side < (b.2 + 1) * height

instance (side width height : Nat) (b : Cell) (i : Nat) :
    Decidable (Holds side width height b i) :=
  decidable_of_iff ((b.1 * width ≤ i % width * side ∧ i % width * side < (b.1 + 1) * width) ∧
      b.2 * height ≤ i / width * side ∧ i / width * side < (b.2 + 1) * height)
    ⟨fun h => ⟨h.1.1, h.1.2, h.2.1, h.2.2⟩, fun h => ⟨⟨h.left, h.right⟩, h.top, h.bottom⟩⟩

theorem div_eq_iff_between (hn : 0 < n) {a : Nat} :
    a / n = c ↔ c * n ≤ a ∧ a < (c + 1) * n := by
  rw [Nat.div_eq_iff hn, Nat.succ_mul]
  omega

/-- A pixel is in the block to which it is counted. -/
theorem holds_iff (hi : i < width * height) :
    Holds side width height b i ↔ blockOf side width height i = b := by
  obtain ⟨hx, hy, -⟩ := Raster.mod_div_index hi
  have hw : 0 < width := Nat.zero_lt_of_lt hx
  have hh : 0 < height := Nat.zero_lt_of_lt hy
  rw [blockOf, Prod.ext_iff, div_eq_iff_between hw, div_eq_iff_between hh]
  exact ⟨fun h => ⟨⟨h.left, h.right⟩, h.top, h.bottom⟩,
    fun h => ⟨h.1.1, h.1.2, h.2.1, h.2.2⟩⟩

theorem mul_div_lt {x : Nat} (hside : 0 < side) (hx : x < n) : x * side / n < side :=
  Nat.div_lt_of_lt_mul (Nat.mul_lt_mul_of_pos_right hx hside)

theorem blockOf_lt (hside : 0 < side) (hi : i < width * height) :
    (blockOf side width height i).1 < side ∧ (blockOf side width height i).2 < side := by
  obtain ⟨hx, hy, -⟩ := Raster.mod_div_index hi
  exact ⟨mul_div_lt hside hx, mul_div_lt hside hy⟩

/-- **Every pixel is in one block.** -/
theorem existsUnique_holds (hside : 0 < side) (hi : i < width * height) :
    ∃! b : Cell, b.1 < side ∧ b.2 < side ∧ Holds side width height b i := by
  obtain ⟨hx, hy⟩ := blockOf_lt hside hi
  refine ⟨blockOf side width height i, ⟨hx, hy, (holds_iff hi).mpr rfl⟩, ?_⟩
  rintro b ⟨-, -, hb⟩
  exact ((holds_iff hi).mp hb).symm

/-- If a row of pixels is divided into parts and there are not more parts than pixels, every part
has a pixel. -/
theorem exists_mul_div_eq (hc : c < side) (hside : side ≤ n) : ∃ x < n, x * side / n = c := by
  have hpos : 0 < side := Nat.zero_lt_of_lt hc
  -- The first column that does not begin left of the part.
  let x := (c * n + (side - 1)) / side
  have hle : x * side ≤ c * n + (side - 1) := Nat.div_mul_le_self ..
  have hge : c * n ≤ x * side := by
    have h := Nat.lt_div_mul_add hpos (a := c * n + (side - 1))
    show c * n ≤ (c * n + (side - 1)) / side * side
    omega
  have hend : (c + 1) * n ≤ n * side := by
    rw [Nat.mul_comm n]
    exact Nat.mul_le_mul_right n hc
  have hbetween : x * side < (c + 1) * n := by
    rw [Nat.succ_mul]
    omega
  exact ⟨x, Nat.lt_of_mul_lt_mul_right (Nat.lt_of_lt_of_le hbetween hend),
    (div_eq_iff_between (by omega)).mpr ⟨hge, hbetween⟩⟩

/-- **Every block has a pixel**, because blocks are not smaller than pixels. -/
theorem exists_blockOf_eq (hwidth : side ≤ width) (hheight : side ≤ height) (hx : b.1 < side)
    (hy : b.2 < side) : ∃ i < width * height, blockOf side width height i = b := by
  obtain ⟨x, hxw, hxb⟩ := exists_mul_div_eq hx hwidth
  obtain ⟨y, hyh, hyb⟩ := exists_mul_div_eq hy hheight
  obtain ⟨hmod, hdiv⟩ := Raster.index_mod_div (y := y) hxw
  refine ⟨y * width + x, Raster.index_lt hxw hyh, ?_⟩
  rw [blockOf, hmod, hdiv, hxb, hyb]

/-! ## Tallies -/

/-- Every cell has its own place in a matrix that is stored in rows. -/
theorem index_inj {c : Cell} (hb : b.1 < side) (hc : c.1 < side) :
    b.2 * side + b.1 = c.2 * side + c.1 ↔ b = c := by
  constructor
  · intro heq
    have hmod := Raster.index_mod_div (y := b.2) hb
    have hmod' := Raster.index_mod_div (y := c.2) hc
    rw [heq] at hmod
    exact Prod.ext (hmod.1.symm.trans hmod'.1) (hmod.2.symm.trans hmod'.2)
  · rintro rfl
    rfl

/-- The place of the block of a pixel among all blocks, which stand in rows. -/
def placeOf (side width height i : Nat) : Nat :=
  (blockOf side width height i).2 * side + (blockOf side width height i).1

/-- The tallies with one more pixel. -/
def tallyPixel (side width height : Nat) (prev cur : Array UInt8) (mask : Option (Array UInt8))
    (ts : Array Tally) (i : Nat) : Array Tally :=
  if isSelected mask i then
    ts.modify (placeOf side width height i) (·.add (distance (cur.getD i 0) (prev.getD i 0)))
  else ts

theorem tallies_eq (side width height : Nat) (prev cur : Array UInt8)
    (mask : Option (Array UInt8)) : tallies side width height prev cur mask =
      (List.range (width * height)).foldl (tallyPixel side width height prev cur mask)
        (.replicate (side * side) .zero) := rfl

theorem size_tallyPixel (ts : Array Tally) (i : Nat) :
    (tallyPixel side width height prev cur mask ts i).size = ts.size := by
  unfold tallyPixel
  split
  · exact Array.size_modify
  · rfl

theorem size_foldl_tallyPixel (pixels : List Nat) (ts : Array Tally) :
    (pixels.foldl (tallyPixel side width height prev cur mask) ts).size = ts.size := by
  induction pixels generalizing ts with
  | nil => rfl
  | cons i pixels ih => rw [List.foldl_cons, ih, size_tallyPixel]

/-- Whether a pixel is looked at and counted in the block at a place. -/
def countsAt (side width height : Nat) (mask : Option (Array UInt8)) (k i : Nat) : Bool :=
  isSelected mask i && placeOf side width height i == k

/-- One pixel is counted in one block, if it is looked at. -/
theorem count_tallyPixel (ts : Array Tally) (i k : Nat) :
    (tallyPixel side width height prev cur mask ts i)[k]?.map Tally.count =
      (ts[k]?.map Tally.count).map (· + if countsAt side width height mask k i then 1 else 0) := by
  unfold tallyPixel countsAt
  cases isSelected mask i with
  | false => simp [Function.comp_def]
  | true =>
    by_cases hk : placeOf side width height i = k
    · simp [Array.getElem?_modify, hk, Tally.add, Function.comp_def]
    · simp [Array.getElem?_modify, hk, Function.comp_def]

/-- A block counts the pixels that are looked at and counted there. -/
theorem count_foldl_tallyPixel (pixels : List Nat) (ts : Array Tally) (k : Nat) :
    (pixels.foldl (tallyPixel side width height prev cur mask) ts)[k]?.map Tally.count =
      (ts[k]?.map Tally.count).map (· + pixels.countP (countsAt side width height mask k)) := by
  induction pixels generalizing ts with
  | nil => simp [Function.comp_def]
  | cons i pixels ih =>
    rw [List.foldl_cons, ih, count_tallyPixel, Option.map_map, List.countP_cons]
    congr 1
    funext n
    show n + _ + _ = n + _
    omega

theorem sum_count_modify (l : List Tally) (hk : k < l.length) (change : Nat) :
    ((l.modify k (·.add change)).map Tally.count).sum = (l.map Tally.count).sum + 1 := by
  induction l generalizing k with
  | nil => cases hk
  | cons t l ih =>
    cases k with
    | zero => simp [Tally.add]; omega
    | succ k =>
      have h := ih (Nat.lt_of_succ_lt_succ hk)
      simp only [List.modify_succ_cons, List.map_cons, List.sum_cons, h]
      omega

/-- All blocks together count the pixels that are looked at. -/
theorem sum_count_foldl_tallyPixel (pixels : List Nat) (ts : Array Tally)
    (h : ∀ i ∈ pixels, placeOf side width height i < ts.size) :
    ((pixels.foldl (tallyPixel side width height prev cur mask) ts).toList.map Tally.count).sum =
      (ts.toList.map Tally.count).sum + pixels.countP (isSelected mask) := by
  induction pixels generalizing ts with
  | nil => rfl
  | cons i pixels ih =>
    rw [List.foldl_cons, ih _ (by
      intro j hj
      rw [size_tallyPixel]
      exact h j (.tail i hj)), List.countP_cons]
    unfold tallyPixel
    cases isSelected mask i with
    | false => simp
    | true =>
      have hi : placeOf side width height i < ts.toList.length := h i (.head pixels)
      rw [if_pos rfl, if_pos rfl, Array.toList_modify, sum_count_modify _ hi]
      omega

theorem placeOf_lt (hside : 0 < side) (hi : i < width * height) :
    placeOf side width height i < side * side := by
  obtain ⟨hx, hy⟩ := blockOf_lt hside hi
  exact Raster.index_lt hx hy

theorem placeOf_eq_iff (hside : 0 < side) (hi : i < width * height) (hx : b.1 < side) :
    placeOf side width height i = b.2 * side + b.1 ↔ blockOf side width height i = b :=
  index_inj (blockOf_lt hside hi).1 hx

/-! ## The bytes that are looked at -/

/-- A comparison has all that it looks at if the mask is long enough and the pictures have a byte
for every pixel that is looked at. -/
theorem reaches_iff {pixels : Nat} : reaches pixels prev cur mask = true ↔
    (∀ m ∈ mask, pixels ≤ m.size) ∧
      ∀ i < pixels, isSelected mask i = true → i < prev.size ∧ i < cur.size := by
  unfold reaches
  cases mask with
  | none =>
    rw [Bool.and_eq_true, decide_eq_true_iff, decide_eq_true_iff]
    constructor
    · rintro ⟨hprev, hcur⟩
      exact ⟨nofun, fun i hi _ => ⟨Nat.lt_of_lt_of_le hi hprev, Nat.lt_of_lt_of_le hi hcur⟩⟩
    · rintro ⟨-, hall⟩
      refine ⟨Nat.not_lt.mp fun hlt => ?_, Nat.not_lt.mp fun hlt => ?_⟩
      · exact Nat.lt_irrefl _ (hall prev.size hlt rfl).1
      · exact Nat.lt_irrefl _ (hall cur.size hlt rfl).2
  | some m =>
    rw [Bool.and_eq_true, decide_eq_true_iff, List.all_eq_true]
    refine and_congr ⟨fun hm m' hm' => Option.some.inj hm' ▸ hm, fun hm => hm m rfl⟩ ?_
    refine forall_congr' fun i => imp_congr List.mem_range ?_
    cases isSelected (some m) i <;> simp

/-! ## Counts -/

theorem size_tallies (side width height : Nat) (prev cur : Array UInt8)
    (mask : Option (Array UInt8)) :
    (tallies side width height prev cur mask).size = side * side := by
  rw [tallies_eq, size_foldl_tallyPixel, Array.size_replicate]

/-- The number of pixels in a block that are looked at. -/
def pixelsIn (side width height : Nat) (mask : Option (Array UInt8)) (b : Cell) : Nat :=
  (List.range (width * height)).countP fun i =>
    isSelected mask i && decide (Holds side width height b i)

/-- **A block counts the pixels that it has**, as far as they are looked at. -/
theorem count_tallies (hside : 0 < side) (hx : b.1 < side) (hy : b.2 < side) :
    (tallies side width height prev cur mask)[b.2 * side + b.1]?.map Tally.count =
      some (pixelsIn side width height mask b) := by
  rw [tallies_eq, count_foldl_tallyPixel, Array.getElem?_replicate, if_pos (Raster.index_lt hx hy)]
  refine congrArg some ((Nat.zero_add _).trans (List.countP_congr fun i hi => ?_))
  have hi := List.mem_range.mp hi
  rw [countsAt, Bool.and_eq_true, Bool.and_eq_true, beq_iff_eq, decide_eq_true_iff,
    placeOf_eq_iff hside hi hx, holds_iff hi]

/-- **No pixel is lost**: together the blocks count all pixels that are looked at. -/
theorem sum_count_tallies (hside : 0 < side) :
    ((tallies side width height prev cur mask).toList.map Tally.count).sum =
      (List.range (width * height)).countP (isSelected mask) := by
  rw [tallies_eq, sum_count_foldl_tallyPixel]
  · simp [Tally.zero]
  · intro i hi
    rw [Array.size_replicate]
    exact placeOf_lt hside (List.mem_range.mp hi)

end MotionWatch.BlockDetector
