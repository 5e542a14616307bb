import MotionWatch.Proofs.Block.Grid
import MotionWatch.Proofs.Misstep

/-!
# Computations that are checked

The comparison of two pictures once more, as one loop in another, with a check wherever a value is
looked up by its place, something is divided or a pixel is counted. If no check fails, the result is
the same.

* `Checked.read`, `place`, `quotient`, `ratio`, `count`: the steps that are checked.
* `Checked.tallies`: the pixels that are counted, row by row. `Complete`: pictures and a mask with
  enough bytes.
* `Counted`: tallies that can be counted. `tallies_eq_ite`: nothing is found but tallies that
  cannot.
-/

namespace MotionWatch

open Block

namespace Checked

/-! ## Checked steps -/

variable {α : Type} {a : Array α} {i m n side : Nat} {x y : Float32} {c : Cell}

/-- The value at a place. -/
def read (a : Array α) (i : Nat) : Except Misstep α :=
  match a[i]? with
  | some v => .ok v
  | none => .error .outside

/-- The quotient of two natural numbers. -/
def quotient (m n : Nat) : Except Misstep Nat :=
  if n = 0 then .error .zeroDivisor else .ok (m / n)

/-- The quotient of two numbers. -/
def ratio (x y : Float32) : Except Misstep Float32 :=
  if y == 0.0 then .error .zeroDivisor else .ok (x / y)

/-- The place of a cell in a matrix that is stored in rows. -/
def place (width height : Nat) (c : Cell) : Except Misstep Nat :=
  if c.1 < width ∧ c.2 < height then .ok (c.2 * width + c.1) else .error .outside

/-- A tally with one more pixel. -/
def count (t : BlockDetector.Tally) (change : Nat) : Except Misstep BlockDetector.Tally :=
  if t.count < BlockDetector.maxTally then .ok (t.add change) else .error .overflow

theorem read_eq_ok (hi : i < a.size) : read a i = .ok a[i] := by
  rw [read, Array.getElem?_eq_getElem hi]

theorem read_eq_getD (hi : i < a.size) (v : α) : read a i = .ok (a.getD i v) := by
  rw [read_eq_ok hi, Array.getD_eq_getD_getElem?, Array.getElem?_eq_getElem hi, Option.getD_some]

theorem quotient_eq_ok (hn : 0 < n) : quotient m n = .ok (m / n) := if_neg (Nat.ne_of_gt hn)

theorem ratio_eq_ok (hy : (y == 0.0) = false) : ratio x y = .ok (x / y) := by
  rw [ratio, if_neg (by rw [hy]; exact Bool.false_ne_true)]

theorem place_eq_ok {width height : Nat} (hx : c.1 < width) (hy : c.2 < height) :
    place width height c = .ok (c.2 * width + c.1) := if_pos ⟨hx, hy⟩

/-! ## Tallies -/

/-- Whether a pixel is looked at. -/
def isSelected (mask : Option (Array UInt8)) (i : Nat) : Except Misstep Bool :=
  match mask with
  | none => .ok true
  | some m => (read m i).map (· != 0)

/-- Counts pixel `x` of row `y`, whose block is in row `row` of the grid. -/
def tallyPixel (side width : Nat) (prev cur : Array UInt8) (mask : Option (Array UInt8))
    (y row : Nat) (ts : Array BlockDetector.Tally) (x : Nat) :
    Except Misstep (Array BlockDetector.Tally) := do
  let i := y * width + x
  if ← isSelected mask i then
    let column ← quotient (x * side) width
    let now ← read cur i
    let before ← read prev i
    let k ← place side side (column, row)
    let t ← count (← read ts k) (BlockDetector.distance now before)
    .ok (ts.setIfInBounds k t)
  else .ok ts

/-- Counts the pixels of a row. -/
def tallyRow (side width height : Nat) (prev cur : Array UInt8) (mask : Option (Array UInt8))
    (ts : Array BlockDetector.Tally) (y : Nat) : Except Misstep (Array BlockDetector.Tally) := do
  let row ← quotient (y * side) height
  (List.range width).foldlM (tallyPixel side width prev cur mask y row) ts

/-- The tallies of all blocks. -/
def tallies (side width height : Nat) (prev cur : Array UInt8) (mask : Option (Array UInt8)) :
    Except Misstep (Array BlockDetector.Tally) :=
  (List.range height).foldlM (tallyRow side width height prev cur mask)
    (.replicate (side * side) .zero)

section Tallies

variable {width height : Nat} {prev cur : Array UInt8} {mask : Option (Array UInt8)}
  {ts : Array BlockDetector.Tally}

/-- Every pixel has a byte in both pictures and in the mask. -/
structure Complete (width height : Nat) (prev cur : Array UInt8) (mask : Option (Array UInt8)) :
    Prop where
  prev_size : width * height ≤ prev.size
  cur_size : width * height ≤ cur.size
  mask_size : ∀ m ∈ mask, width * height ≤ m.size

theorem Complete.isSelected_eq_ok (h : Complete width height prev cur mask)
    (hi : i < width * height) : isSelected mask i = .ok (BlockDetector.isSelected mask i) := by
  cases mask with
  | none => rfl
  | some m =>
    show (read m i).map (· != 0) = _
    rw [read_eq_getD (Nat.lt_of_lt_of_le hi (h.mask_size m rfl)) 0]
    rfl

theorem modify_eq_setIfInBounds (hi : i < a.size) (f : α → α) :
    a.modify i f = a.setIfInBounds i (f a[i]) := by
  refine Array.ext_getElem? fun j => ?_
  rw [Array.getElem?_modify, Array.getElem?_setIfInBounds]
  split
  · next heq =>
    subst heq
    rw [Array.getElem?_eq_getElem hi]
    rfl
  · rfl

/-- Tallies for all blocks, none of them with more pixels than can be counted. -/
def Counted (side : Nat) (ts : Array BlockDetector.Tally) : Prop :=
  ts.size = side * side ∧ ts.all (·.count ≤ BlockDetector.maxTally) = true

instance (side : Nat) (ts : Array BlockDetector.Tally) : Decidable (Counted side ts) :=
  inferInstanceAs (Decidable (_ ∧ _))

theorem all_count_le_iff : ts.all (·.count ≤ BlockDetector.maxTally) = true ↔
    ∀ k n : Nat, ts[k]?.map BlockDetector.Tally.count = some n →
      n ≤ BlockDetector.maxTally := by
  simp only [Array.all_eq_true, decide_eq_true_eq]
  constructor
  · intro h k n hk
    obtain ⟨t, ht, rfl⟩ := Option.map_eq_some_iff.mp hk
    obtain ⟨hlt, rfl⟩ := Array.getElem?_eq_some_iff.mp ht
    exact h k hlt
  · intro h k hk
    refine h k _ ?_
    rw [Array.getElem?_eq_getElem hk]
    rfl

/-- Counting goes on only if it did not have to stop. -/
theorem counted_of_tallyPixel
    (h : Counted side (BlockDetector.tallyPixel side width height prev cur mask ts i)) :
    Counted side ts := by
  refine ⟨(BlockDetector.size_tallyPixel ts i).symm.trans h.1, all_count_le_iff.mpr ?_⟩
  intro k n hk
  have hnext : n + (if BlockDetector.countsAt side width height mask k i then 1 else 0) ≤
      BlockDetector.maxTally := by
    refine all_count_le_iff.mp h.2 k _ ?_
    rw [BlockDetector.count_tallyPixel, hk]
    rfl
  exact Nat.le_of_add_right_le hnext

/-- One more pixel can be counted if its block is not full. -/
theorem counted_modify_iff {k change : Nat} (hts : Counted side ts) (hk : k < ts.size) :
    Counted side (ts.modify k (·.add change)) ↔ ts[k].count < BlockDetector.maxTally := by
  have hsize : (ts.modify k (·.add change)).size = side * side := Array.size_modify.trans hts.1
  rw [Counted, and_iff_right hsize, all_count_le_iff]
  constructor
  · intro h
    refine h k (ts[k].count + 1) ?_
    rw [Array.getElem?_modify, if_pos rfl, Array.getElem?_eq_getElem hk]
    rfl
  · intro h j n hj
    rw [Array.getElem?_modify] at hj
    split at hj
    · next heq =>
      subst heq
      rw [Array.getElem?_eq_getElem hk] at hj
      obtain rfl := Option.some.inj hj
      exact h
    · exact all_count_le_iff.mp hts.2 j n hj

theorem tallyPixel_eq_ite (h : Complete width height prev cur mask) (hside : 0 < side) {x y : Nat}
    (hx : x < width) (hy : y < height) (hts : Counted side ts) :
    let next := BlockDetector.tallyPixel side width height prev cur mask ts (y * width + x)
    tallyPixel side width prev cur mask y (y * side / height) ts x =
      if Counted side next then .ok next else .error .overflow := by
  have hi : y * width + x < width * height := Raster.index_lt hx hy
  obtain ⟨hmod, hdiv⟩ := Raster.index_mod_div (y := y) hx
  have hblock : BlockDetector.blockOf side width height (y * width + x) =
      (x * side / width, y * side / height) := by
    rw [BlockDetector.blockOf, hmod, hdiv]
  have hplace : BlockDetector.placeOf side width height (y * width + x) < ts.size := by
    rw [hts.1]
    exact BlockDetector.placeOf_lt hside hi
  unfold tallyPixel
  dsimp only
  rw [h.isSelected_eq_ok hi]
  unfold BlockDetector.tallyPixel
  cases BlockDetector.isSelected mask (y * width + x) with
  | false => exact (if_pos hts).symm
  | true =>
    obtain ⟨hcolumn, hrow⟩ := BlockDetector.blockOf_lt hside hi
    rw [hblock] at hcolumn hrow
    have hw : 0 < width := Nat.zero_lt_of_lt hx
    have hk : BlockDetector.placeOf side width height (y * width + x) =
        y * side / height * side + x * side / width := by
      rw [BlockDetector.placeOf, hblock]
    rw [hk] at hplace ⊢
    simp only [ok_bind, if_true, quotient_eq_ok hw,
      read_eq_getD (Nat.lt_of_lt_of_le hi h.cur_size) 0,
      read_eq_getD (Nat.lt_of_lt_of_le hi h.prev_size) 0, place_eq_ok hcolumn hrow,
      read_eq_ok hplace, counted_modify_iff hts hplace, count]
    rw [modify_eq_setIfInBounds hplace]
    split <;> rfl

/-- A loop over rows, with a loop over the pixels of a row in it, is a loop over all pixels. -/
theorem foldl_range_mul (g : α → Nat → α) (width height : Nat) (b : α) :
    (List.range height).foldl
      (fun b y => (List.range width).foldl (fun b x => g b (y * width + x)) b) b =
      (List.range (width * height)).foldl g b := by
  induction height with
  | zero => rfl
  | succ height ih =>
    rw [List.range_succ, List.foldl_append, ih, Nat.mul_succ, List.range_add, List.foldl_append,
      List.foldl_map, Nat.mul_comm width]
    rfl

/-- **Counting makes no misstep**, unless there is too much to count. -/
theorem tallies_eq_ite (h : Complete width height prev cur mask) (hside : 0 < side) :
    let ts := BlockDetector.tallies side width height prev cur mask
    tallies side width height prev cur mask =
      if Counted side ts then .ok ts else .error .overflow := by
  let rowOf (ts : Array BlockDetector.Tally) (y : Nat) : Array BlockDetector.Tally :=
    (List.range width).foldl
      (fun ts x => BlockDetector.tallyPixel side width height prev cur mask ts (y * width + x)) ts
  have hrow (y : Nat) (hy : y < height) (ts : Array BlockDetector.Tally) (hts : Counted side ts) :
      tallyRow side width height prev cur mask ts y =
        if Counted side (rowOf ts y) then .ok (rowOf ts y) else .error .overflow := by
    have hh : 0 < height := Nat.zero_lt_of_lt hy
    unfold tallyRow
    rw [quotient_eq_ok hh]
    exact foldlM_eq_ite _ hts (fun x _ ts => counted_of_tallyPixel)
      fun x hx ts hts => tallyPixel_eq_ite h hside (List.mem_range.mp hx) hy hts
  have hzero : Counted side (.replicate (side * side) .zero) := by
    refine ⟨Array.size_replicate, all_count_le_iff.mpr fun k n hk => ?_⟩
    rw [Array.getElem?_replicate] at hk
    split at hk
    · obtain rfl := Option.some.inj hk
      exact Nat.zero_le _
    · cases hk
  have hfold := foldlM_eq_ite (g := rowOf) (List.range height) hzero
    (fun y _ ts => of_foldl fun x _ ts => counted_of_tallyPixel)
    fun y hy ts hts => hrow y (List.mem_range.mp hy) ts hts
  rw [tallies, hfold, foldl_range_mul, BlockDetector.tallies_eq]

end Tallies

end Checked

end MotionWatch
