import MotionWatch.Proofs.Block.Safety

/-!
# Which pixels matter to a block

A pixel whose byte in the mask is zero is not looked at. What it looks like has no influence on what
is reported, and neither has the value of a byte that is not zero.

* `AgreeAt`: pictures that are the same at the pixels that are looked at.
* `tallies_congr`, `reaches_congr`: what is counted in them, and whether they are long enough, is
  the same. `detect?_congr`: so what is reported is the same.
* `masked_pixels_have_no_influence`: for pictures and masks as they are handed over.
-/

namespace MotionWatch.BlockDetector

variable {d : BlockDetector} {side width height : Nat} {prev cur prev' cur' : Array UInt8}
  {mask mask' : Option (Array UInt8)}

/-- Two pictures have the same bytes at the pixels that are looked at. -/
def AgreeAt (pixels : Nat) (mask : Option (Array UInt8)) (a b : Array UInt8) : Prop :=
  ∀ i < pixels, isSelected mask i = true → a[i]? = b[i]?

theorem AgreeAt.refl (pixels : Nat) (mask : Option (Array UInt8)) (a : Array UInt8) :
    AgreeAt pixels mask a a := fun _ _ _ => rfl

/-- One pixel is counted in the same way. -/
theorem tallyPixel_congr {i : Nat} (hi : i < width * height)
    (hmask : isSelected mask i = isSelected mask' i)
    (hprev : AgreeAt (width * height) mask prev prev')
    (hcur : AgreeAt (width * height) mask cur cur') (ts : Array Tally) :
    tallyPixel side width height prev cur mask ts i =
      tallyPixel side width height prev' cur' mask' ts i := by
  unfold tallyPixel
  rw [← hmask]
  cases hselected : isSelected mask i with
  | false => rw [if_neg Bool.false_ne_true, if_neg Bool.false_ne_true]
  | true =>
    simp only [Array.getD_eq_getD_getElem?, hprev i hi hselected, hcur i hi hselected]

/-- All pixels are. -/
theorem tallies_congr (hmask : ∀ i < width * height, isSelected mask i = isSelected mask' i)
    (hprev : AgreeAt (width * height) mask prev prev')
    (hcur : AgreeAt (width * height) mask cur cur') :
    tallies side width height prev cur mask = tallies side width height prev' cur' mask' := by
  rw [tallies_eq, tallies_eq]
  refine List.foldl_ext _ _ _ fun ts i hi => ?_
  have hi := List.mem_range.mp hi
  exact tallyPixel_congr hi (hmask i hi) hprev hcur ts

/-- So the comparison has the same outcome. -/
theorem compare_congr (d : BlockDetector)
    (hmask : ∀ i < width * height, isSelected mask i = isSelected mask' i)
    (hprev : AgreeAt (width * height) mask prev prev')
    (hcur : AgreeAt (width * height) mask cur cur') :
    d.compare width height prev cur mask = d.compare width height prev' cur' mask' := by
  unfold compare
  dsimp only
  rw [tallies_congr hmask hprev hcur]

theorem lt_size_iff_of_getElem?_eq {a b : Array UInt8} {i : Nat} (h : a[i]? = b[i]?) :
    i < a.size ↔ i < b.size := by
  rw [← Nat.not_le, ← Nat.not_le, ← Array.getElem?_eq_none_iff, h, Array.getElem?_eq_none_iff]

/-- The pictures are long enough or not. -/
theorem reaches_congr {pixels : Nat} (hsize : ∀ m ∈ mask, pixels ≤ m.size)
    (hsize' : ∀ m ∈ mask', pixels ≤ m.size)
    (hmask : ∀ i < pixels, isSelected mask i = isSelected mask' i)
    (hprev : AgreeAt pixels mask prev prev') (hcur : AgreeAt pixels mask cur cur') :
    reaches pixels prev cur mask = reaches pixels prev' cur' mask' := by
  rw [Bool.eq_iff_iff, reaches_iff, reaches_iff]
  refine and_congr (iff_of_true hsize hsize') (forall₂_congr fun i hi => ?_)
  rw [← hmask i hi]
  refine imp_congr_right fun hselected => ?_
  rw [lt_size_iff_of_getElem?_eq (hprev i hi hselected),
    lt_size_iff_of_getElem?_eq (hcur i hi hselected)]

/-- **What is reported only depends on the pixels that are looked at.** -/
theorem detect?_congr (d : BlockDetector) {prev cur prev' cur' : List UInt8}
    {mask mask' : Option (List UInt8)}
    (hsize : ∀ m ∈ mask.map List.toArray, width * height ≤ m.size)
    (hsize' : ∀ m ∈ mask'.map List.toArray, width * height ≤ m.size)
    (hmask : ∀ i < width * height,
      isSelected (mask.map List.toArray) i = isSelected (mask'.map List.toArray) i)
    (hprev : AgreeAt (width * height) (mask.map List.toArray) (lumasOfRgb prev).toArray
      (lumasOfRgb prev').toArray)
    (hcur : AgreeAt (width * height) (mask.map List.toArray) (lumasOfRgb cur).toArray
      (lumasOfRgb cur').toArray) :
    d.detect? width height prev cur mask = d.detect? width height prev' cur' mask' := by
  have hreaches := reaches_congr hsize hsize' hmask hprev hcur
  have hcompare := d.compare_congr hmask hprev hcur
  unfold detect?
  dsimp only
  rw [hreaches, hcompare]

theorem isSelected_some_iff {bytes : List UInt8} {i : Nat} (hi : i < bytes.length) :
    isSelected (some bytes.toArray) i = true ↔ bytes[i]? ≠ some 0 := by
  show (bytes.toArray.getD i 0 != 0) = true ↔ _
  rw [Array.getD_eq_getD_getElem?, List.getElem?_toArray, List.getElem?_eq_getElem hi,
    Option.getD_some, bne_iff_ne, ne_eq, ne_eq, Option.some.injEq]

/-- **Pixels that the mask hides have no influence** on what is reported, and only which pixels it
hides matters. There is a report as long as no block has too many pixels. -/
theorem masked_pixels_have_no_influence (d : BlockDetector) (width height : Nat)
    {bytes : List UInt8} (hbytes : bytes.length = width * height) :
    (∀ prev cur prev' cur' : List UInt8,
      (∀ i < width * height, bytes[i]? ≠ some 0 →
        (lumasOfRgb prev)[i]? = (lumasOfRgb prev')[i]? ∧
          (lumasOfRgb cur)[i]? = (lumasOfRgb cur')[i]?) →
      d.detect? width height prev cur (some bytes) =
        d.detect? width height prev' cur' (some bytes)) ∧
    (∀ bytes' : List UInt8, bytes'.length = width * height →
      (∀ i < width * height, bytes[i]? = some 0 ↔ bytes'[i]? = some 0) →
      ∀ prev cur, d.detect? width height prev cur (some bytes) =
        d.detect? width height prev cur (some bytes')) ∧
    ((∀ b ∈ bytes, b ≠ 0) → ∀ prev cur, d.detect? width height prev cur (some bytes) =
      d.detect? width height prev cur none) ∧
    ∀ prev cur, prev.length = 3 * (width * height) → cur.length = 3 * (width * height) →
      ((∃ report, d.detect? width height prev cur (some bytes) = some report) ↔
        let side := d.sideFor width height
        ∀ b : Block.Cell, b.1 < side → b.2 < side →
          pixelsIn side width height (some bytes.toArray) b ≤ maxTally) := by
  have hsize {m : List UInt8} (hm : m.length = width * height) :
      ∀ a ∈ (some m).map List.toArray, width * height ≤ a.size := by
    rintro a ⟨⟩
    exact Nat.le_of_eq hm.symm
  have hselected {i : Nat} (hi : i < width * height) :
      isSelected (some bytes.toArray) i = true ↔ bytes[i]? ≠ some 0 :=
    isSelected_some_iff (by rwa [hbytes])
  refine ⟨?_, ?_, ?_, ?_⟩
  · intro prev cur prev' cur' hagree
    refine d.detect?_congr (hsize hbytes) (hsize hbytes) (fun _ _ => rfl) ?_ ?_
    · intro i hi hi'
      rw [List.getElem?_toArray, List.getElem?_toArray]
      exact (hagree i hi ((hselected hi).mp hi')).1
    · intro i hi hi'
      rw [List.getElem?_toArray, List.getElem?_toArray]
      exact (hagree i hi ((hselected hi).mp hi')).2
  · intro bytes' hbytes' hzero prev cur
    refine d.detect?_congr (hsize hbytes) (hsize hbytes') (fun i hi => ?_) (.refl _ _ _)
      (.refl _ _ _)
    show isSelected (some bytes.toArray) i = isSelected (some bytes'.toArray) i
    rw [Bool.eq_iff_iff, hselected hi, isSelected_some_iff (by rwa [hbytes'])]
    exact not_congr (hzero i hi)
  · intro hall prev cur
    refine d.detect?_congr (hsize hbytes) nofun (fun i hi => ?_) (.refl _ _ _) (.refl _ _ _)
    refine (hselected hi).mpr fun hzero => ?_
    exact hall 0 (List.mem_of_getElem? hzero) rfl
  · intro prev cur hprev hcur
    have hmask : ∀ m ∈ some bytes, m.length = width * height := by
      rintro m ⟨⟩
      exact hbytes
    exact exists_report_iff hprev hcur hmask

/-- Two pixels, the first one of them hidden. -/
theorem masked_pixels_have_no_influence_pair :
    BlockDetector.standard.detect? 2 1 [0, 0, 0, 9, 9, 9] [0, 0, 0, 9, 9, 9] (some [0, 1]) =
      BlockDetector.standard.detect? 2 1 [0, 0, 0, 9, 9, 9] [255, 255, 255, 9, 9, 9]
        (some [0, 1]) := by
  have hbytes : [(0 : UInt8), 1].length = 2 * 1 := rfl
  refine (masked_pixels_have_no_influence standard 2 1 hbytes).1 _ _ _ _ ?_
  intro i hi hne
  match i, hi with
  | 0, _ => exact absurd rfl hne
  | 1, _ => exact ⟨rfl, rfl⟩

end MotionWatch.BlockDetector
