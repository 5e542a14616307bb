import Mathlib.Order.Bounds.Defs
import MotionWatch.Proofs.Despeckle.Reach

/-!
# Windows of despeckling

A pass goes along the rows and then along the columns. Together that is the greatest or the least
value in a square window, and so two passes of one kind are one pass with a larger window.

* `Pass.Prefers`: which of two values a pass takes. `Pass.prefers_apply_iff`,
  `Pass.exists_get_apply`: it takes the value of the square window that it prefers to all others.
* `Pass.isGreatest_dilate`, `Pass.isLeast_erode`: the greatest and the least value of the window.
* `exists_midpoint`: between two pixels there is a third one, also in the corner of a small map.
* `Pass.apply_apply`: two passes of one kind are one pass, whose radius is the sum of theirs.
* `small_passes_twice`: so two small passes are one large pass, amid any other passes.
-/

namespace MotionWatch

/-! ## Preference -/

namespace Pass

/-- A pass prefers `v` to `w`, or they are the same. -/
def Prefers : Pass → UInt8 → UInt8 → Prop
  | dilate _, v, w => w ≤ v
  | erode _, v, w => v ≤ w

variable {p q s : Pass} {v a b : UInt8} {n i : Nat} {f : Nat → UInt8}

theorem prefers_refl (p : Pass) (v : UInt8) : p.Prefers v v := by
  cases p <;> exact UInt8.le_refl v

theorem prefers_antisymm (h : p.Prefers a b) (h' : p.Prefers b a) : a = b := by
  cases p with
  | dilate r => exact UInt8.le_antisymm h' h
  | erode r => exact UInt8.le_antisymm h h'

/-- Values to which the same ones are preferred are the same. -/
theorem eq_of_prefers_iff (h : ∀ v, p.Prefers v a ↔ p.Prefers v b) : a = b :=
  prefers_antisymm ((h a).mp (prefers_refl p a)) ((h b).mpr (prefers_refl p b))

/-- What is preferred to the chosen one is preferred to both. -/
theorem prefers_choose_iff : p.Prefers v (p.choose a b) ↔ p.Prefers v a ∧ p.Prefers v b := by
  cases p with
  | dilate r =>
    show max a b ≤ v ↔ a ≤ v ∧ b ≤ v
    rw [UInt8.max_def]
    simp only [UInt8.le_iff_toNat_le]
    split <;> omega
  | erode r =>
    show v ≤ min a b ↔ v ≤ a ∧ v ≤ b
    rw [UInt8.min_def]
    simp only [UInt8.le_iff_toNat_le]
    split <;> omega

theorem choose_eq_or (p : Pass) (a b : UInt8) : p.choose a b = a ∨ p.choose a b = b := by
  cases p with
  | dilate r =>
    show max a b = a ∨ max a b = b
    rw [UInt8.max_def]
    split
    · exact .inr rfl
    · exact .inl rfl
  | erode r =>
    show min a b = a ∨ min a b = b
    rw [UInt8.min_def]
    split
    · exact .inl rfl
    · exact .inr rfl

/-! ## Lines and squares -/

theorem prefers_foldl_iff {l : List Nat} :
    p.Prefers v (l.foldl (fun w j => p.choose w (f j)) a) ↔
      p.Prefers v a ∧ ∀ j ∈ l, p.Prefers v (f j) := by
  induction l generalizing a with
  | nil => exact ⟨fun h => ⟨h, nofun⟩, And.left⟩
  | cons j l ih => rw [List.foldl_cons, ih, prefers_choose_iff, List.forall_mem_cons, and_assoc]

theorem foldl_choose_mem (p : Pass) (f : Nat → UInt8) (l : List Nat) (i : Nat) :
    ∃ j, (j = i ∨ j ∈ l) ∧ l.foldl (fun w j => p.choose w (f j)) (f i) = f j := by
  induction l generalizing i with
  | nil => exact ⟨i, .inl rfl, rfl⟩
  | cons k l ih =>
    rw [List.foldl_cons]
    rcases choose_eq_or p (f i) (f k) with h | h
    · obtain ⟨j, hj, heq⟩ := ih i
      exact ⟨j, hj.imp_right (List.mem_cons_of_mem k), by rw [h, heq]⟩
    · obtain ⟨j, hj, heq⟩ := ih k
      refine ⟨j, .inr ?_, by rw [h, heq]⟩
      rcases hj with rfl | hj
      · exact .head l
      · exact .tail k hj

theorem prefers_best_iff (hi : i < n) : p.Prefers v (p.best n f i) ↔
    ∀ j < n, Nat.dist j i ≤ p.radius → p.Prefers v (f j) := by
  rw [best, prefers_foldl_iff]
  constructor
  · rintro ⟨-, h⟩ j hj hdist
    exact h j ((mem_window hi).mpr ⟨hj, hdist⟩)
  · intro h
    refine ⟨h i hi (by rw [Nat.dist_self]; exact Nat.zero_le _), fun j hj => ?_⟩
    obtain ⟨hj, hdist⟩ := (mem_window hi).mp hj
    exact h j hj hdist

/-- Along a line a pass takes one of the values within its radius. -/
theorem exists_best_eq (p : Pass) (f : Nat → UInt8) (hi : i < n) :
    ∃ j < n, Nat.dist j i ≤ p.radius ∧ p.best n f i = f j := by
  obtain ⟨j, hj, heq⟩ := foldl_choose_mem p f (window p.radius n i) i
  rcases hj with rfl | hj
  · exact ⟨j, hi, by rw [Nat.dist_self]; exact Nat.zero_le _, heq⟩
  · obtain ⟨hj, hdist⟩ := (mem_window hi).mp hj
    exact ⟨j, hj, hdist, heq⟩

variable {m : Raster UInt8} {x y : Nat}

/-- **A pass takes the value that it prefers to all in the square around a pixel.** -/
theorem prefers_apply_iff (hx : x < m.width) (hy : y < m.height) :
    p.Prefers v ((p.apply m).get x y) ↔ ∀ i < m.width, ∀ j < m.height,
      chebyshev (i, j) (x, y) ≤ p.radius → p.Prefers v (m.get i j) := by
  rw [get_apply p hx hy, prefers_best_iff hy]
  simp only [prefers_best_iff hx]
  constructor
  · intro h i hi j hj hdist
    obtain ⟨hix, hjy⟩ := Nat.max_le.mp hdist
    exact h j hj hjy i hi hix
  · intro h j hj hjy i hi hix
    exact h i hi j hj (Nat.max_le.mpr ⟨hix, hjy⟩)

theorem exists_get_apply (p : Pass) (hx : x < m.width) (hy : y < m.height) :
    ∃ i < m.width, ∃ j < m.height, chebyshev (i, j) (x, y) ≤ p.radius ∧
      (p.apply m).get x y = m.get i j := by
  obtain ⟨j, hj, hjy, hcolumn⟩ :=
    exists_best_eq p (fun j => p.best m.width (fun i => m.get i j) x) hy
  obtain ⟨i, hi, hix, hrow⟩ := exists_best_eq p (fun i => m.get i j) hx
  refine ⟨i, hi, j, hj, Nat.max_le.mpr ⟨hix, hjy⟩, ?_⟩
  rw [get_apply p hx hy, hcolumn, hrow]

end Pass

/-- The values of a map in the square around a pixel, as far as it is on the map. -/
def Raster.around (m : Raster UInt8) (r x y : Nat) : Set UInt8 :=
  {v | ∃ i < m.width, ∃ j < m.height, chebyshev (i, j) (x, y) ≤ r ∧ m.get i j = v}

namespace Pass

variable {m : Raster UInt8} {x y : Nat}

/-- **Dilating takes the greatest value of the window.** -/
theorem isGreatest_dilate (r : Nat) (hx : x < m.width) (hy : y < m.height) :
    IsGreatest (m.around r x y) (((dilate r).apply m).get x y) := by
  constructor
  · obtain ⟨i, hi, j, hj, hdist, heq⟩ := exists_get_apply (dilate r) hx hy
    exact ⟨i, hi, j, hj, hdist, heq.symm⟩
  · rintro v ⟨i, hi, j, hj, hdist, rfl⟩
    exact (prefers_apply_iff hx hy).mp (prefers_refl (dilate r) _) i hi j hj hdist

/-- **Eroding takes the least one.** -/
theorem isLeast_erode (r : Nat) (hx : x < m.width) (hy : y < m.height) :
    IsLeast (m.around r x y) (((erode r).apply m).get x y) := by
  constructor
  · obtain ⟨i, hi, j, hj, hdist, heq⟩ := exists_get_apply (erode r) hx hy
    exact ⟨i, hi, j, hj, hdist, heq.symm⟩
  · rintro v ⟨i, hi, j, hj, hdist, rfl⟩
    exact (prefers_apply_iff hx hy).mp (prefers_refl (erode r) _) i hi j hj hdist

end Pass

/-! ## Two passes -/

/-- Between two positions on a line there is a third one. -/
theorem exists_between {n i j r s : Nat} (hi : i < n) (hj : j < n) (h : Nat.dist i j ≤ r + s) :
    ∃ k < n, Nat.dist i k ≤ r ∧ Nat.dist k j ≤ s := by
  unfold Nat.dist at h ⊢
  by_cases hij : i ≤ j
  · exact ⟨min j (i + r), by omega, by omega, by omega⟩
  · exact ⟨max j (i - r), by omega, by omega, by omega⟩

/-- Between two pixels of a map there is a third one. -/
theorem exists_midpoint {w h r s : Nat} {a b : Nat × Nat} (ha : a.1 < w ∧ a.2 < h)
    (hb : b.1 < w ∧ b.2 < h) (hab : chebyshev a b ≤ r + s) :
    ∃ i < w, ∃ j < h, chebyshev a (i, j) ≤ r ∧ chebyshev (i, j) b ≤ s := by
  obtain ⟨hx, hy⟩ := Nat.max_le.mp hab
  obtain ⟨i, hi, hai, hib⟩ := exists_between ha.1 hb.1 hx
  obtain ⟨j, hj, haj, hjb⟩ := exists_between ha.2 hb.2 hy
  exact ⟨i, hi, j, hj, Nat.max_le.mpr ⟨hai, haj⟩, Nat.max_le.mpr ⟨hib, hjb⟩⟩

namespace Pass

variable {p q s : Pass}

theorem wellSized_apply (p : Pass) (m : Raster UInt8) : (p.apply m).WellSized :=
  Raster.wellSized_ofFn ..

/-- **Two passes of one kind are one pass**, whose radius is the sum of theirs. -/
theorem apply_apply (m : Raster UInt8) (hp : p.Prefers = s.Prefers) (hq : q.Prefers = s.Prefers)
    (hr : s.radius = p.radius + q.radius) : q.apply (p.apply m) = s.apply m := by
  refine Raster.ext_get (wellSized_apply ..) (wellSized_apply ..) rfl rfl ?_
  intro x (hx : x < m.width) y (hy : y < m.height)
  refine eq_of_prefers_iff (p := s) fun v => ?_
  rw [prefers_apply_iff hx hy, ← hq, prefers_apply_iff (m := p.apply m) hx hy, hr]
  constructor
  · intro h i hi j hj hdist
    obtain ⟨k, hk, l, hl, hfirst, hsecond⟩ := exists_midpoint ⟨hi, hj⟩ ⟨hx, hy⟩ hdist
    have hmiddle := h k hk l hl hsecond
    rw [hq, ← hp, prefers_apply_iff hk hl, hp, ← hq] at hmiddle
    exact hmiddle i hi j hj hfirst
  · intro h k (hk : k < m.width) l (hl : l < m.height) hsecond
    rw [hq, ← hp, prefers_apply_iff hk hl, hp, ← hq]
    intro i hi j hj hfirst
    refine h i hi j hj ((chebyshev_triangle (i, j) (k, l) (x, y)).trans ?_)
    exact Nat.add_le_add hfirst hsecond

theorem dilate_dilate (r r' : Nat) (m : Raster UInt8) :
    (dilate r').apply ((dilate r).apply m) = (dilate (r + r')).apply m :=
  apply_apply m rfl rfl rfl

theorem erode_erode (r r' : Nat) (m : Raster UInt8) :
    (erode r').apply ((erode r).apply m) = (erode (r + r')).apply m :=
  apply_apply m rfl rfl rfl

end Pass

/-! ## Patterns -/

theorem passes_append (u v : String) : passes (u ++ v) = passes u ++ passes v := by
  rw [passes, String.toList_append, List.filterMap_append]
  rfl

/-- Patterns that stand for some pass are the same if their passes are. -/
theorem despeckleValues_congr {u v : String} (hu : passes u ≠ []) (hv : passes v ≠ [])
    (h : ∀ m : Raster UInt8, (passes u).foldl (fun m p => p.apply m) m =
      (passes v).foldl (fun m p => p.apply m) m) (width height : Nat) (values : List UInt8) :
    despeckleValues width height values u = despeckleValues width height values v := by
  have hkeeps : Keeps width height u ↔ Keeps width height v := by
    rw [Keeps, Keeps, or_iff_right hu, or_iff_right hv]
  rw [despeckleValues_eq, despeckleValues_eq, despeckle_of_passes rfl hu,
    despeckle_of_passes rfl hv, h]
  simp only [hkeeps]

/-- Part of a pattern can be exchanged for another one with the same effect. -/
theorem despeckleValues_exchange {a b : String} (ha : passes a ≠ []) (hb : passes b ≠ [])
    (h : ∀ m : Raster UInt8, (passes a).foldl (fun m p => p.apply m) m =
      (passes b).foldl (fun m p => p.apply m) m) (width height : Nat) (values : List UInt8)
    (u v : String) : despeckleValues width height values (u ++ a ++ v) =
      despeckleValues width height values (u ++ b ++ v) := by
  refine despeckleValues_congr ?_ ?_ (fun m => ?_) width height values
  · simp [passes_append, ha]
  · simp [passes_append, hb]
  · simp only [passes_append, List.foldl_append, h]

/-- With a letter that stands for a pass, a map is despeckled if neither of its sides is cut off. -/
theorem isSome_despeckleValues_amid_iff {a : String} (ha : passes a ≠ []) (width height : Nat)
    (values : List UInt8) (u v : String) :
    (despeckleValues width height values (u ++ a ++ v)).isSome = true ↔
      values.length = width * height ∧ Count.Fits width height := by
  have hne : passes (u ++ a ++ v) ≠ [] := by simp [passes_append, ha]
  rw [isSome_despeckleValues_iff, Keeps, or_iff_right hne]

/-- **Two small passes are one large pass**, whatever comes before and after them, on maps of any
size: if the one pattern gives a map, the other one gives the same map, and if the program stops, it
stops with both. -/
theorem small_passes_twice (width height : Nat) (values : List UInt8) (u v : String) :
    despeckleValues width height values (u ++ "dd" ++ v) =
      despeckleValues width height values (u ++ "D" ++ v) ∧
    despeckleValues width height values (u ++ "ee" ++ v) =
      despeckleValues width height values (u ++ "E" ++ v) ∧
    ∀ p ∈ ["dd", "D", "ee", "E"],
      ((despeckleValues width height values (u ++ p ++ v)).isSome = true ↔
        values.length = width * height ∧ Count.Fits width height) := by
  refine ⟨?_, ?_, ?_⟩
  · refine despeckleValues_exchange (by decide) (by decide) ?_ width height values u v
    exact Pass.dilate_dilate 2 2
  · refine despeckleValues_exchange (by decide) (by decide) ?_ width height values u v
    exact Pass.erode_erode 2 2
  · have hpasses : ∀ p ∈ ["dd", "D", "ee", "E"], passes p ≠ [] := by decide
    exact fun p hp => isSome_despeckleValues_amid_iff (hpasses p hp) width height values u v

end MotionWatch
