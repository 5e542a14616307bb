import Mathlib.Data.List.DropRight
import Mathlib.Data.List.Induction
import MotionWatch.Record.PreRecord

/-!
# What is kept from before a recording

The number of frames to keep may be another one with each new frame. What is kept then depends on
all of these numbers since nothing was kept at all: a small one has let go of frames for good, but
it matters less with every frame that has come since.

* `toList_push_rtake`: if the last frames were kept, the last ones with the new one are kept.
* `Operation`, `after`: what is done with the frames, and what several operations leave.
* `recent`: the pushes since nothing was kept. `kept`: how many of their frames are left.
* `kept_concat`: what one more push does to this number. `toList_after`: so these are the frames.
* `frames_after`: what is kept, and handed over, after any operations.
-/

namespace MotionWatch.PreRecord

variable {α : Type}

/-- **The last frames with a new one** are the last of all, as far as there is room for them. -/
theorem toList_push_rtake {b : PreRecord α} {l : List α} {n : Nat} (h : b.toList = l.rtake n)
    (f : α) (capacity : Nat) :
    (b.push f capacity).toList = (l ++ [f]).rtake (min (n + 1) capacity) := by
  cases capacity with
  | zero => rw [push_zero, Nat.min_zero, List.rtake_zero]; rfl
  | succ c =>
    have hdrop : b.toList.drop (b.length + 1 - (c + 1)) = l.rtake (min n c) := by
      unfold length
      rw [h]
      unfold List.rtake
      rw [List.length_drop, List.drop_drop]
      congr 1
      omega
    rw [Nat.succ_min_succ, List.rtake_concat_succ, ← hdrop]
    rfl

/-! ## Operations -/

/-- What is done with the frames. -/
inductive Operation (α : Type) where
  | push (frame : α) (capacity : Nat)
  | take
  | clear

namespace Operation

/-- What an operation leaves. -/
def apply (b : PreRecord α) : Operation α → PreRecord α
  | push f capacity => b.push f capacity
  | take => b.take.2
  | clear => .empty

/-- Whether an operation leaves nothing. A push does so if there is no room for any frame. -/
def empties : Operation α → Bool
  | push _ capacity => capacity = 0
  | take => true
  | clear => true

/-- Frame and capacity of a push. -/
def pushed? : Operation α → Option (α × Nat)
  | push f capacity => some (f, capacity)
  | take => none
  | clear => none

end Operation

/-- What several operations leave. -/
def after (ops : List (Operation α)) : PreRecord α := ops.foldl Operation.apply empty

/-- The pushes since an operation has left nothing. -/
def recent (ops : List (Operation α)) : List (α × Nat) :=
  (ops.rtakeWhile fun op => !op.empties).filterMap Operation.pushed?

/-- How many frames are left after pushes with these capacities. There are no more than there were
pushes, and no more than any of them made room for, and those that have come since. -/
def kept (capacities : List Nat) : Nat :=
  (capacities.zipIdx.map fun p => p.1 + (capacities.length - (p.2 + 1))).foldl min
    capacities.length

/-- One more push makes room for one more frame, unless it has less room itself. -/
theorem kept_concat (cs : List Nat) (c : Nat) : kept (cs ++ [c]) = min (kept cs + 1) c := by
  have hshift : (cs.zipIdx.map fun p => p.1 + (cs.length + 1 - (p.2 + 1))) =
      (cs.zipIdx.map fun p => p.1 + (cs.length - (p.2 + 1))).map (· + 1) := by
    rw [List.map_map]
    refine List.map_congr_left fun p hp => ?_
    have hlt : p.2 < cs.length := List.snd_lt_of_mem_zipIdx hp
    show p.1 + (cs.length + 1 - (p.2 + 1)) = p.1 + (cs.length - (p.2 + 1)) + 1
    omega
  have hfold (l : List Nat) (n : Nat) :
      (l.map (· + 1)).foldl min (n + 1) = l.foldl min n + 1 := by
    rw [List.foldl_map]
    exact List.foldl_hom (· + 1) fun x y => Nat.succ_min_succ x y
  unfold kept
  rw [List.length_append, List.length_singleton, List.zipIdx_append, List.map_append, hshift,
    List.foldl_append, hfold, Nat.zero_add]
  show min _ (c + (cs.length + 1 - (cs.length + 1))) = _
  rw [Nat.sub_self]
  rfl

theorem kept_le_length (cs : List Nat) : kept cs ≤ cs.length := by
  induction cs using List.reverseRecOn with
  | nil => exact Nat.le_refl 0
  | append_singleton cs c ih =>
    rw [kept_concat, List.length_append, List.length_singleton]
    exact (Nat.min_le_left ..).trans (Nat.succ_le_succ ih)

/-! ## Histories -/

theorem after_concat (ops : List (Operation α)) (op : Operation α) :
    after (ops ++ [op]) = op.apply (after ops) := List.foldl_append ..

theorem Operation.apply_of_empties {op : Operation α} (h : op.empties = true) (b : PreRecord α) :
    op.apply b = .empty := by
  cases op with
  | push f capacity =>
    obtain rfl : capacity = 0 := of_decide_eq_true h
    rfl
  | take => rfl
  | clear => rfl

theorem recent_concat_of_empties {op : Operation α} (h : op.empties = true)
    (ops : List (Operation α)) : recent (ops ++ [op]) = [] := by
  unfold recent
  rw [List.rtakeWhile_concat_neg _ _ _ (by simp [h])]
  rfl

theorem recent_concat_push (ops : List (Operation α)) (f : α) {capacity : Nat}
    (h : capacity ≠ 0) : recent (ops ++ [.push f capacity]) = recent ops ++ [(f, capacity)] := by
  unfold recent
  rw [List.rtakeWhile_concat_pos _ _ _ (by simp [Operation.empties, h]), List.filterMap_append]
  rfl

/-- **The last of the recent frames are kept.** -/
theorem toList_after (ops : List (Operation α)) : (after ops).toList =
    ((recent ops).map Prod.fst).rtake (kept ((recent ops).map Prod.snd)) := by
  induction ops using List.reverseRecOn with
  | nil => rfl
  | append_singleton ops op ih =>
    rw [after_concat]
    cases hempties : op.empties with
    | true =>
      rw [op.apply_of_empties hempties, recent_concat_of_empties hempties]
      rfl
    | false =>
      -- Only a push leaves anything.
      cases op with
      | take => cases hempties
      | clear => cases hempties
      | push f capacity =>
        rw [recent_concat_push ops f (of_decide_eq_false hempties), List.map_append,
          List.map_append]
        show _ = ((recent ops).map Prod.fst ++ [f]).rtake
          (kept ((recent ops).map Prod.snd ++ [capacity]))
        rw [kept_concat]
        exact toList_push_rtake ih f capacity

/-- **What is kept after any operations**, and handed over: the last of the frames that were pushed
since nothing was kept, as many as all of these pushes made room for. After a push there are never
more than it has room for. -/
theorem frames_after (ops : List (Operation α)) :
    let frames := ((recent ops).map Prod.fst).rtake (kept ((recent ops).map Prod.snd))
    (after ops).toList = frames ∧
    (after ops).length = kept ((recent ops).map Prod.snd) ∧
    (after ops).take = (frames, .empty) ∧
    ∀ f capacity, (after (ops ++ [.push f capacity])).length ≤ capacity := by
  intro frames
  have hframes : (after ops).toList = frames := toList_after ops
  have hkept : kept ((recent ops).map Prod.snd) ≤ (recent ops).length := by
    have h := kept_le_length ((recent ops).map Prod.snd)
    rwa [List.length_map] at h
  refine ⟨hframes, ?_, ?_, fun f capacity => ?_⟩
  · show (after ops).toList.length = _
    rw [hframes]
    show (((recent ops).map Prod.fst).drop _).length = _
    rw [List.length_drop, List.length_map]
    omega
  · rw [take, hframes]
  · rw [after_concat]
    show ((after ops).push f capacity).length ≤ capacity
    rw [length_push]
    exact Nat.min_le_right ..

end MotionWatch.PreRecord
