import MotionWatch.Proofs.Misstep
import MotionWatch.Proofs.Plugin.TerminatedText

/-!
# Texts in blocks of memory

A text crosses the border in a block of memory, which one side asks for and fills, and the other
side reads. This is the crossing once more, step by step. A block may be refused, and one that is
granted may hold anything; whoever reads it does not know how long it is. No step leaves the block,
and what arrives is the same.

* `Checked.copy`, `write`, `upToZero`: the steps that are checked.
* `Checked.handOver`, `takeOver`: what the two sides do. `transfer_some`: no step fails.
* `BeforeZero`: the part of a text before its first zero character. `beforeZero_arrives`: this is
  what arrives, whatever the memory is like.
-/

namespace MotionWatch

open Plugin

namespace Checked

/-! ## Steps -/

section Steps

variable {α : Type} {source target l : List α} {bytes : List UInt8} {i n : Nat}

/-- Copies the first `n` values of a list over those of another one. -/
def copy (source target : List α) (n : Nat) : Except Misstep (List α) :=
  if n ≤ source.length ∧ n ≤ target.length then .ok (source.take n ++ target.drop n)
  else .error .outside

/-- Changes the value at a place. -/
def write (l : List α) (i : Nat) (v : α) : Except Misstep (List α) :=
  if i < l.length then .ok (l.set i v) else .error .outside

/-- The bytes of a block before its first zero. The end of the block is not seen, so there has to
be one. -/
def upToZero : List UInt8 → Except Misstep (List UInt8)
  | [] => .error .outside
  | b :: block => if b = 0 then .ok [] else (upToZero block).map (b :: ·)

theorem copy_eq_ok (hsource : n ≤ source.length) (htarget : n ≤ target.length) :
    copy source target n = .ok (source.take n ++ target.drop n) := if_pos ⟨hsource, htarget⟩

theorem write_eq_ok (hi : i < l.length) (v : α) : write l i v = .ok (l.set i v) := if_pos hi

/-- **A reader stops at the first zero**, whatever is behind it. -/
theorem upToZero_append (hbytes : 0 ∉ bytes) (rest : List UInt8) :
    upToZero (bytes ++ 0 :: rest) = .ok bytes := by
  induction bytes with
  | nil => rfl
  | cons b bytes ih =>
    rw [List.mem_cons, not_or] at hbytes
    rw [List.cons_append, upToZero, if_neg (Ne.symm hbytes.1), ih hbytes.2]
    rfl

end Steps

/-! ## Both sides -/

/-- The memory that can be asked for: a block of so many bytes, which may hold anything, or none. -/
abbrev Memory : Type := (n : Nat) → Option (Vector UInt8 n)

/-- Writes the first `n` bytes into a block, and a zero behind them. -/
def terminate (bytes block : List UInt8) (n : Nat) : Except Misstep (List UInt8) := do
  let block ← copy bytes block n
  write block n 0

/-- Hands a text over, in a block that has room for the bytes before the first zero, and for a zero.
There is no block without a text, or if it is refused. -/
def handOver (memory : Memory) : Option String → Except Misstep (Option (List UInt8))
  | none => .ok none
  | some s =>
    let bytes := Text.utf8 s
    let n := bytes.findIdx (· = 0)
    match memory (n + 1) with
    | none => .ok none
    | some block => (terminate bytes block.toList n).map some

/-- Takes a text over. -/
def takeOver : Option (List UInt8) → Except Misstep (Option String)
  | none => .ok none
  | some block => (upToZero block).map fun bytes => some (fromTerminated bytes)

/-- Hands a text over and takes it over. -/
def transfer (memory : Memory) (s : Option String) : Except Misstep (Option String) := do
  takeOver (← handOver memory s)

variable {bytes block : List UInt8} {n : Nat}

/-- **The bytes and the zero fill a block that is one byte longer.** -/
theorem terminate_eq_ok (hbytes : n ≤ bytes.length) (hblock : block.length = n + 1) :
    terminate bytes block n = .ok (bytes.take n ++ [0]) := by
  have hfirst : (bytes.take n).length = n := List.length_take_of_le hbytes
  obtain ⟨last, hlast⟩ : ∃ last, block.drop n = [last] :=
    List.length_eq_one_iff.mp (by rw [List.length_drop]; omega)
  have hcopied : (bytes.take n ++ [last]).length = n + 1 := by
    rw [List.length_append, hfirst, List.length_singleton]
  rw [terminate, copy_eq_ok hbytes (by omega), ok_bind, hlast, write_eq_ok (by omega),
    List.set_append_right n 0 (Nat.le_of_eq hfirst), hfirst, Nat.sub_self]
  rfl

theorem terminated_eq_take (s : String) :
    terminated s = (Text.utf8 s).take ((Text.utf8 s).findIdx (· = 0)) := by
  rw [terminated, List.takeWhile_eq_take_findIdx_not]
  simp

theorem length_terminated (s : String) :
    (terminated s).length = (Text.utf8 s).findIdx (· = 0) := by
  rw [terminated_eq_take]
  exact List.length_take_of_le List.findIdx_le_length

theorem zero_not_mem_terminated (s : String) : 0 ∉ terminated s := fun h => by
  simpa using List.mem_takeWhile_imp h

/-- A block that is granted gets the bytes before the first zero, and a zero. -/
theorem handOver_some (memory : Memory) (s : String) :
    handOver memory (some s) =
      .ok ((memory ((terminated s).length + 1)).map fun _ => terminated s ++ [0]) := by
  rw [length_terminated, handOver]
  cases memory ((Text.utf8 s).findIdx (· = 0) + 1) with
  | none => rfl
  | some block =>
    dsimp only
    rw [terminate_eq_ok List.findIdx_le_length block.length_toList, ← terminated_eq_take]
    rfl

/-- **No step of the crossing fails**, and what the other side reads is all that was written. -/
theorem transfer_some (memory : Memory) (s : String) :
    transfer memory (some s) =
      .ok ((memory ((terminated s).length + 1)).map fun _ => fromTerminated (terminated s)) := by
  rw [transfer, handOver_some, ok_bind]
  cases memory ((terminated s).length + 1) with
  | none => rfl
  | some block =>
    rw [Option.map_some, takeOver, upToZero_append (zero_not_mem_terminated s) []]
    rfl

example : transfer (fun n => some (.replicate n 7)) (some "né\x00t") = .ok (some "né") := by decide

end Checked

/-! ## What arrives -/

namespace Plugin

/-- The part of a text before its first zero character, or all of it if there is none. -/
structure BeforeZero (s head : String) : Prop where
  zero_not_mem : '\x00' ∉ head.toList
  split : s = head ∨ ∃ tail, s = head ++ "\x00" ++ tail

theorem beforeZero_takeWhile (s : String) :
    BeforeZero s (.ofList (s.toList.takeWhile (· ≠ '\x00'))) := by
  refine ⟨fun h => ?_, ?_⟩
  · rw [String.toList_ofList] at h
    simpa using List.mem_takeWhile_imp h
  · by_cases hzero : '\x00' ∈ s.toList
    · obtain ⟨first, tail, hs, hfirst⟩ := List.eq_append_cons_of_mem hzero
      refine .inr ⟨.ofList tail, String.toList_inj.mp ?_⟩
      rw [hs, takeWhile_append_zero hfirst]
      simp
    · rw [takeWhile_of_not_mem hzero, String.ofList_toList]
      exact .inl rfl

/-- **What arrives of a text** is the part before its first zero character, byte for byte. Its bytes
are well-formed, so nothing is replaced, and without a text there is none on the other side. This
holds for every memory that grants the block; if it is refused, there is no text either. -/
theorem beforeZero_arrives :
    acrossBorder none = none ∧ (∀ memory, Checked.transfer memory none = .ok none) ∧
    ∀ s : String, ∃ head : String, BeforeZero s head ∧
      Text.utf8 head = (Text.utf8 s).takeWhile (· ≠ 0) ∧
      Text.utf8? (terminated s) = some head ∧
      acrossBorder (some s) = some head ∧
      ∀ memory, Checked.transfer memory (some s) =
        .ok ((memory ((Text.utf8 head).length + 1)).map fun _ => head) := by
  refine ⟨rfl, fun _ => rfl, fun s => ⟨_, beforeZero_takeWhile s, ?_⟩⟩
  have hbytes := terminated_eq s
  have harrives := fromTerminated_terminated s
  refine ⟨hbytes.symm, ?_, congrArg some harrives, fun memory => ?_⟩
  · rw [hbytes, Text.utf8?_utf8]
  · rw [Checked.transfer_some, harrives, hbytes]

end Plugin

end MotionWatch
