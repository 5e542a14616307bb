import Mathlib.Data.List.TakeWhile
import MotionWatch.Plugin.TerminatedText
import MotionWatch.Proofs.Text.Utf8

/-!
# What arrives of a text

A text crosses the border as bytes up to the first zero. Only the zero character has such a byte, so
a text is cut between two characters, if at all.

* `takeWhile_utf8EncodeChar`: the bytes of another character are not zero.
* `terminated_eq`: the bytes that cross are those of the text up to its first zero character.
* `fromTerminated_terminated`: this is what arrives.
-/

namespace MotionWatch.Plugin

open Text

/-- Only the zero character has a zero byte. -/
theorem takeWhile_utf8EncodeChar {c : Char} (hc : c ≠ '\x00') (bytes : List UInt8) :
    (String.utf8EncodeChar c ++ bytes).takeWhile (· ≠ 0) =
      String.utf8EncodeChar c ++ bytes.takeWhile (· ≠ 0) := by
  refine List.takeWhile_append_of_pos fun b hb => decide_eq_true fun hzero => ?_
  subst hzero
  have hnumber : (0 : UInt8).toNat = 0 := rfl
  revert hb
  fun_cases String.utf8EncodeChar c
  case case1 v hv =>
    intro hb
    rw [List.mem_singleton.mp hb, toNat_ofNat_of_lt (by omega)] at hnumber
    exact hc (Char.toNat_inj.mp hnumber)
  all_goals
    simp only [List.mem_cons, List.not_mem_nil, or_false, ← UInt8.toNat_inj, toNat_ofNat_six]
    rw [toNat_ofNat_of_lt (by omega)]
    omega

theorem takeWhile_flatMap (cs : List Char) :
    (cs.flatMap String.utf8EncodeChar).takeWhile (· ≠ 0) =
      (cs.takeWhile (· ≠ '\x00')).flatMap String.utf8EncodeChar := by
  induction cs with
  | nil => rfl
  | cons c cs ih =>
    by_cases hc : c = '\x00'
    · subst hc
      rfl
    · rw [List.takeWhile_cons_of_pos (by simpa using hc), List.flatMap_cons, List.flatMap_cons,
        takeWhile_utf8EncodeChar hc, ih]

/-- The bytes before the first zero byte are those of the text before its first zero character. -/
theorem terminated_eq (s : String) :
    terminated s = utf8 (.ofList (s.toList.takeWhile (· ≠ '\x00'))) := by
  rw [terminated, utf8_eq_flatMap, takeWhile_flatMap, utf8_eq_flatMap, String.toList_ofList]

/-- **What arrives of a text** on the other side is all before its first zero character. -/
theorem fromTerminated_terminated (s : String) :
    fromTerminated (terminated s) = .ofList (s.toList.takeWhile (· ≠ '\x00')) := by
  rw [terminated_eq, fromTerminated, decodeLossy_utf8, String.toList_ofList]

theorem takeWhile_of_not_mem {cs : List Char} (h : '\x00' ∉ cs) :
    cs.takeWhile (· ≠ '\x00') = cs :=
  List.takeWhile_eq_self_iff.mpr fun _ hc => decide_eq_true fun heq => h (heq ▸ hc)

theorem takeWhile_append_zero {cs : List Char} (h : '\x00' ∉ cs) (tail : List Char) :
    (cs ++ '\x00' :: tail).takeWhile (· ≠ '\x00') = cs := by
  rw [List.takeWhile_append, takeWhile_of_not_mem h, if_pos rfl,
    List.takeWhile_cons_of_neg (by simp), List.append_nil]

end MotionWatch.Plugin
