import Mathlib.Data.List.DropRight
import MotionWatch.Text.Blank

/-!
# What is left between blanks

* `Unpadded`: a text that neither starts nor ends with a blank. `strip_eq_self_iff`: these are the
  texts that stripping leaves as they are.
* `Strips`: a text without the blanks at its two ends. `strips_strip`: that is what stripping gives.
-/

namespace MotionWatch.Text

/-- A text neither starts nor ends with a blank. -/
structure Unpadded (cs : List Char) : Prop where
  first : ∀ c, cs.head? = some c → isBlank c = false
  last : ∀ c, cs.getLast? = some c → isBlank c = false

/-- The text `t` is `cs` without the blanks at its two ends. -/
structure Strips (cs t : List Char) : Prop where
  unpadded : Unpadded t
  around : ∃ before after, cs = before ++ t ++ after ∧
    (∀ c ∈ before, isBlank c = true) ∧ ∀ c ∈ after, isBlank c = true

theorem strip_eq_rdropWhile (cs : List Char) :
    strip cs = (cs.dropWhile isBlank).rdropWhile isBlank := rfl

theorem unpadded_strip (cs : List Char) : Unpadded (strip cs) := by
  rw [strip_eq_rdropWhile]
  constructor
  · intro c hc
    -- What is kept starts where the blanks before it end.
    obtain ⟨rest, hrest⟩ := List.rdropWhile_prefix isBlank (cs.dropWhile isBlank)
    have hhead : (cs.dropWhile isBlank).head? = some c := by
      rw [← hrest, List.head?_append, hc, Option.some_or]
    have hnot := List.head?_dropWhile_not isBlank cs
    rw [hhead] at hnot
    exact hnot
  · intro c hc
    obtain ⟨hne, rfl⟩ := List.mem_getLast?_eq_getLast hc
    exact Bool.not_eq_true _ ▸ List.rdropWhile_last_not isBlank _ hne

/-- The texts that stay as they are. -/
theorem strip_eq_self_iff {cs : List Char} : strip cs = cs ↔ Unpadded cs := by
  constructor
  · exact fun h => h ▸ unpadded_strip cs
  · intro h
    have hfirst : cs.dropWhile isBlank = cs :=
      List.dropWhile_eq_self_iff.mpr fun hpos => Bool.not_eq_true _ ▸
        h.first _ (List.head?_eq_getElem? ▸ List.getElem?_eq_getElem hpos)
    rw [strip_eq_rdropWhile, hfirst]
    exact (List.rdropWhile_eq_self_iff).mpr fun hne =>
      Bool.not_eq_true _ ▸ h.last _ (List.getLast?_eq_some_getLast hne)

/-- A text without blanks stays as it is. -/
theorem strip_eq_self {cs : List Char} (h : ∀ c ∈ cs, isBlank c = false) : strip cs = cs :=
  strip_eq_self_iff.mpr
    ⟨fun c hc => h c (List.mem_of_head? hc), fun c hc => h c (List.mem_of_getLast? hc)⟩

/-- **Stripping takes away the blanks at the two ends**, and nothing else. -/
theorem strips_strip (cs : List Char) : Strips cs (strip cs) := by
  refine ⟨unpadded_strip cs, cs.takeWhile isBlank, (cs.dropWhile isBlank).rtakeWhile isBlank,
    ?_, fun _ => List.mem_takeWhile_imp, fun _ => List.mem_rtakeWhile_imp⟩
  rw [strip_eq_rdropWhile, List.append_assoc, List.rdropWhile_append_rtakeWhile,
    List.takeWhile_append_dropWhile]

theorem mem_of_mem_strip {c : Char} {cs : List Char} (h : c ∈ strip cs) : c ∈ cs := by
  obtain ⟨before, after, heq, -⟩ := (strips_strip cs).around
  rw [heq]
  exact List.mem_append_left after (List.mem_append_right before h)

end MotionWatch.Text
