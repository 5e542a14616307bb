import MotionWatch.Proofs.Decimal.Layout
import MotionWatch.Proofs.Parameter.Text

/-!
# Values written back

A value is shown as a text, and a parameter is set by a text. What is shown can be written back.

* `Value.IsNumber`: the values that can be written back; a double that is no number cannot.
* `Value.stripped`: what becomes of a value. `stripped_eq_self_iff`: when it stays as it is.
* `readValue_text`: the text of a value is read as that value.
* `written_back`: what is shown of a set can be written to it.
-/

namespace MotionWatch

namespace Value

/-- A double is a number. -/
def IsNumber : Value → Prop
  | double x => x.isNaN = false
  | _ => True

/-- A value after it has been written as a text: a string without the blanks at its two ends. -/
def stripped : Value → Value
  | string t => string (Text.trim t)
  | v => v

variable {v : Value}

@[simp] theorem kind_stripped (v : Value) : v.stripped.kind = v.kind := by
  cases v <;> rfl

/-- The values that stay as they are. -/
theorem stripped_eq_self_iff : v.stripped = v ↔ ∀ t, v = string t → Text.Unpadded t.toList := by
  cases v with
  | string t =>
    have hlist : Text.trim t = t ↔ Text.strip t.toList = t.toList := by
      rw [Text.trim, ← String.toList_inj, String.toList_ofList]
    rw [stripped, string.injEq, hlist, Text.strip_eq_self_iff]
    exact ⟨fun h _ ht => string.inj ht ▸ h, fun h => h t rfl⟩
  | _ => exact iff_of_true rfl nofun

end Value

namespace ParameterSet

variable {name : String} {v : Value}

/-- **The text of a value is read as that value.** -/
theorem readValue_text (hv : v.IsNumber) :
    readValue name v.kind (Text.strip v.text.toList) = .ok v.stripped := by
  cases v with
  | bool b => cases b <;> rfl
  | int n =>
    have hkind : Kind.int ≠ .double := nofun
    exact (readValue_eq_ok_iff hkind).mpr ⟨rfl, writtenAs_text n⟩
  | double x =>
    have hstrip : Text.strip (Decimal.plainFloat x).toList = (Decimal.plainFloat x).toList :=
      Text.strip_eq_self fun _ => Decimal.isBlank_of_mem_plain
    show readValue name .double (Text.strip (Decimal.plainFloat x).toList) = _
    rw [hstrip, readValue, Decimal.readFloat_plainFloat hv]
    rfl
  | string t => rfl

/-- A parameter is listed with its value. -/
theorem mem_list {s : ParameterSet} (hs : s.Sound) {p : Parameter} (hp : s.get? name = some p) :
    (name, p.description, p.value) ∈ s.list :=
  List.mem_map.mpr ⟨(name, p), (Table.mem_toList_iff hs.sorted).mpr hp, rfl⟩

/-- **What is shown can be written back.** Every parameter can be given any value of its kind, and
then that value is listed. The text of the value, unless that is no number, is accepted and leaves
the parameter with the value, where a string loses the blanks at its two ends. All other parameters
stay as they are. -/
theorem written_back (ds : List Declaration) (ws : List Write) :
    let s := (ofDeclarations ds).writeAll ws
    ∀ name p (v : Value), s.get? name = some p → v.kind = p.kind → v.IsNumber →
      (∃ shown, s.write (.value name v) = (shown, .ok ()) ∧
        (name, p.description, v) ∈ shown.list) ∧
      (∃ s', s.write (.text name v.text) = (s', .ok ()) ∧
        s'.get? name = some { p with value := v.stripped } ∧
        (name, p.description, v.stripped) ∈ s'.list ∧
        ∀ other, other ≠ name → s'.get? other = s.get? other) ∧
      (v.stripped = v ↔ ∀ t, v = .string t → Text.Unpadded t.toList) := by
  intro s name p v hp hv hnumber
  have hs : s.Sound := sound_writeAll (Sound.ofDeclarations ds) ws
  have hstored (w : Value) : (s.store name p w).get? name = some { p with value := w } := by
    rw [get?_store, if_pos rfl]
  refine ⟨⟨s.store name p v, ?_, mem_list (hs.store hv) (hstored v)⟩,
    ⟨s.store name p v.stripped, ?_, hstored _, ?_, fun other hother => ?_⟩,
    Value.stripped_eq_self_iff⟩
  · have hset : s.set name v = .ok (s.store name p v) :=
      set_eq_ok_iff.mpr ⟨p, v, hp, if_pos hv, rfl⟩
    rw [write, hset]
    rfl
  · exact write_text_of_ok hp (hv ▸ readValue_text hnumber)
  · exact mem_list (hs.store ((Value.kind_stripped v).trans hv)) (hstored _)
  · rw [get?_store, if_neg (Ne.symm hother)]

/-- A string that starts with a blank is listed with it, and loses it when it is written back. -/
theorem padded_string_not_written_back :
    let s := ofDeclarations [⟨"name", "a name", .string " a"⟩]
    s.list = [("name", "a name", .string " a")] ∧
      ∃ s', s.write (.text "name" (Value.string " a").text) = (s', .ok ()) ∧
        s'.getString "name" = .ok "a" ∧ s'.getString "name" ≠ .ok " a" := by
  refine ⟨rfl, _, rfl, rfl, ?_⟩
  show Except.ok "a" ≠ Except.ok " a"
  decide

/-- The text of a double need not be its exact value, which is 8388608 less here. -/
theorem written_back_power_of_ten :
    let s := (ofDeclarations [⟨"ratio", "a ratio", .double 1⟩]).writeAll []
    let p : Parameter := ⟨"a ratio", .double, .double 1⟩
    let v : Value := .double 1e23
    s.get? "ratio" = some p ∧ v.kind = p.kind ∧ v.IsNumber ∧
      v.text = "100000000000000000000000" ∧
      ∃ s', s.write (.text "ratio" "100000000000000000000000") = (s', .ok ()) ∧
        s'.get? "ratio" = some { p with value := v } := by
  intro s p v
  have hnumber : v.IsNumber := by
    show Float.isNaN 1e23 = false
    decide +kernel
  have htext : v.text = "100000000000000000000000" := by decide +kernel
  obtain ⟨-, ⟨s', hwrite, hget, -⟩, -⟩ := written_back
    [⟨"ratio", "a ratio", .double 1⟩] [] "ratio" p v rfl rfl hnumber
  exact ⟨rfl, rfl, hnumber, htext, s', htext ▸ hwrite, hget⟩

end ParameterSet

end MotionWatch
