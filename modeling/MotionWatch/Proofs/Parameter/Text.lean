import MotionWatch.Proofs.Decimal.Integer
import MotionWatch.Proofs.Parameter.Administration
import MotionWatch.Proofs.Text.Blank

/-!
# Values written as texts

A text that is written to a parameter is read by the kind of the parameter, without the blanks
around it. What it stands for is said here by the grammar of each kind; doubles have none here.

* `Value.WrittenAs`: which value a text stands for.
* `readValue_eq_ok_iff`: this is the value that is read.
* `Updated`: a set in which one parameter has another value.
* `write_text`: what a text does to a parameter. It is written if it stands for a value of the kind,
  and refused if not.
-/

namespace MotionWatch

namespace Value

/-- The words for a truth value. -/
def words : Bool → List String
  | true => ["true", "1", "yes", "on"]
  | false => ["false", "0", "no", "off"]

/-- The texts of a value: an integer with or without a sign, a word for a truth value with small or
capital letters, or the text itself. -/
inductive WrittenAs : Value → List Char → Prop
  | int {n : Int64} {t : List Char} (h : Decimal.Spells t n.toInt) : WrittenAs (int n) t
  | bool {b : Bool} {t : List Char} (h : String.ofList (t.map Char.toLower) ∈ words b) :
    WrittenAs (bool b) t
  | string (t : List Char) : WrittenAs (string (.ofList t)) t

end Value

namespace ParameterSet

variable {s : ParameterSet} {name : String} {p : Parameter} {kind : Kind} {v : Value}
  {t : List Char} {b : Bool}

theorem readBool_eq_some_iff :
    readBool t = some b ↔ String.ofList (t.map Char.toLower) ∈ Value.words b := by
  unfold readBool
  generalize String.ofList (t.map Char.toLower) = word
  dsimp only
  have hdisjoint : word ∈ Value.words true → word ∉ Value.words false := by
    simp only [Value.words, List.mem_cons, List.not_mem_nil, or_false]
    rintro (rfl | rfl | rfl | rfl) <;> decide
  split
  · next h =>
    have hon : word ∈ Value.words true := by simpa [Value.words] using h
    cases b with
    | true => exact iff_of_true rfl hon
    | false => exact iff_of_false nofun (hdisjoint hon)
  · next hon =>
    split
    · next h =>
      have hoff : word ∈ Value.words false := by simpa [Value.words] using h
      cases b with
      | true => exact iff_of_false nofun fun h => hdisjoint h hoff
      | false => exact iff_of_true rfl hoff
    · next hoff =>
      refine iff_of_false nofun fun h => ?_
      cases b with
      | true => exact hon (by simpa [Value.words] using h)
      | false => exact hoff (by simpa [Value.words] using h)

theorem readInt64_eq_ok_iff {i : Int} : Decimal.readInt64 t = .ok i ↔
    ∃ n : Int64, n.toInt = i ∧ Decimal.Spells t n.toInt := by
  unfold Decimal.readInt64
  rw [Decimal.readInteger_eq_ok_iff (by decide) (by decide)]
  constructor
  · rintro ⟨h, hlo, hhi⟩
    have hi : (Int64.ofInt i).toInt = i :=
      Int64.toInt_ofInt_of_le hlo (Int.lt_of_le_of_lt hhi (by decide))
    exact ⟨.ofInt i, hi, hi.symm ▸ h⟩
  · rintro ⟨n, rfl, h⟩
    exact ⟨h, n.le_toInt, Int.le_of_lt_add_one n.toInt_lt⟩

/-- **A text is read as the value that it stands for**, if there is one of the kind. -/
theorem readValue_eq_ok_iff (hkind : kind ≠ .double) :
    readValue name kind t = .ok v ↔ v.kind = kind ∧ v.WrittenAs t := by
  unfold readValue
  constructor
  · intro h
    cases kind with
    | bool =>
      cases hb : readBool t with
      | none => rw [hb] at h; cases h
      | some b =>
        rw [hb] at h
        obtain rfl := Except.ok.inj h
        exact ⟨rfl, .bool (readBool_eq_some_iff.mp hb)⟩
    | int =>
      cases hi : Decimal.readInt64 t with
      | error e => rw [hi] at h; cases h
      | ok i =>
        rw [hi] at h
        obtain rfl := Except.ok.inj h
        obtain ⟨n, rfl, hspells⟩ := readInt64_eq_ok_iff.mp hi
        rw [Int64.ofInt_toInt]
        exact ⟨rfl, .int hspells⟩
    | double => exact absurd rfl hkind
    | string =>
      obtain rfl := Except.ok.inj h
      exact ⟨rfl, .string t⟩
  · rintro ⟨rfl, h⟩
    cases h with
    | int hspells =>
      dsimp only [Value.kind]
      rw [readInt64_eq_ok_iff.mpr ⟨_, rfl, hspells⟩]
      dsimp only
      rw [Int64.ofInt_toInt]
    | bool hword =>
      dsimp only [Value.kind]
      rw [readBool_eq_some_iff.mpr hword]
    | string => rfl

/-! ## Writes -/

theorem write_text_of_ok (hp : s.get? name = some p) {text : String}
    (h : readValue name p.kind (Text.strip text.toList) = .ok v) :
    s.write (.text name text) = (s.store name p v, .ok ()) := by
  rw [write, setFromText, hp]
  dsimp only
  rw [h]
  rfl

theorem write_text_of_error (hp : s.get? name = some p) {text : String} {e : ParameterError}
    (h : readValue name p.kind (Text.strip text.toList) = .error e) :
    s.write (.text name text) = (s, .error e) := by
  rw [write, setFromText, hp]
  dsimp only
  rw [h]
  rfl

/-- An integer is its text, which has no blanks. -/
theorem writtenAs_text (n : Int64) :
    (Value.int n).WrittenAs (Text.strip (Value.int n).text.toList) := by
  have hstrip : Text.strip (Decimal.ofInt n.toInt) = Decimal.ofInt n.toInt :=
    Text.strip_eq_self fun c hc => Decimal.isBlank_of_mem_ofInt hc
  rw [Value.text, String.toList_ofList, hstrip]
  exact .int (Decimal.spells_ofInt n.toInt)

/-- A set in which the parameter `name`, which was `p`, has the value `v`, and all others are as
they were. -/
structure Updated (s : ParameterSet) (name : String) (p : Parameter) (v : Value)
    (s' : ParameterSet) : Prop where
  written : s'.get? name = some { p with value := v }
  others : ∀ other, other ≠ name → s'.get? other = s.get? other

theorem updated_store (s : ParameterSet) (name : String) (p : Parameter) (v : Value) :
    s.Updated name p v (s.store name p v) where
  written := by rw [get?_store, if_pos rfl]
  others other hother := by rw [get?_store, if_neg (Ne.symm hother)]

/-- **What a text does to a parameter** that is no double. Without the blanks around it, it is
written as the value of the kind that it stands for, and no other parameter is touched. If it stands
for none, it is refused, which leaves the set as it is; that does not happen to strings. The text of
any integer is written as that integer. -/
theorem write_text (hp : s.get? name = some p) (hkind : p.kind ≠ .double) (text : String) :
    let t := Text.strip text.toList
    Text.Strips text.toList t ∧
    (∀ v : Value, v.kind = p.kind → v.WrittenAs t →
      ∃ s', s.write (.text name text) = (s', .ok ()) ∧ s.Updated name p v s') ∧
    ((∀ v : Value, v.kind = p.kind → ¬v.WrittenAs t) →
      p.kind ≠ .string ∧ ∃ e, s.write (.text name text) = (s, .error e)) ∧
    (p.kind = .int → ∀ n : Int64, ∃ s',
      s.write (.text name (Value.int n).text) = (s', .ok ()) ∧ s.Updated name p (.int n) s') := by
  intro t
  refine ⟨Text.strips_strip _, fun v hv ht => ?_, fun hnone => ⟨fun hstring => ?_, ?_⟩,
    fun hint n => ?_⟩
  · have hread : readValue name p.kind t = .ok v := (readValue_eq_ok_iff hkind).mpr ⟨hv, ht⟩
    exact ⟨_, write_text_of_ok hp hread, updated_store ..⟩
  · exact hnone (.string (.ofList t)) hstring.symm (.string t)
  · cases h : readValue name p.kind t with
    | error e => exact ⟨e, write_text_of_error hp h⟩
    | ok v =>
      obtain ⟨hv, ht⟩ := (readValue_eq_ok_iff hkind).mp h
      exact absurd ht (hnone v hv)
  · have hread : readValue name p.kind (Text.strip (Value.int n).text.toList) = .ok (.int n) :=
      (readValue_eq_ok_iff hkind).mpr ⟨hint.symm, writtenAs_text n⟩
    exact ⟨_, write_text_of_ok hp hread, updated_store ..⟩

/-- The least integer has no positive counterpart, but it can be written, between blanks that are
not ASCII ones. -/
theorem write_text_minValue :
    let s := ParameterSet.empty.declare "count" "a count" (.int 3)
    let p : Parameter := ⟨"a count", .int, .int 3⟩
    s.get? "count" = some p ∧ p.kind ≠ .double ∧
      ∃ s', s.write (.text "count" "\u2003-9223372036854775808\u00a0") = (s', .ok ()) ∧
        s'.get? "count" = some { p with value := .int Int64.minValue } := by
  intro s p
  have hspelled : Value.WrittenAs (.int Int64.minValue)
      (Text.strip "\u2003-9223372036854775808\u00a0".toList) :=
    .int (Decimal.spells_ofInt Int64.minValue.toInt)
  have hp : s.get? "count" = some p := rfl
  obtain ⟨-, hwritten, -⟩ := write_text hp (by decide) "\u2003-9223372036854775808\u00a0"
  obtain ⟨s', hs', hupdated⟩ := hwritten _ rfl hspelled
  exact ⟨hp, by decide, s', hs', hupdated.written⟩

end ParameterSet

end MotionWatch
