import Mathlib.Data.List.TakeWhile
import MotionWatch.Decimal.Layout
import MotionWatch.Decimal.Number
import MotionWatch.Proofs.Decimal.Integer
import MotionWatch.Proofs.Decimal.Shortest

/-!
# Numbers read back

A number that is written in plain notation is read as the same number.

* `readNumeral_whole`, `readNumeral_point`: digits, without a point or with one.
* `exists_readNumeral_placePoint`: where the point is put makes no difference to the number.
* `exists_readBinary_plain`: the text of a number is read as that number.
* `readFloat_plainFloat`: this is the case for all doubles.
-/

namespace MotionWatch.Decimal

variable {cs ds whole fraction : List Char} {c : Char}

/-! ## Digits and points -/

theorem isDigit_eq (c : Char) : isDigit c = c.isDigit := by
  rw [Bool.eq_iff_iff, isDigit, Option.isSome_iff_exists]
  simp only [digit?_eq_some_iff]
  exact ⟨fun ⟨_, h, _⟩ => h, fun h => ⟨_, h, rfl⟩⟩

theorem ofDigits_eq (h : ∀ c ∈ cs, c.isDigit = true) :
    ofDigits cs = Nat.ofDigitChars 10 cs 0 := by
  rw [ofDigits, Nat.ofDigitChars_eq_foldl]
  refine List.foldl_ext _ _ _ fun n c hc => ?_
  rw [digit?_eq_some_iff.mpr ⟨h c hc, rfl⟩, Option.getD_some]

theorem readNumeral_whole (h : IsDigits cs) :
    readNumeral cs = some (Nat.ofDigitChars 10 cs 0, 0) := by
  have hdigits : ∀ c ∈ cs, isDigit c = true := fun c hc => isDigit_eq c ▸ h.digits c hc
  unfold readNumeral
  rw [List.takeWhile_eq_self_iff.mpr hdigits, List.dropWhile_eq_nil_iff.mpr hdigits]
  dsimp only
  rw [List.append_nil, ofDigits_eq h.digits, List.isEmpty_eq_false_iff.mpr h.ne_nil]
  rfl

theorem readNumeral_point (hwhole : IsDigits whole) (hfraction : ∀ c ∈ fraction, c.isDigit = true) :
    readNumeral (whole ++ '.' :: fraction) =
      some (Nat.ofDigitChars 10 (whole ++ fraction) 0, -(fraction.length : ℤ)) := by
  have hleft : ∀ c ∈ whole, isDigit c = true := fun c hc => isDigit_eq c ▸ hwhole.digits c hc
  have hright : ∀ c ∈ fraction, isDigit c = true := fun c hc => isDigit_eq c ▸ hfraction c hc
  have hpoint : List.takeWhile isDigit ('.' :: fraction) = [] := rfl
  have hrest : List.dropWhile isDigit ('.' :: fraction) = '.' :: fraction := rfl
  have hall : ∀ c ∈ whole ++ fraction, c.isDigit = true := fun c hc =>
    (List.mem_append.mp hc).elim (hwhole.digits c) (hfraction c)
  unfold readNumeral
  rw [List.takeWhile_append_of_pos hleft, List.dropWhile_append_of_pos hleft, hpoint, hrest,
    List.append_nil]
  show (if whole.isEmpty && (fraction.takeWhile isDigit).isEmpty then none
    else (readExponent (fraction.dropWhile isDigit)).map fun e =>
      (ofDigits (whole ++ fraction.takeWhile isDigit),
        e - ((fraction.takeWhile isDigit).length : ℤ))) = _
  rw [List.takeWhile_eq_self_iff.mpr hright, List.dropWhile_eq_nil_iff.mpr hright,
    ofDigits_eq hall, List.isEmpty_eq_false_iff.mpr hwhole.ne_nil, ← zero_sub]
  rfl

/-- **Where the point is put makes no difference to the number.** -/
theorem exists_readNumeral_placePoint (h : IsDigits ds) (point : ℤ) : ∃ digits exponent,
    readNumeral (placePoint ds point) = some (digits, exponent) ∧
      (digits : ℚ) * 10 ^ exponent = Nat.ofDigitChars 10 ds 0 * 10 ^ (point - ds.length) := by
  have hzero (n : ℕ) : ∀ c ∈ List.replicate n '0', c.isDigit = true := fun c hc => by
    rw [List.eq_of_mem_replicate hc]
    rfl
  have hlength : 0 < ds.length := List.length_pos_of_ne_nil h.ne_nil
  unfold placePoint
  split
  · next hle =>
    have hfraction : ∀ c ∈ List.replicate (-point).toNat '0' ++ ds, c.isDigit = true := fun c hc =>
      (List.mem_append.mp hc).elim (hzero _ c) (h.digits c)
    have hwhole : IsDigits ['0'] :=
      ⟨List.cons_ne_nil _ _, fun c hc => List.mem_singleton.mp hc ▸ rfl⟩
    refine ⟨_, _, readNumeral_point hwhole hfraction, ?_⟩
    rw [← List.append_assoc, List.length_append, List.length_replicate, Nat.ofDigitChars_append]
    have hvalue : Nat.ofDigitChars 10 (['0'] ++ List.replicate (-point).toNat '0') 0 = 0 := by
      rw [Nat.ofDigitChars_append, Nat.ofDigitChars_replicate_zero]
      rfl
    rw [hvalue]
    congr 2
    omega
  · next hpos =>
    split
    · next hlong =>
      have hall : IsDigits (ds ++ List.replicate (point.toNat - ds.length) '0') :=
        ⟨List.append_ne_nil_of_left_ne_nil h.ne_nil _, fun c hc =>
          (List.mem_append.mp hc).elim (h.digits c) (hzero _ c)⟩
      refine ⟨_, _, readNumeral_whole hall, ?_⟩
      rw [Nat.ofDigitChars_append, Nat.ofDigitChars_replicate_zero, zpow_zero, mul_one,
        show point - ds.length = (point.toNat - ds.length : ℕ) by omega, zpow_natCast]
      push_cast
      ring
    · next hshort =>
      have hwhole : IsDigits (ds.take point.toNat) :=
        ⟨List.ne_nil_of_length_pos (by rw [List.length_take]; omega), fun c hc =>
          h.digits c (List.mem_of_mem_take hc)⟩
      refine ⟨_, _, readNumeral_point hwhole fun c hc => h.digits c (List.mem_of_mem_drop hc), ?_⟩
      rw [List.take_append_drop, List.length_drop]
      congr 2
      omega

theorem exists_readNumeral_positional (n : Numeral) : ∃ digits exponent,
    readNumeral n.positional = some (digits, exponent) ∧
      (digits : ℚ) * 10 ^ exponent = n.value := by
  unfold Numeral.positional
  split
  · next hzero =>
    refine ⟨0, 0, rfl, ?_⟩
    rw [Numeral.value, hzero, Nat.cast_zero, zero_mul, zero_mul]
  · obtain ⟨digits, exponent, hread, hvalue⟩ := exists_readNumeral_placePoint
      (isDigits_ofNat n.digits) ((ofNat n.digits).length + n.exponent)
    refine ⟨digits, exponent, hread, hvalue.trans ?_⟩
    rw [Numeral.value, ofNat, Nat.ofDigitChars_ten_toDigits, add_sub_cancel_left]

/-- What is read of a number is read behind its sign. -/
theorem readBinary_signText (f : BinaryFormat) (negative : Bool) {digits : ℕ} {exponent : ℤ}
    (h : readNumeral cs = some (digits, exponent)) :
    readBinary f (signText negative ++ cs) = .ok (nearestDecimal f negative digits exponent) := by
  have hunsigned :
      readUnsigned f negative cs = .ok (nearestDecimal f negative digits exponent) := by
    rw [readUnsigned, h]
  cases negative with
  | true => exact hunsigned
  | false =>
    rw [← hunsigned]
    show readBinary f cs = _
    unfold readBinary
    split
    · cases h
    · cases h
    · cases h
    · rfl

/-! ## Texts of numbers -/

variable {f : BinaryFormat} {m : ℕ} {e : ℤ}

/-- **The text of a number is read as that number**, up to a mantissa that is one bit too long. -/
theorem exists_readBinary_plain (hf : f.Balanced) (h : f.Canonical m e)
    (hgreatest : e + f.precision ≤ f.reach) (negative : Bool) :
    ∃ b, readBinary f (plain f (.finite negative m e)).toList = .ok b ∧
      b.encode f = (Binary.finite negative m e).encode f := by
  obtain ⟨digits, exponent, hread, hvalue⟩ :=
    exists_readNumeral_positional (shortest f m e)
  refine ⟨nearestDecimal f negative digits exponent, ?_, ?_⟩
  · unfold plain layout
    rw [String.toList_ofList]
    exact readBinary_signText f negative hread
  · rcases Nat.eq_zero_or_pos m with rfl | hm
    · have hzero : readNumeral (shortest f 0 e).positional = some (0, 0) := rfl
      rw [hzero] at hread
      cases hread
      have hpos := Nat.two_pow_pos (f.precision - 1)
      have hle := hf.two_pow_precision
      rw [show nearestDecimal f negative 0 0 = .finite negative 0 f.minExponent from rfl,
        Binary.encode_finite (by omega), Binary.encode_finite (by omega), if_pos hpos, if_pos hpos]
    · refine encode_nearestDecimal hf h hm hgreatest ?_
      rw [hvalue]
      exact contains_shortest hf h hm hgreatest

theorem readBinary_plain_infinite (f : BinaryFormat) (negative : Bool) :
    readBinary f (plain f (.infinite negative)).toList = .ok (.infinite negative) := by
  have hword : readUnsigned f negative ['i', 'n', 'f'] = .ok (.infinite negative) := by
    have hnone : readNumeral ['i', 'n', 'f'] = none := rfl
    rw [readUnsigned, hnone]
    exact if_pos (.inl rfl)
  unfold plain layout
  rw [String.toList_ofList]
  cases negative with
  | true => exact hword
  | false => exact hword

theorem mem_placePoint {point : ℤ} (hc : c ∈ placePoint ds point) :
    c ∈ ds ∨ c = '0' ∨ c = '.' := by
  unfold placePoint at hc
  split at hc
  · simp only [List.mem_cons, List.mem_append, List.mem_replicate] at hc
    tauto
  · split at hc
    · simp only [List.mem_append, List.mem_replicate] at hc
      tauto
    · simp only [List.mem_append, List.mem_cons] at hc
      exact hc.elim (fun h => .inl (List.mem_of_mem_take h)) fun h =>
        h.elim (fun h => .inr (.inr h)) fun h => .inl (List.mem_of_mem_drop h)

theorem isBlank_of_mem_positional {n : Numeral} (hc : c ∈ n.positional) :
    Text.isBlank c = false := by
  unfold Numeral.positional at hc
  split at hc
  · obtain rfl := List.mem_singleton.mp hc
    rfl
  · obtain hdigit | rfl | rfl := mem_placePoint hc
    · exact isBlank_of_isDigit ((isDigits_ofNat n.digits).digits c hdigit)
    · rfl
    · rfl

/-- The text of a number has no blanks. -/
theorem isBlank_of_mem_plain {b : Binary} (hc : c ∈ (plain f b).toList) :
    Text.isBlank c = false := by
  have hword (word : List Char) (h : word.all fun c => !Text.isBlank c) (hc : c ∈ word) :
      Text.isBlank c = false := Bool.not_eq_true' _ ▸ List.all_eq_true.mp h c hc
  have hsign {negative : Bool} (hc : c ∈ signText negative) : Text.isBlank c = false := by
    cases negative with
    | true => exact hword _ rfl hc
    | false => cases hc
  cases b with
  | nan => exact hword "NaN".toList rfl hc
  | infinite negative =>
    unfold plain layout at hc
    rw [String.toList_ofList] at hc
    exact (List.mem_append.mp hc).elim hsign (hword _ rfl)
  | finite negative m e =>
    unfold plain layout at hc
    rw [String.toList_ofList] at hc
    exact (List.mem_append.mp hc).elim hsign isBlank_of_mem_positional

/-- **The text of a double is read as that double**, unless it is no number. -/
theorem readFloat_plainFloat {x : Float} (h : x.isNaN = false) :
    readFloat (plainFloat x).toList = .ok x := by
  have hx := toFloat_ofFloat h
  unfold readFloat plainFloat
  cases hb : ofFloat x with
  | nan =>
    rw [ofFloat_eq_nan_iff, h] at hb
    cases hb
  | infinite negative =>
    rw [readBinary_plain_infinite, ← hx, hb]
    rfl
  | finite negative m e =>
    obtain ⟨hcanonical, hgreatest⟩ := canonical_ofFloat hb
    obtain ⟨b, hread, hencode⟩ := exists_readBinary_plain BinaryFormat.balanced_binary64 hcanonical
      hgreatest negative
    rw [hread, ← hx, hb]
    show Except.ok (toFloat b) = .ok (toFloat _)
    rw [toFloat, hencode]
    rfl

end MotionWatch.Decimal
