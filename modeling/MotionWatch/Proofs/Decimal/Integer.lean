import Mathlib.Logic.Basic
import MotionWatch.Decimal.Integer
import MotionWatch.Text.Blank

/-!
# The grammar of integers

An integer is read digit by digit, up to the bound of the place it is stored in. Here is said
without reading which texts are integers: an optional sign and digits, as many as one likes.

* `Spells`: the texts that are integers, each with its integer.
* `magnitude_eq_ok_iff`: digits that are read up to a limit.
* `readInteger_eq_ok_iff`: what is read are the texts of the integers between the bounds.
  `readNat_le`: a natural number has one bound.
* `spells_ofInt`: the text of an integer is one of it.
-/

namespace MotionWatch.Decimal

/-- One or more decimal digits. -/
structure IsDigits (cs : List Char) : Prop where
  ne_nil : cs ≠ []
  digits : ∀ c ∈ cs, c.isDigit = true

/-- A text is an optional sign and digits, and these are the digits of an integer. -/
inductive Spells : List Char → Int → Prop
  | bare {ds : List Char} (h : IsDigits ds) : Spells ds (Nat.ofDigitChars 10 ds 0)
  | plus {ds : List Char} (h : IsDigits ds) : Spells ('+' :: ds) (Nat.ofDigitChars 10 ds 0)
  | minus {ds : List Char} (h : IsDigits ds) : Spells ('-' :: ds) (-Nat.ofDigitChars 10 ds 0)

variable {limit n v d : Nat} {lo hi i : Int} {excess : IntegerError} {c : Char} {cs : List Char}

/-! ## Digits -/

theorem digit?_eq_some_iff : digit? c = some d ↔ c.isDigit = true ∧ c.toNat - '0'.toNat = d := by
  have hdigit : ('0' ≤ c ∧ c ≤ '9') ↔ c.isDigit = true := by
    simp only [Char.isDigit, Bool.and_eq_true, decide_eq_true_eq]
    rfl
  unfold digit?
  split
  · next h => simp [hdigit.mp h]
  · next h =>
    refine iff_of_false nofun ?_
    rintro ⟨hc, -⟩
    exact h (hdigit.mpr hc)

/-- A number does not become smaller by more digits. -/
theorem le_ofDigitChars (cs : List Char) (n : Nat) : n ≤ Nat.ofDigitChars 10 cs n := by
  induction cs generalizing n with
  | nil => exact Nat.le_of_eq Nat.ofDigitChars_nil.symm
  | cons c cs ih =>
    rw [Nat.ofDigitChars_cons]
    refine Nat.le_trans ?_ (ih _)
    omega

/-- **Digits are read up to a limit**, after some that have been read. -/
theorem magnitude_eq_ok_iff (hn : n ≤ limit) : magnitude limit excess n cs = .ok v ↔
    (∀ c ∈ cs, c.isDigit = true) ∧ Nat.ofDigitChars 10 cs n = v ∧ v ≤ limit := by
  fun_induction magnitude limit excess n cs with
  | case1 n =>
    rw [Nat.ofDigitChars_nil, Except.ok.injEq]
    exact ⟨fun h => ⟨nofun, h, h ▸ hn⟩, fun h => h.2.1⟩
  | case2 n c cs hc =>
    refine iff_of_false nofun ?_
    rintro ⟨hdigits, -⟩
    have hsome := digit?_eq_some_iff.mpr ⟨hdigits c List.mem_cons_self, rfl⟩
    rw [hc] at hsome
    cases hsome
  | case3 n c cs d hd hle ih =>
    obtain ⟨hdigit, rfl⟩ := digit?_eq_some_iff.mp hd
    rw [ih hle, Nat.ofDigitChars_cons, List.forall_mem_cons, and_iff_right hdigit]
  | case4 n c cs d hd hgt =>
    -- The limit is exceeded, and the digits that follow do not change that.
    refine iff_of_false nofun ?_
    rintro ⟨-, hv, hle⟩
    obtain ⟨-, rfl⟩ := digit?_eq_some_iff.mp hd
    rw [Nat.ofDigitChars_cons] at hv
    have hmore := le_ofDigitChars cs (10 * n + (c.toNat - '0'.toNat))
    omega

theorem magnitude_zero_eq_ok_iff (hne : cs ≠ []) : magnitude limit excess 0 cs = .ok v ↔
    IsDigits cs ∧ Nat.ofDigitChars 10 cs 0 = v ∧ v ≤ limit := by
  rw [magnitude_eq_ok_iff (Nat.zero_le limit)]
  exact and_congr_left fun _ => ⟨fun h => ⟨hne, h⟩, fun h => h.digits⟩

/-! ## Signs -/

theorem not_isDigits_cons (h : c.isDigit = false) : ¬IsDigits (c :: cs) := by
  intro hdigits
  rw [hdigits.digits c List.mem_cons_self] at h
  cases h

theorem spells_plus_iff : Spells ('+' :: cs) i ↔
    IsDigits cs ∧ (Nat.ofDigitChars 10 cs 0 : Int) = i := by
  constructor
  · intro h
    cases h with
    | bare h => exact absurd h (not_isDigits_cons rfl)
    | plus h => exact ⟨h, rfl⟩
  · rintro ⟨h, rfl⟩
    exact .plus h

theorem spells_minus_iff : Spells ('-' :: cs) i ↔
    IsDigits cs ∧ -(Nat.ofDigitChars 10 cs 0 : Int) = i := by
  constructor
  · intro h
    cases h with
    | bare h => exact absurd h (not_isDigits_cons rfl)
    | minus h => exact ⟨h, rfl⟩
  · rintro ⟨h, rfl⟩
    exact .minus h

theorem spells_bare_iff (hplus : ∀ ds, cs ≠ '+' :: ds) (hminus : ∀ ds, cs ≠ '-' :: ds) :
    Spells cs i ↔ IsDigits cs ∧ (Nat.ofDigitChars 10 cs 0 : Int) = i := by
  constructor
  · intro h
    cases h with
    | bare h => exact ⟨h, rfl⟩
    | plus h => exact absurd rfl (hplus _)
    | minus h => exact absurd rfl (hminus _)
  · rintro ⟨h, rfl⟩
    exact .bare h

/-- Digits after a sign, or without one, are read if their integer is between the bounds. -/
theorem map_magnitude_eq_ok_iff {signed : Nat → Int}
    (hbounds : ∀ n, n ≤ limit ↔ lo ≤ signed n ∧ signed n ≤ hi) (hne : cs ≠ []) :
    (magnitude limit excess 0 cs).map signed = .ok i ↔
      (IsDigits cs ∧ signed (Nat.ofDigitChars 10 cs 0) = i) ∧ lo ≤ i ∧ i ≤ hi := by
  constructor
  · intro h
    cases hv : magnitude limit excess 0 cs with
    | error e => rw [hv] at h; cases h
    | ok v =>
      rw [hv] at h
      obtain rfl := Except.ok.inj h
      obtain ⟨hdigits, rfl, hle⟩ := (magnitude_zero_eq_ok_iff hne).mp hv
      exact ⟨⟨hdigits, rfl⟩, (hbounds _).mp hle⟩
  · rintro ⟨⟨hdigits, rfl⟩, hbetween⟩
    rw [(magnitude_zero_eq_ok_iff hne).mpr ⟨hdigits, rfl, (hbounds _).mpr hbetween⟩]
    rfl

/-- **What is read are the texts of the integers between the bounds.** -/
theorem readInteger_eq_ok_iff (hlo : lo < 0) (hhi : 0 ≤ hi) :
    readInteger lo hi cs = .ok i ↔ Spells cs i ∧ lo ≤ i ∧ i ≤ hi := by
  have hnone : ¬IsDigits [] := fun h => h.ne_nil rfl
  have hpositive (n : Nat) : n ≤ hi.toNat ↔ lo ≤ Int.ofNat n ∧ Int.ofNat n ≤ hi := by
    simp only [Int.ofNat_eq_natCast]
    omega
  have hnegative (n : Nat) : n ≤ (-lo).toNat ↔ lo ≤ -(n : Int) ∧ -(n : Int) ≤ hi := by omega
  fun_cases readInteger lo hi cs with
  | case1 =>
    refine iff_of_false nofun ?_
    rintro ⟨⟨h⟩, -⟩
    exact hnone h
  | case2 =>
    rw [spells_plus_iff]
    exact iff_of_false nofun fun h => hnone h.1.1
  | case3 =>
    rw [spells_minus_iff]
    exact iff_of_false nofun fun h => hnone h.1.1
  | case4 cs hne =>
    rw [spells_plus_iff]
    exact map_magnitude_eq_ok_iff hpositive hne
  | case5 cs hne _ =>
    rw [spells_minus_iff, ← map_magnitude_eq_ok_iff hnegative hne]
    cases magnitude (-lo).toNat .tooSmall 0 cs <;> rfl
  | case6 cs hne hnot => exact absurd hlo hnot
  | case7 cs hne _ _ hplus hminus =>
    rw [spells_bare_iff hplus hminus]
    exact map_magnitude_eq_ok_iff hpositive hne

/-- A number that is read is within its bound. -/
theorem readNat_le {bound : Nat} (h : readNat bound cs = .ok n) : n ≤ bound := by
  have hdigits (cs : List Char) {n : Nat}
      (h : ((magnitude (bound : Int).toNat .tooLarge 0 cs).map Int.ofNat).map Int.toNat = .ok n) :
      n ≤ bound := by
    cases hv : magnitude (bound : Int).toNat .tooLarge 0 cs with
    | error => rw [hv] at h; cases h
    | ok v =>
      rw [hv] at h
      cases h
      exact ((magnitude_eq_ok_iff (Nat.zero_le _)).mp hv).2.2
  revert h
  unfold readNat
  fun_cases readInteger 0 bound cs with
  | case1 => exact nofun
  | case2 => exact nofun
  | case3 => exact nofun
  | case4 cs => exact hdigits cs
  | case5 _ _ hlt => cases hlt
  | case6 => exact nofun
  | case7 => exact hdigits _

/-! ## Texts of integers -/

theorem isDigits_ofNat (n : Nat) : IsDigits (ofNat n) :=
  ⟨List.ne_nil_of_length_pos Nat.length_toDigits_pos,
    fun _ hc => Nat.isDigit_of_mem_toDigits (by decide) (by decide) hc⟩

/-- **The text of an integer is one of it.** -/
theorem spells_ofInt (i : Int) : Spells (ofInt i) i := by
  have hvalue (n : Nat) : Nat.ofDigitChars 10 (ofNat n) 0 = n :=
    Nat.ofDigitChars_toDigits (by decide) (by decide)
  cases i with
  | ofNat n =>
    have h := Spells.bare (isDigits_ofNat n)
    rwa [hvalue] at h
  | negSucc n =>
    have h := Spells.minus (isDigits_ofNat (n + 1))
    rwa [hvalue] at h

/-- A digit is no blank. -/
theorem isBlank_of_isDigit (h : c.isDigit = true) : Text.isBlank c = false := by
  have hbetween : 0x30 ≤ c.toNat ∧ c.toNat ≤ 0x39 := Char.isDigit_iff_toNat.mp h
  simp [Text.isBlank]
  omega

/-- The text of an integer has no blanks. -/
theorem isBlank_of_mem_ofInt (h : c ∈ ofInt i) : Text.isBlank c = false := by
  have hdigit {n : Nat} (hc : c ∈ ofNat n) : Text.isBlank c = false :=
    isBlank_of_isDigit ((isDigits_ofNat n).digits c hc)
  cases i with
  | ofNat n => exact hdigit h
  | negSucc n =>
    obtain rfl | hc := List.mem_cons.mp h
    · rfl
    · exact hdigit hc

end MotionWatch.Decimal
