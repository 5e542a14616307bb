import MotionWatch.Config.Trigger
import MotionWatch.Proofs.Despeckle.Letters
import MotionWatch.Proofs.Except
import MotionWatch.Proofs.Parameter.Order

/-!
# Configured parameters

A configuration overrides parameters of a motion trigger. It is accepted if the overrides are taken
and if the rate and the despeckle filter that result make sense.

* `eq_zero_of_unpack`, `float_beq_zero_iff`: there are two zeros.
* `TriggerConfig.Gives`: what a configuration gives to a parameter.
* `TriggerConfig.Admissible`: the configurations that make sense.
* `buildParameters_of_error`, `buildParameters_of_ok`: the checks, one after the other.
* `configured_parameters`: what is built from a configuration, and from which ones.
-/

namespace MotionWatch

/-! ## Zero -/

section Zero

open Float.Model.UnpackedFloat
open Float.Model (Format UnpackedFloat)

/-- The mantissa and the exponent of a zero have no bits. -/
theorem fields_of_unpack {b : BitVec Format.binary64.numBits} {sign : Sign}
    (h : unpack Format.binary64 b = .zero sign) :
    unpackMantissa b = 0#52 ∧ unpackExponent b = 0#11 := by
  unfold unpack at h
  dsimp only at h
  by_cases hones : unpackExponent b = -1#11
  · rw [if_pos hones] at h
    split at h <;> cases h
  · rw [if_neg hones] at h
    by_cases hexponent : unpackExponent b = 0#11
    · rw [if_pos hexponent] at h
      by_cases hmantissa : unpackMantissa b = 0#52
      · exact ⟨hmantissa, hexponent⟩
      · rw [dif_neg hmantissa] at h
        cases h
    · rw [if_neg hexponent] at h
      cases h

theorem eq_zero_of_unpack {x : Float} {sign : Sign} (h : x.toModel.unpack = .zero sign) :
    x = 0.0 ∨ x = -0.0 := by
  obtain ⟨⟨bits, hvalid⟩⟩ := x
  obtain ⟨hmantissa, hexponent⟩ := fields_of_unpack h
  have hbits : bits = 0 ∨ bits = 0x8000000000000000 := by
    have hlow : bits.toNat % 2 ^ 52 = 0 := by
      simpa [unpackMantissa] using congrArg BitVec.toNat hmantissa
    have hmiddle : bits.toNat / 2 ^ 52 % 2 ^ 11 = 0 := by
      simpa [unpackExponent, Nat.shiftRight_eq_div_pow] using congrArg BitVec.toNat hexponent
    have hlt := bits.toNat_lt
    simp only [← UInt64.toNat_inj, UInt64.toNat_ofNat]
    omega
  exact hbits.imp (fun h => by subst h; rfl) fun h => by subst h; rfl

/-- The numbers that are equal to zero are the two zeros. -/
theorem float_beq_zero_iff {x : Float} : (x == 0.0) = true ↔ x = 0.0 ∨ x = -0.0 := by
  constructor
  · intro h
    change (x.toModel.unpack.compare (.zero .positive) == some .eq) = true at h
    cases hx : x.toModel.unpack with
    | notANumber => rw [hx] at h; cases h
    | infinity sign => rw [hx] at h; cases sign <;> cases h
    | zero sign => exact eq_zero_of_unpack hx
    | finite sign m e hm => rw [hx] at h; cases sign <;> cases h
  · rintro (rfl | rfl) <;> rfl

end Zero

/-! ## Typed reads -/

namespace ParameterSet

variable {s : ParameterSet} {name : String}

theorem getDouble_eq_ok_iff {x : Float} :
    s.getDouble name = .ok x ↔ ∃ p, s.get? name = some p ∧ p.value = .double x := by
  unfold getDouble read
  cases s.get? name with
  | none => exact iff_of_false nofun nofun
  | some p => cases hv : p.value <;> simp [ok_bind, hv]

theorem getString_eq_ok_iff {t : String} :
    s.getString name = .ok t ↔ ∃ p, s.get? name = some p ∧ p.value = .string t := by
  unfold getString read
  cases s.get? name with
  | none => exact iff_of_false nofun nofun
  | some p => cases hv : p.value <;> simp [ok_bind, hv]

end ParameterSet

theorem validatePattern_eq_ok_iff {pattern : String} :
    validatePattern pattern = .ok () ↔ ∀ c ∈ pattern.toList, c ∈ ['d', 'e', 'D', 'E'] := by
  have hknown (c : Char) : ¬(Pass.ofChar? c).isNone = true ↔ c ∈ ['d', 'e', 'D', 'E'] := by
    rw [Option.isNone_iff_eq_none, Pass.ofChar?_eq_none_iff, not_not]
  unfold validatePattern
  simp only [← hknown, ← List.find?_eq_none]
  split
  · next c h => simp [h]
  · next h => simp [h]

/-! ## Configurations -/

namespace TriggerConfig

variable {c : TriggerConfig} {params : ParameterSet} {x : Float} {t : String}

/-- What a configuration gives to a parameter. -/
def Gives (c : TriggerConfig) (name : String) (w : Value) : Prop :=
  motionDefaults.Holds c.parameters.toList name w

/-- A configuration makes sense: its overrides are taken, the rate is not zero, and all letters of
the despeckle filter are known. -/
structure Admissible (c : TriggerConfig) : Prop where
  taken : ∀ o ∈ c.parameters.toList, motionDefaults.Takes o
  rate : ∀ x, c.Gives ParameterName.maxFps (.double x) → x ≠ 0.0 ∧ x ≠ -0.0
  filter : ∀ t, c.Gives ParameterName.despeckleFilter (.string t) →
    ∀ letter ∈ t.toList, letter ∈ ['d', 'e', 'D', 'E']

theorem buildParameters_of_error {e : ParameterError}
    (h : (motionDefaults.applyOverrides c.parameters.toList).2 = .error e) :
    c.buildParameters = .error (.parameters c.id e) := by
  obtain ⟨params, hparams⟩ : ∃ params,
      motionDefaults.applyOverrides c.parameters.toList = (params, .error e) := ⟨_, Prod.ext rfl h⟩
  unfold buildParameters
  rw [hparams]
  rfl

/-- The checks of the rate and of the filter. -/
theorem buildParameters_of_ok
    (h : motionDefaults.applyOverrides c.parameters.toList = (params, .ok ()))
    (hrate : params.getDouble ParameterName.maxFps = .ok x)
    (hfilter : params.getString ParameterName.despeckleFilter = .ok t) :
    c.buildParameters = if x == 0.0 then .error (.zeroRate c.id) else
      ((validatePattern t).mapError (.pattern c.id)).map fun _ => params := by
  unfold buildParameters
  rw [h]
  simp only [ok_bind, hrate, hfilter, mapError_ok]
  split
  · rfl
  · cases validatePattern t <;> rfl

/-! ## What is built -/

theorem exists_gives (hnodup : c.parameters.names.Nodup)
    (h : motionDefaults.applyOverrides c.parameters.toList = (params, .ok ())) (name : String)
    {p : Parameter} (hp : motionDefaults.get? name = some p) :
    ∃ w, c.Gives name w ∧ params.get? name = some { p with value := w } := by
  have hleft := (ParameterSet.overridden_applyOverrides motionDefaults c.parameters.toList).2.1
  rw [h] at hleft
  exact (hleft rfl).exists_holds hnodup hp

theorem sound_of_applyOverrides
    (h : motionDefaults.applyOverrides c.parameters.toList = (params, .ok ())) : params.Sound := by
  have hstores := ParameterSet.stores_applyOverrides (s := motionDefaults) c.parameters.toList
  rw [h] at hstores
  exact hstores.sound sound_motionDefaults

/-- The rate is what the configuration gives to it. -/
theorem exists_rate (hnodup : c.parameters.names.Nodup)
    (h : motionDefaults.applyOverrides c.parameters.toList = (params, .ok ())) :
    ∃ x, params.getDouble ParameterName.maxFps = .ok x ∧
      c.Gives ParameterName.maxFps (.double x) := by
  obtain ⟨w, hgives, hget⟩ := exists_gives hnodup h ParameterName.maxFps rfl
  obtain ⟨x, hread⟩ := (sound_of_applyOverrides h).reads hget
  obtain ⟨q, hq, hx⟩ := ParameterSet.getDouble_eq_ok_iff.mp hread
  obtain rfl := Option.some.inj (hget.symm.trans hq)
  exact ⟨x, hread, hx ▸ hgives⟩

/-- The despeckle filter is what the configuration gives to it. -/
theorem exists_filter (hnodup : c.parameters.names.Nodup)
    (h : motionDefaults.applyOverrides c.parameters.toList = (params, .ok ())) :
    ∃ t, params.getString ParameterName.despeckleFilter = .ok t ∧
      c.Gives ParameterName.despeckleFilter (.string t) := by
  obtain ⟨w, hgives, hget⟩ := exists_gives hnodup h ParameterName.despeckleFilter rfl
  obtain ⟨t, hread⟩ := (sound_of_applyOverrides h).reads hget
  obtain ⟨q, hq, ht⟩ := ParameterSet.getString_eq_ok_iff.mp hread
  obtain rfl := Option.some.inj (hget.symm.trans hq)
  exact ⟨t, hread, ht ▸ hgives⟩

/-- **The configurations that are accepted are those that make sense.** -/
theorem buildParameters_eq_ok_iff (hnodup : c.parameters.names.Nodup) :
    c.buildParameters = .ok params ↔
      c.Admissible ∧ motionDefaults.applyOverrides c.parameters.toList = (params, .ok ()) := by
  obtain ⟨htakes, -, -⟩ := ParameterSet.overridden_applyOverrides motionDefaults c.parameters.toList
  cases hend : (motionDefaults.applyOverrides c.parameters.toList).2 with
  | error e =>
    rw [buildParameters_of_error hend]
    refine iff_of_false nofun ?_
    rintro ⟨-, hok⟩
    rw [hok] at hend
    cases hend
  | ok u =>
    obtain ⟨left, hleft⟩ : ∃ left,
        motionDefaults.applyOverrides c.parameters.toList = (left, .ok ()) := ⟨_, Prod.ext rfl hend⟩
    obtain ⟨x, hrate, hx⟩ := exists_rate hnodup hleft
    obtain ⟨t, hfilter, ht⟩ := exists_filter hnodup hleft
    have hadmissible : c.Admissible ↔
        ¬(x = 0.0 ∨ x = -0.0) ∧ ∀ letter ∈ t.toList, letter ∈ ['d', 'e', 'D', 'E'] := by
      rw [not_or]
      constructor
      · exact fun h => ⟨h.rate x hx, h.filter t ht⟩
      · rintro ⟨hnonzero, hletters⟩
        refine ⟨htakes.mp hend, fun x' hx' => ?_, fun t' ht' => ?_⟩
        · obtain rfl := Value.double.inj (hx.unique hnodup hx')
          exact hnonzero
        · obtain rfl := Value.string.inj (ht.unique hnodup ht')
          exact hletters
    rw [buildParameters_of_ok hleft hrate hfilter, hadmissible, ← float_beq_zero_iff,
      ← validatePattern_eq_ok_iff, hleft]
    split
    · next hzero => simp [hzero]
    · next hzero =>
      cases validatePattern t with
      | error e => exact iff_of_false nofun nofun
      | ok u =>
        rw [mapError_ok]
        simp [Except.map, hzero]

/-- In another order the result is the same, but another one of several overrides may be found to
be refused. -/
theorem buildParameters_of_perm (hnodup : c.parameters.names.Nodup)
    {overrides : List (String × Value)} (hperm : overrides.Perm c.parameters.toList) :
    { c with parameters := ⟨overrides⟩ }.buildParameters = c.buildParameters ∨
      ∃ e e', c.buildParameters = .error (.parameters c.id e) ∧
        { c with parameters := ⟨overrides⟩ }.buildParameters = .error (.parameters c.id e') := by
  obtain ⟨htakes, -, -⟩ := ParameterSet.overridden_applyOverrides motionDefaults c.parameters.toList
  obtain ⟨htakes', -, -⟩ := ParameterSet.overridden_applyOverrides motionDefaults overrides
  cases hend : (motionDefaults.applyOverrides c.parameters.toList).2 with
  | ok u =>
    have hsame := ParameterSet.applyOverrides_of_perm sound_motionDefaults hnodup hperm hend
    left
    unfold buildParameters
    rw [hsame]
  | error e =>
    right
    cases hend' : (motionDefaults.applyOverrides overrides).2 with
    | ok u =>
      -- An override that is refused is refused in every order.
      have hok := htakes.mpr fun o ho => htakes'.mp hend' o (hperm.mem_iff.mpr ho)
      rw [hok] at hend
      cases hend
    | error e' =>
      exact ⟨e, e', buildParameters_of_error hend,
        buildParameters_of_error (c := { c with parameters := ⟨overrides⟩ }) hend'⟩

/-- **What is built from a configuration**, whose overrides are those of a map. It is accepted if
and only if it makes sense, and then every parameter has what the configuration gives to it. The
order does not matter: neither the one in which the map is filled, nor the one in which the
overrides are written. That decides only which of several refused overrides is named. -/
theorem configured_parameters (c : TriggerConfig) (hmap : c.parameters.Sorted) :
    ((∃ params, c.buildParameters = .ok params) ↔ c.Admissible) ∧
    (∀ params, c.buildParameters = .ok params → params.shape = motionDefaults.shape ∧
      ∀ name p, motionDefaults.get? name = some p →
        ∃ w, c.Gives name w ∧ params.get? name = some { p with value := w }) ∧
    ∀ overrides, overrides.Perm c.parameters.toList →
      { c with parameters := .ofList overrides }.buildParameters = c.buildParameters ∧
      ({ c with parameters := ⟨overrides⟩ }.buildParameters = c.buildParameters ∨
        ∃ e e', c.buildParameters = .error (.parameters c.id e) ∧
          { c with parameters := ⟨overrides⟩ }.buildParameters = .error (.parameters c.id e')) := by
  have hnodup := Table.nodup_names hmap
  refine ⟨⟨?_, fun h => ?_⟩, fun params hparams => ?_, fun overrides hperm => ⟨?_, ?_⟩⟩
  · rintro ⟨params, hparams⟩
    exact ((buildParameters_eq_ok_iff hnodup).mp hparams).1
  · obtain ⟨htakes, -, -⟩ :=
      ParameterSet.overridden_applyOverrides motionDefaults c.parameters.toList
    exact ⟨_, (buildParameters_eq_ok_iff hnodup).mpr ⟨h, Prod.ext rfl (htakes.mpr h.taken)⟩⟩
  · obtain ⟨-, hleft⟩ := (buildParameters_eq_ok_iff hnodup).mp hparams
    have hstores := ParameterSet.stores_applyOverrides (s := motionDefaults) c.parameters.toList
    rw [hleft] at hstores
    exact ⟨hstores.shape_eq sound_motionDefaults,
      fun name p hp => exists_gives hnodup hleft name hp⟩
  · rw [ParameterSet.ofList_eq_of_perm hmap hperm]
  · exact buildParameters_of_perm hnodup hperm

/-- A filter with all four letters is accepted, and any rate but zero. -/
theorem configured_parameters_of_overrides :
    let overrides := [("max-fps", Value.double 12.5), ("despeckle-filter", .string "EdDe")]
    let c := { standard with parameters := .ofList overrides }
    c.parameters.Sorted ∧ c.Admissible ∧ ∃ params, c.buildParameters = .ok params ∧
      params.shape = motionDefaults.shape := by
  intro overrides c
  have hmap : c.parameters.Sorted := Table.sorted_ofList overrides
  obtain ⟨haccepted, hvalues, -⟩ := configured_parameters c hmap
  obtain ⟨params, hparams⟩ : ∃ params, c.buildParameters = .ok params := ⟨_, rfl⟩
  exact ⟨hmap, haccepted.mp ⟨params, hparams⟩, params, hparams, (hvalues params hparams).1⟩

end TriggerConfig

end MotionWatch
