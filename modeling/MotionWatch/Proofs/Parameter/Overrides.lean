import MotionWatch.Proofs.Parameter.Administration

/-!
# Overrides

Overrides are written one after the other. The first one that is refused ends this, and those
before it stay written: a batch is no transaction. Who needs one has to drop the set, as is done
where a configuration is built.

* `Value.HeldAs`: what a parameter holds when a value was written.
* `Takes`, `set_eq_error_iff`: which values a set takes, and why it refuses the others.
* `lastFor?`, `Overridden`: what overrides leave. `Overridden.cons`: with one more before them.
* `applyOverrides_split`: the overrides before the first refused one are written, and no others.
* `overridden_applyOverrides`: what a batch leaves, whether it fails or not.
-/

namespace MotionWatch

/-- What a parameter of a kind holds for a value: the value itself, or the double closest to an
integer. -/
inductive Value.HeldAs : Value → Kind → Value → Prop
  | same (v : Value) : HeldAs v v.kind v
  | widened (n : Int64) : HeldAs (.int n) .double (.double (Decimal.floatOfInt n.toInt))

theorem Value.coerce?_eq_some_iff {v w : Value} {k : Kind} :
    v.coerce? k = some w ↔ v.HeldAs k w := by
  constructor
  · intro h
    unfold coerce? at h
    split at h
    · next hk =>
      obtain rfl := Option.some.inj h
      exact hk ▸ .same v
    · split at h
      · next n _ =>
        obtain rfl := Option.some.inj h
        exact .widened n
      · cases h
  · intro h
    cases h with
    | same => exact if_pos rfl
    | widened n => rfl

namespace ParameterSet

variable {s s' : ParameterSet} {name other : String} {p : Parameter} {v w : Value}
  {e : ParameterError} {overrides : List (String × Value)}

/-! ## Values that are refused -/

/-- The kind of a parameter. -/
def kind? (s : ParameterSet) (name : String) : Option Kind := (s.get? name).map Parameter.kind

/-- A value is taken if its parameter is declared, and if it has the kind of the parameter or is
an integer for a double. -/
def Takes (s : ParameterSet) (o : String × Value) : Prop :=
  ∃ kind w, s.kind? o.1 = some kind ∧ o.2.HeldAs kind w

theorem kind?_store (hp : s.get? name = some p) :
    (s.store name p v).kind? other = s.kind? other := by
  unfold kind?
  rw [get?_store]
  split
  · next he => rw [← he, hp]; rfl
  · rfl

theorem set_eq_error_iff : s.set name v = .error e ↔
    s.kind? name = none ∧ e = .unknown name ∨
      ∃ k, s.kind? name = some k ∧ v.coerce? k = none ∧ e = .kindMismatch name k v.kind := by
  unfold set kind?
  cases s.get? name with
  | none => simp [eq_comm]
  | some p => cases hv : v.coerce? p.kind <;> simp [hv, eq_comm]

/-- Writing a value does not change what is refused. -/
theorem set_eq_error_of_store (hp : s.get? name = some p)
    (h : (s.store name p w).set other v = .error e) : s.set other v = .error e := by
  rw [set_eq_error_iff] at h ⊢
  rwa [kind?_store hp] at h

theorem not_takes_of_set (h : s.set name v = .error e) : ¬s.Takes (name, v) := by
  rintro ⟨kind, w, hkind, hw⟩
  rcases set_eq_error_iff.mp h with ⟨hnone, -⟩ | ⟨k, hk, hnone, -⟩
  · rw [hkind] at hnone
    cases hnone
  · obtain rfl := Option.some.inj (hkind.symm.trans hk)
    rw [Value.coerce?_eq_some_iff.mpr hw] at hnone
    cases hnone

/-! ## Values that are written -/

/-- The last value that is given for a name. -/
def lastFor? (overrides : List (String × Value)) (name : String) : Option Value :=
  (overrides.filter fun o => o.1 = name).getLast?.map Prod.snd

/-- Every parameter that is named holds the last value that is given for it; all others are as
before. -/
structure Overridden (overrides : List (String × Value)) (s s' : ParameterSet) : Prop where
  named : ∀ name v, lastFor? overrides name = some v → ∃ p w, s.get? name = some p ∧
    v.HeldAs p.kind w ∧ s'.get? name = some { p with value := w }
  others : ∀ name ∉ overrides.map Prod.fst, s'.get? name = s.get? name

theorem lastFor?_eq_none_iff : lastFor? overrides name = none ↔ name ∉ overrides.map Prod.fst := by
  unfold lastFor?
  rw [Option.map_eq_none_iff, List.getLast?_eq_none_iff, List.filter_eq_nil_iff]
  constructor
  · intro h hname
    obtain ⟨o, ho, rfl⟩ := List.mem_map.mp hname
    exact h o ho (decide_eq_true rfl)
  · intro h o ho hname
    exact h (List.mem_map.mpr ⟨o, ho, of_decide_eq_true hname⟩)

theorem lastFor?_cons : lastFor? ((other, v) :: overrides) name =
    (lastFor? overrides name).or (if other = name then some v else none) := by
  unfold lastFor?
  by_cases h : other = name
  · rw [List.filter_cons_of_pos (by simp [h]), List.getLast?_cons, if_pos h]
    cases (overrides.filter fun o => o.1 = name).getLast? <;> rfl
  · rw [List.filter_cons_of_neg (by simp [h]), if_neg h, Option.or_none]

theorem Overridden.nil (s : ParameterSet) : Overridden [] s s := ⟨nofun, fun _ _ => rfl⟩

/-- An override before some others counts for its parameter if none of them names it. -/
theorem Overridden.cons (hp : s.get? name = some p) (hw : v.HeldAs p.kind w)
    (h : Overridden overrides (s.store name p w) s') :
    Overridden ((name, v) :: overrides) s s' := by
  constructor
  · intro x u hlast
    rw [lastFor?_cons] at hlast
    cases hrest : lastFor? overrides x with
    | some u' =>
      rw [hrest, Option.some_or] at hlast
      obtain rfl := Option.some.inj hlast
      obtain ⟨q, w', hq, hheld, hget⟩ := h.named x u' hrest
      rw [get?_store] at hq
      split at hq
      · next hname =>
        obtain rfl := Option.some.inj hq
        exact ⟨p, w', hname ▸ hp, hheld, hget⟩
      · exact ⟨q, w', hq, hheld, hget⟩
    | none =>
      rw [hrest, Option.none_or] at hlast
      split at hlast
      · next hname =>
        obtain rfl := Option.some.inj hlast
        refine ⟨p, w, hname ▸ hp, hw, ?_⟩
        rw [h.others x (lastFor?_eq_none_iff.mp hrest), get?_store, if_pos hname]
      · cases hlast
  · intro x hx
    rw [List.map_cons, List.mem_cons, not_or] at hx
    rw [h.others x hx.2, get?_store, if_neg (Ne.symm hx.1)]

/-! ## Batches -/

/-- **The overrides before the first one that is refused are written**, and no others. -/
theorem applyOverrides_split (s : ParameterSet) (overrides : List (String × Value)) :
    ∃ before after, overrides = before ++ after ∧ (∀ o ∈ before, s.Takes o) ∧
      Overridden before s (s.applyOverrides overrides).1 ∧
      (after = [] ∧ (s.applyOverrides overrides).2 = .ok () ∨
        ∃ name v rest e, after = (name, v) :: rest ∧ s.set name v = .error e ∧
          (s.applyOverrides overrides).2 = .error e) := by
  induction overrides generalizing s with
  | nil => exact ⟨[], [], rfl, nofun, .nil s, .inl ⟨rfl, rfl⟩⟩
  | cons o overrides ih =>
    obtain ⟨name, v⟩ := o
    cases hset : s.set name v with
    | error e =>
      have happly : s.applyOverrides ((name, v) :: overrides) = (s, .error e) := by
        rw [applyOverrides, hset]
      rw [happly]
      exact ⟨[], _, rfl, nofun, .nil s, .inr ⟨name, v, overrides, e, rfl, hset, rfl⟩⟩
    | ok s₁ =>
      have happly : s.applyOverrides ((name, v) :: overrides) = s₁.applyOverrides overrides := by
        rw [applyOverrides, hset]
      obtain ⟨p, w, hp, hw, rfl⟩ := set_eq_ok_iff.mp hset
      have hheld := Value.coerce?_eq_some_iff.mp hw
      obtain ⟨before, after, hsplit, htakes, hoverridden, hend⟩ := ih (s.store name p w)
      rw [happly]
      refine ⟨(name, v) :: before, after, congrArg _ hsplit, ?_, .cons hp hheld hoverridden, ?_⟩
      · refine List.forall_mem_cons.mpr ⟨⟨p.kind, w, congrArg _ hp, hheld⟩, fun o ho => ?_⟩
        obtain ⟨kind, u, hkind, hu⟩ := htakes o ho
        exact ⟨kind, u, (kind?_store hp).symm.trans hkind, hu⟩
      · refine hend.imp_right ?_
        rintro ⟨n, u, rest, e, hafter, herror, hresult⟩
        exact ⟨n, u, rest, e, hafter, set_eq_error_of_store hp herror, hresult⟩

/-- **What a batch of overrides leaves.** If it succeeds, which it does if the set takes all of
them, every parameter that is named holds the last value that is given for it, and all others are
as before. If it fails, the same is true of the overrides before the first one that the set
refuses, and the error is that one's. -/
theorem overridden_applyOverrides (s : ParameterSet) (overrides : List (String × Value)) :
    let r := s.applyOverrides overrides
    (r.2 = .ok () ↔ ∀ o ∈ overrides, s.Takes o) ∧
    (r.2 = .ok () → Overridden overrides s r.1) ∧
    ∀ e, r.2 = .error e → ∃ before name v after, overrides = before ++ (name, v) :: after ∧
      (∀ o ∈ before, s.Takes o) ∧ s.set name v = .error e ∧ Overridden before s r.1 := by
  intro r
  obtain ⟨before, after, hsplit, htakes, hoverridden, hend⟩ := applyOverrides_split s overrides
  rcases hend with ⟨rfl, hok⟩ | ⟨name, v, rest, e, rfl, herror, hresult⟩
  · rw [List.append_nil] at hsplit
    subst hsplit
    refine ⟨iff_of_true hok htakes, fun _ => hoverridden, fun e he => ?_⟩
    rw [show r.2 = .ok () from hok] at he
    cases he
  · have hne : r.2 ≠ .ok () := by
      rw [show r.2 = .error e from hresult]
      nofun
    have hrefused : ¬∀ o ∈ overrides, s.Takes o := fun hall =>
      not_takes_of_set herror (hall _ (hsplit ▸ List.mem_append_right before List.mem_cons_self))
    refine ⟨iff_of_false hne hrefused, fun hok => absurd hok hne, fun e' he' => ?_⟩
    obtain rfl : e = e' := Except.error.inj (hresult.symm.trans he')
    exact ⟨before, name, v, rest, hsplit, htakes, herror, hoverridden⟩

/-- The first of two overrides stays written when the second one is refused. -/
theorem partly_overridden :
    let s := ParameterSet.empty.declare "count" "a count" (.int 3)
    let r := s.applyOverrides [("count", .int 7), ("missing", .int 1)]
    r.2 = .error (.unknown "missing") ∧ s.getInt "count" = .ok 3 ∧ r.1.getInt "count" = .ok 7 :=
  ⟨rfl, rfl, rfl⟩

end ParameterSet

end MotionWatch
