import Mathlib.Data.List.Nodup
import MotionWatch.Proofs.Parameter.Overrides

/-!
# Overrides in another order

Overrides that name each parameter at most once leave the same set in whatever order they are
written, if the set takes them.

* `Table.ext_get?`: tables are known by their values.
* `get?_ofList`, `ofList_eq_of_perm`: tables that are made of the same pairs in another order.
* `Holds`: what a parameter holds after overrides, said without writing them.
* `Overridden.exists_holds`: this is what they leave.
* `applyOverrides_of_perm`: they leave it in every order.
-/

namespace MotionWatch

/-! ## Tables -/

namespace Table

variable {α : Type} {t u : Table α}

theorem nodup_names (ht : t.Sorted) : t.names.Nodup :=
  List.Pairwise.imp Std.ne_of_lt ht

/-- Tables that have the same values are the same. -/
theorem ext_get? (ht : t.Sorted) (hu : u.Sorted) (h : ∀ name, t.get? name = u.get? name) :
    t = u := by
  obtain ⟨ps⟩ := t
  obtain ⟨qs⟩ := u
  have hps : ps.Pairwise fun p q => p.1 < q.1 := List.pairwise_map.mp ht
  have hqs : qs.Pairwise fun p q => p.1 < q.1 := List.pairwise_map.mp hu
  have hmem : ∀ p, p ∈ ps ↔ p ∈ qs := by
    rintro ⟨name, v⟩
    refine (mem_toList_iff ht).trans (Iff.trans ?_ (mem_toList_iff hu).symm)
    rw [h]
  have hperm : ps.Perm qs :=
    (List.perm_ext_iff_of_nodup (List.Nodup.of_map Prod.fst (nodup_names ht))
      (List.Nodup.of_map Prod.fst (nodup_names hu))).mpr hmem
  exact congrArg Table.mk
    (hperm.eq_of_pairwise (fun _ _ _ _ hlt hgt => absurd hgt (String.lt_asymm hlt)) hps hqs)

theorem ofList_concat (ps : List (String × α)) (p : String × α) :
    ofList (ps ++ [p]) = (ofList ps).insert p.1 p.2 :=
  List.foldl_append ..

theorem sorted_ofList (ps : List (String × α)) : (ofList ps).Sorted := by
  induction ps using List.reverseRecOn with
  | nil => exact sorted_empty
  | append_singleton ps p ih =>
    rw [ofList_concat]
    exact sorted_insert ih p.1 p.2

end Table

namespace ParameterSet

variable {s s₁ s₂ : ParameterSet} {name : String} {v w w' : Value} {p : Parameter} {kind : Kind}
  {overrides overrides' : List (String × Value)}

/-! ## The last value of a name -/

theorem lastFor?_concat {o : String × Value} : lastFor? (overrides ++ [o]) name =
    if o.1 = name then some o.2 else lastFor? overrides name := by
  unfold lastFor?
  rw [List.filter_append]
  by_cases h : o.1 = name
  · rw [if_pos h, List.filter_cons_of_pos (by simp [h]), List.filter_nil, List.getLast?_concat]
    rfl
  · rw [if_neg h, List.filter_cons_of_neg (by simp [h]), List.filter_nil, List.append_nil]

/-- Where no name comes twice, every value is the last one. -/
theorem lastFor?_eq_some_iff (hnodup : (overrides.map Prod.fst).Nodup) :
    lastFor? overrides name = some v ↔ (name, v) ∈ overrides := by
  induction overrides with
  | nil => exact iff_of_false nofun List.not_mem_nil
  | cons o overrides ih =>
    obtain ⟨n, u⟩ := o
    obtain ⟨hfresh, hnodup⟩ := List.nodup_cons.mp hnodup
    rw [lastFor?_cons, List.mem_cons, Prod.mk.injEq, ← ih hnodup]
    by_cases hn : n = name
    · subst hn
      rw [lastFor?_eq_none_iff.mpr hfresh, Option.none_or, if_pos rfl, Option.some.injEq]
      simp [eq_comm]
    · rw [if_neg hn, Option.or_none]
      exact (or_iff_right fun h => hn h.1.symm).symm

theorem lastFor?_of_perm (hnodup : (overrides.map Prod.fst).Nodup)
    (hperm : overrides'.Perm overrides) : lastFor? overrides' name = lastFor? overrides name := by
  have hnodup' : (overrides'.map Prod.fst).Nodup := (hperm.map Prod.fst).nodup_iff.mpr hnodup
  refine Option.ext fun v => ?_
  rw [lastFor?_eq_some_iff hnodup', lastFor?_eq_some_iff hnodup, hperm.mem_iff]

/-- A table has the last value of each name. -/
theorem get?_ofList (overrides : List (String × Value)) :
    (Table.ofList overrides).get? name = lastFor? overrides name := by
  induction overrides using List.reverseRecOn with
  | nil => rfl
  | append_singleton overrides o ih =>
    rw [Table.ofList_concat, Table.get?_insert, lastFor?_concat, ih]

/-- **A table does not depend on the order of the pairs that it is made of.** -/
theorem ofList_eq_of_perm {t : Table Value} (ht : t.Sorted) (hperm : overrides.Perm t.toList) :
    Table.ofList overrides = t := by
  have hnodup : (t.toList.map Prod.fst).Nodup := Table.nodup_names ht
  refine Table.ext_get? (Table.sorted_ofList overrides) ht fun name => ?_
  refine Option.ext fun v => ?_
  rw [get?_ofList, lastFor?_of_perm hnodup hperm, lastFor?_eq_some_iff hnodup,
    Table.mem_toList_iff ht]

/-! ## Values after overrides -/

/-- What a parameter holds after overrides: the value that is given for it, or its own if there is
none. -/
inductive Holds (s : ParameterSet) (overrides : List (String × Value)) (name : String) :
    Value → Prop
  | override {p : Parameter} {v w : Value} (declared : s.get? name = some p)
    (named : (name, v) ∈ overrides) (held : v.HeldAs p.kind w) : Holds s overrides name w
  | default {p : Parameter} (declared : s.get? name = some p)
    (unnamed : name ∉ overrides.map Prod.fst) : Holds s overrides name p.value

theorem heldAs_unique (h : v.HeldAs kind w) (h' : v.HeldAs kind w') : w = w' :=
  Option.some.inj
    ((Value.coerce?_eq_some_iff.mpr h).symm.trans (Value.coerce?_eq_some_iff.mpr h'))

/-- **What overrides leave in a parameter.** -/
theorem Overridden.exists_holds (h : Overridden overrides s s₁)
    (hnodup : (overrides.map Prod.fst).Nodup) (hp : s.get? name = some p) :
    ∃ w, s.Holds overrides name w ∧ s₁.get? name = some { p with value := w } := by
  cases hlast : lastFor? overrides name with
  | none =>
    have hname := lastFor?_eq_none_iff.mp hlast
    exact ⟨p.value, .default hp hname, (h.others name hname).trans hp⟩
  | some v =>
    obtain ⟨q, w, hq, hheld, hget⟩ := h.named name v hlast
    obtain rfl : q = p := Option.some.inj (hq.symm.trans hp)
    exact ⟨w, .override hp ((lastFor?_eq_some_iff hnodup).mp hlast) hheld, hget⟩

/-- A parameter holds one value. -/
theorem Holds.unique (hnodup : (overrides.map Prod.fst).Nodup) (h : s.Holds overrides name w)
    (h' : s.Holds overrides name w') : w = w' := by
  have hfirst {v : Value} (hv : (name, v) ∈ overrides) : name ∈ overrides.map Prod.fst :=
    List.mem_map_of_mem hv
  cases h with
  | @override p v _ hp hv hheld =>
    cases h' with
    | @override p' v' _ hp' hv' hheld' =>
      obtain rfl : p = p' := Option.some.inj (hp.symm.trans hp')
      have hlast := (lastFor?_eq_some_iff hnodup).mpr hv
      rw [(lastFor?_eq_some_iff hnodup).mpr hv'] at hlast
      obtain rfl := Option.some.inj hlast
      exact heldAs_unique hheld hheld'
    | default hp' hname => exact absurd (hfirst hv) hname
  | @default p hp hname =>
    cases h' with
    | override hp' hv' hheld' => exact absurd (hfirst hv') hname
    | @default p' hp' hname' => rw [Option.some.inj (hp.symm.trans hp')]

/-! ## Another order -/

theorem Overridden.get?_eq (h₁ : Overridden overrides s s₁) (h₂ : Overridden overrides' s s₂)
    (hlast : ∀ name, lastFor? overrides' name = lastFor? overrides name) (name : String) :
    s₂.get? name = s₁.get? name := by
  cases hv : lastFor? overrides name with
  | none =>
    rw [h₁.others name (lastFor?_eq_none_iff.mp hv),
      h₂.others name (lastFor?_eq_none_iff.mp ((hlast name).trans hv))]
  | some v =>
    obtain ⟨p, w, hp, hheld, hget⟩ := h₁.named name v hv
    obtain ⟨p', w', hp', hheld', hget'⟩ := h₂.named name v ((hlast name).trans hv)
    obtain rfl : p' = p := Option.some.inj (hp'.symm.trans hp)
    rw [hget, hget', heldAs_unique hheld' hheld]

/-- **Overrides that are taken leave the same in every order.** -/
theorem applyOverrides_of_perm (hs : s.Sound) (hnodup : (overrides.map Prod.fst).Nodup)
    (hperm : overrides'.Perm overrides) (hok : (s.applyOverrides overrides).2 = .ok ()) :
    s.applyOverrides overrides' = s.applyOverrides overrides := by
  obtain ⟨htakes, hleft, -⟩ := overridden_applyOverrides s overrides
  obtain ⟨htakes', hleft', -⟩ := overridden_applyOverrides s overrides'
  have hok' : (s.applyOverrides overrides').2 = .ok () :=
    htakes'.mpr fun o ho => htakes.mp hok o (hperm.mem_iff.mp ho)
  have hget := (hleft hok).get?_eq (hleft' hok') fun _ => lastFor?_of_perm hnodup hperm
  have htable : (s.applyOverrides overrides').1.table = (s.applyOverrides overrides).1.table :=
    Table.ext_get? ((stores_applyOverrides overrides').sound hs).sorted
      ((stores_applyOverrides overrides).sound hs).sorted hget
  refine Prod.ext ?_ (hok'.trans hok.symm)
  exact congrArg ParameterSet.mk htable

end ParameterSet

end MotionWatch
