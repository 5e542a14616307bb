import Mathlib.Data.List.Induction
import MotionWatch.Parameter.Presets
import MotionWatch.Proofs.Parameter.Set

/-!
# Administration of parameters

A set is built by declarations, and from then on it is only written. Writes change values; the
names, the descriptions and the kinds are those of the declarations for good.

* `Declaration`, `ofDeclarations`: how a set is built.
* `Write`, `write`, `writeAll`: what an administrator does with it.
* `shape`: what a set shows of itself apart from the values. `Sound`: what every set is like.
* `Stores`: every write stores some values of the right kinds, one after the other.
* `administered`: what every set is like after any declarations and writes.
-/

namespace MotionWatch

/-! ## Tables -/

namespace Table

variable {α β : Type} {name : String} {v w : α}

theorem mem_names_of_lookup {ps : List (String × α)} (h : lookup name ps = some v) :
    name ∈ ps.map Prod.fst := by
  induction ps with
  | nil => cases h
  | cons p ps ih =>
    obtain ⟨n, x⟩ := p
    unfold lookup at h
    split at h
    · next hn => exact List.mem_cons.mpr (.inl hn.symm)
    · exact List.mem_cons_of_mem n (ih h)

/-- A pair is in a table if its value is the one of its name. -/
theorem mem_toList_iff {t : Table α} (hs : t.Sorted) :
    (name, v) ∈ t.toList ↔ t.get? name = some v := by
  obtain ⟨ps⟩ := t
  show (name, v) ∈ ps ↔ lookup name ps = some v
  change (ps.map Prod.fst).Pairwise (· < ·) at hs
  induction ps with
  | nil => exact iff_of_false List.not_mem_nil nofun
  | cons p ps ih =>
    obtain ⟨n, x⟩ := p
    obtain ⟨hlt, hs⟩ := List.pairwise_cons.mp hs
    unfold lookup
    split
    · next hn =>
      subst hn
      rw [List.mem_cons, Prod.mk.injEq, Option.some.injEq, eq_comm (a := x)]
      constructor
      · rintro (⟨-, hv⟩ | hmem)
        · exact hv
        · -- The name does not come twice.
          exact absurd (hlt n (List.mem_map_of_mem hmem)) (String.lt_irrefl n)
      · exact fun hv => .inl ⟨rfl, hv⟩
    · next hn =>
      rw [List.mem_cons, Prod.mk.injEq, ih hs]
      exact or_iff_right fun h => hn h.1.symm

/-- What is the same of the old and the new value of a name is the same of the whole table. -/
theorem map_insert {t : Table α} (hs : t.Sorted) (hv : t.get? name = some v) (f : String → α → β)
    (hf : f name w = f name v) :
    ((t.insert name w).toList.map fun p => f p.1 p.2) = t.toList.map fun p => f p.1 p.2 := by
  obtain ⟨ps⟩ := t
  show ((place name w ps).map _) = ps.map _
  change (ps.map Prod.fst).Pairwise (· < ·) at hs
  change lookup name ps = some v at hv
  induction ps with
  | nil => cases hv
  | cons p ps ih =>
    obtain ⟨n, x⟩ := p
    obtain ⟨hlt, hs⟩ := List.pairwise_cons.mp hs
    unfold lookup at hv
    unfold place
    split at hv
    · next hn =>
      obtain rfl := Option.some.inj hv
      subst hn
      rw [if_pos rfl, List.map_cons, List.map_cons, hf]
    · next hn =>
      -- The name comes later, so it is greater than this one.
      have hless : n < name := hlt name (mem_names_of_lookup hv)
      rw [if_neg (Ne.symm hn), if_neg (String.lt_asymm hless), List.map_cons, List.map_cons,
        ih hs hv]

end Table

namespace ParameterSet

/-! ## Declarations and writes -/

/-- A declaration of a parameter. -/
structure Declaration where
  name : String
  description : String
  value : Value

/-- The set of some declarations. -/
def ofDeclarations (ds : List Declaration) : ParameterSet :=
  ds.foldl (fun s d => s.declare d.name d.description d.value) .empty

/-- A write. -/
inductive Write where
  | value (name : String) (v : Value)
  | text (name text : String)
  | overrides (values : List (String × Value))

/-- The parameters that a write names. -/
def Write.names : Write → List String
  | value name _ => [name]
  | text name _ => [name]
  | overrides values => values.map Prod.fst

/-- The set that a single value was to be written to, and how that ended. -/
def settle (s : ParameterSet) :
    Except ParameterError ParameterSet → ParameterSet × Except ParameterError Unit
  | .ok s' => (s', .ok ())
  | .error e => (s, .error e)

/-- What a write leaves, and how it ends. -/
def write (s : ParameterSet) : Write → ParameterSet × Except ParameterError Unit
  | .value name v => s.settle (s.set name v)
  | .text name text => s.settle (s.setFromText name text)
  | .overrides values => s.applyOverrides values

/-- What several writes leave. Some of them may be refused. -/
def writeAll (s : ParameterSet) (ws : List Write) : ParameterSet :=
  ws.foldl (fun s w => (s.write w).1) s

/-- Names, descriptions and kinds, in the order of the names. -/
def shape (s : ParameterSet) : List (String × String × Kind) :=
  s.table.toList.map fun p => (p.1, p.2.description, p.2.kind)

/-- Whether a parameter can be read as one of a kind. -/
def Reads (s : ParameterSet) (name : String) : Kind → Prop
  | .bool => ∃ b, s.getBool name = .ok b
  | .int => ∃ n, s.getInt name = .ok n
  | .double => ∃ x, s.getDouble name = .ok x
  | .string => ∃ t, s.getString name = .ok t

/-- Names are in order, and values have their kinds. -/
structure Sound (s : ParameterSet) : Prop where
  sorted : s.table.Sorted
  kinds : ∀ name p, s.get? name = some p → p.value.kind = p.kind

variable {s s' : ParameterSet} {name other : String} {p : Parameter} {v : Value}

theorem get?_store : (s.store name p v).get? other =
    if name = other then some { p with value := v } else s.get? other :=
  Table.get?_insert ..

theorem get?_declare {description : String} : (s.declare name description v).get? other =
    if name = other then some ⟨description, v.kind, v⟩ else s.get? other :=
  Table.get?_insert ..

theorem ofDeclarations_concat (ds : List Declaration) (d : Declaration) :
    ofDeclarations (ds ++ [d]) = (ofDeclarations ds).declare d.name d.description d.value :=
  List.foldl_append ..

namespace Sound

theorem empty : Sound .empty := ⟨Table.sorted_empty, nofun⟩

theorem declare (h : s.Sound) (name description : String) (v : Value) :
    (s.declare name description v).Sound := by
  refine ⟨Table.sorted_insert h.sorted name _, fun other p hp => ?_⟩
  rw [get?_declare] at hp
  split at hp
  · rw [← Option.some.inj hp]
  · exact h.kinds other p hp

theorem store (h : s.Sound) (hv : v.kind = p.kind) : (s.store name p v).Sound := by
  refine ⟨Table.sorted_insert h.sorted name _, fun other q hq => ?_⟩
  rw [get?_store] at hq
  split at hq
  · rw [← Option.some.inj hq]
    exact hv
  · exact h.kinds other q hq

/-- **A declared parameter can be read as what it was declared to be.** -/
theorem reads (h : s.Sound) (hp : s.get? name = some p) : s.Reads name p.kind := by
  have hkind := h.kinds name p hp
  have hread : s.read name = .ok p.value := by rw [read, hp]
  rw [← hkind]
  cases hv : p.value with
  | bool b => exact ⟨b, by rw [getBool, hread, hv]; rfl⟩
  | int n => exact ⟨n.toInt, by rw [getInt, hread, hv]; rfl⟩
  | double x => exact ⟨x, by rw [getDouble, hread, hv]; rfl⟩
  | string t => exact ⟨t, by rw [getString, hread, hv]; rfl⟩

theorem ofDeclarations (ds : List Declaration) : (ofDeclarations ds).Sound := by
  induction ds using List.reverseRecOn with
  | nil => exact .empty
  | append_singleton ds d ih =>
    rw [ofDeclarations_concat]
    exact ih.declare ..

end Sound

/-- The last declaration of a name counts. -/
theorem get?_ofDeclarations {before after : List Declaration} {d : Declaration}
    (hlast : ∀ d' ∈ after, d'.name ≠ d.name) :
    (ofDeclarations (before ++ d :: after)).get? d.name =
      some ⟨d.description, d.value.kind, d.value⟩ := by
  induction after using List.reverseRecOn with
  | nil => rw [ofDeclarations_concat, get?_declare, if_pos rfl]
  | append_singleton after d' ih =>
    have hne : d'.name ≠ d.name := hlast d' (List.mem_append_right _ (List.mem_singleton_self d'))
    have hearlier := ih fun x hx => hlast x (List.mem_append_left _ hx)
    rw [← List.cons_append, ← List.append_assoc, ofDeclarations_concat, get?_declare, if_neg hne]
    exact hearlier

/-! ## Stores -/

/-- Values of the right kinds are stored in some of the named parameters, one after the other. -/
inductive Stores (names : List String) : ParameterSet → ParameterSet → Prop
  | nothing {s : ParameterSet} : Stores names s s
  | more {s s' : ParameterSet} {name : String} {p : Parameter} {v : Value}
    (named : name ∈ names) (declared : s.get? name = some p) (kind : v.kind = p.kind)
    (rest : Stores names (s.store name p v) s') : Stores names s s'

namespace Stores

variable {names : List String}

theorem sound (h : Stores names s s') (hs : s.Sound) : s'.Sound := by
  induction h with
  | nothing => exact hs
  | more named declared kind rest ih => exact ih (hs.store kind)

theorem shape_eq (h : Stores names s s') (hs : s.Sound) : s'.shape = s.shape := by
  induction h with
  | nothing => rfl
  | more named declared kind rest ih =>
    refine (ih (hs.store kind)).trans ?_
    exact Table.map_insert hs.sorted declared (fun name p => (name, p.description, p.kind)) rfl

/-- Description and kind of a parameter stay. -/
theorem exists_get? (h : Stores names s s') (hp : s.get? name = some p) :
    ∃ v, s'.get? name = some { p with value := v } := by
  induction h generalizing p with
  | nothing => exact ⟨p.value, hp⟩
  | @more s s' other q v named declared kind rest ih =>
    by_cases he : other = name
    · subst he
      obtain rfl : q = p := Option.some.inj (declared.symm.trans hp)
      exact ih (p := { q with value := v }) (by rw [get?_store, if_pos rfl])
    · exact ih (by rw [get?_store, if_neg he, hp])

/-- All other parameters stay as they are. -/
theorem get?_of_not_mem (h : Stores names s s') (hother : other ∉ names) :
    s'.get? other = s.get? other := by
  induction h with
  | nothing => rfl
  | more named declared kind rest ih =>
    rw [ih, get?_store, if_neg]
    rintro rfl
    exact hother named

theorem mono {names' : List String} (h : Stores names s s') (hsub : names ⊆ names') :
    Stores names' s s' := by
  induction h with
  | nothing => exact .nothing
  | more named declared kind rest ih => exact .more (hsub named) declared kind ih

end Stores

theorem kind_readValue {kind : Kind} {cs : List Char} (h : readValue name kind cs = .ok v) :
    v.kind = kind := by
  unfold readValue at h
  cases kind with
  | bool =>
    dsimp only at h
    split at h
    · rw [← Except.ok.inj h]
      rfl
    · cases h
  | int =>
    dsimp only at h
    split at h
    · rw [← Except.ok.inj h]
      rfl
    · cases h
  | double =>
    dsimp only at h
    split at h
    · rw [← Except.ok.inj h]
      rfl
    · cases h
  | string =>
    rw [← Except.ok.inj h]
    rfl

theorem stores_set (h : s.set name v = .ok s') : Stores [name] s s' := by
  obtain ⟨p, w, hp, hw, rfl⟩ := set_eq_ok_iff.mp h
  exact .more (List.mem_singleton_self name) hp (Value.kind_coerce? hw) .nothing

theorem stores_setFromText {text : String} (h : s.setFromText name text = .ok s') :
    Stores [name] s s' := by
  unfold setFromText at h
  split at h
  · cases h
  · next p hp =>
    cases hv : readValue name p.kind (Text.strip text.toList) with
    | error e => rw [hv] at h; cases h
    | ok w =>
      rw [hv] at h
      obtain rfl := Except.ok.inj h
      exact .more (List.mem_singleton_self name) hp (kind_readValue hv) .nothing

theorem stores_settle {names : List String} {result : Except ParameterError ParameterSet}
    (h : ∀ s', result = .ok s' → Stores names s s') : Stores names s (s.settle result).1 := by
  cases result with
  | ok s' => exact h s' rfl
  | error e => exact .nothing

theorem stores_applyOverrides (values : List (String × Value)) :
    Stores (values.map Prod.fst) s (s.applyOverrides values).1 := by
  induction values generalizing s with
  | nil => exact .nothing
  | cons value rest ih =>
    obtain ⟨name, v⟩ := value
    unfold applyOverrides
    split
    · next s' hs' =>
      obtain ⟨p, w, hp, hw, rfl⟩ := set_eq_ok_iff.mp hs'
      exact .more List.mem_cons_self hp (Value.kind_coerce? hw)
        (ih.mono (List.subset_cons_self ..))
    · exact .nothing

/-- **Every write stores values of the right kinds, if anything.** -/
theorem stores_write (s : ParameterSet) (w : Write) : Stores w.names s (s.write w).1 := by
  cases w with
  | value name v => exact stores_settle fun _ => stores_set
  | text name text => exact stores_settle fun _ => stores_setFromText
  | overrides values => exact stores_applyOverrides values

/-! ## All writes -/

theorem sound_writeAll (hs : s.Sound) (ws : List Write) : (s.writeAll ws).Sound := by
  induction ws generalizing s with
  | nil => exact hs
  | cons w ws ih => exact ih ((stores_write s w).sound hs)

theorem shape_writeAll (hs : s.Sound) (ws : List Write) : (s.writeAll ws).shape = s.shape := by
  induction ws generalizing s with
  | nil => rfl
  | cons w ws ih =>
    have hw := stores_write s w
    exact (ih (hw.sound hs)).trans (hw.shape_eq hs)

theorem exists_get?_writeAll (hp : s.get? name = some p) (ws : List Write) :
    ∃ v, (s.writeAll ws).get? name = some { p with value := v } := by
  induction ws generalizing s p with
  | nil => exact ⟨p.value, hp⟩
  | cons w ws ih =>
    obtain ⟨v, hv⟩ := (stores_write s w).exists_get? hp
    exact ih (p := { p with value := v }) hv

/-- **Only values change.** Whatever was declared and is written, names, descriptions and kinds are
those of the declarations, and every parameter can be read as what it was declared to be. They are
listed once, in the order of the names. A value that is refused is not written, and a write leaves
alone what it does not name. -/
theorem administered (ds : List Declaration) (ws : List Write) :
    let s := (ofDeclarations ds).writeAll ws
    s.shape = (ofDeclarations ds).shape ∧
    (∀ before d after, ds = before ++ d :: after → (∀ d' ∈ after, d'.name ≠ d.name) →
      (∃ v, s.get? d.name = some ⟨d.description, d.value.kind, v⟩) ∧
        s.Reads d.name d.value.kind) ∧
    (∀ name p, s.get? name = some p → p.value.kind = p.kind) ∧
    (s.list.map Prod.fst).Pairwise (· < ·) ∧
    (∀ name description v, (name, description, v) ∈ s.list ↔
      ∃ kind, s.get? name = some ⟨description, kind, v⟩) ∧
    (∀ name v e, s.set name v = .error e → s.write (.value name v) = (s, .error e)) ∧
    (∀ name text e, s.setFromText name text = .error e →
      s.write (.text name text) = (s, .error e)) ∧
    ∀ w other, other ∉ w.names → (s.write w).1.get? other = s.get? other := by
  intro s
  have hdeclared := Sound.ofDeclarations ds
  have hs : s.Sound := sound_writeAll hdeclared ws
  refine ⟨shape_writeAll hdeclared ws, fun before d after hsplit hlast => ?_, hs.kinds, ?_,
    fun name description v => ?_, fun name v e he => ?_, fun name text e he => ?_,
    fun w other hother => (stores_write s w).get?_of_not_mem hother⟩
  · have hget : (ofDeclarations (before ++ d :: after)).get? d.name = _ :=
      get?_ofDeclarations hlast
    rw [← hsplit] at hget
    obtain ⟨v, hv⟩ := exists_get?_writeAll hget ws
    exact ⟨⟨v, hv⟩, hs.reads hv⟩
  · rw [list, List.map_map]
    exact hs.sorted
  · rw [list, List.mem_map]
    constructor
    · rintro ⟨⟨n, p⟩, hmem, heq⟩
      cases heq
      exact ⟨p.kind, (Table.mem_toList_iff hs.sorted).mp hmem⟩
    · rintro ⟨kind, hget⟩
      exact ⟨_, (Table.mem_toList_iff hs.sorted).mpr hget, rfl⟩
  · rw [write, he]
    rfl
  · rw [write, he]
    rfl

end ParameterSet

theorem sound_motionDefaults : motionDefaults.Sound :=
  ParameterSet.Sound.empty.declare .. |>.declare .. |>.declare .. |>.declare .. |>.declare ..
    |>.declare .. |>.declare .. |>.declare .. |>.declare .. |>.declare .. |>.declare ..

end MotionWatch
