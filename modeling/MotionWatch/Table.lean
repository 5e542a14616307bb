/-!
# Tables by name

A table keeps one value per name, in the order of the names. It is the store behind parameters,
configured overrides and published values.

* `Table.get?`, `Table.insert`: look up, and add or replace.
* `get?_insert`: what a look-up finds after an insertion.
* `Table.Sorted`, `sorted_insert`: names are strictly increasing, and stay so.
-/

namespace MotionWatch

/-- Values by name, ordered by name. -/
structure Table (α : Type) where
  toList : List (String × α)

namespace Table

variable {α β : Type}

/-- The table without names. -/
def empty : Table α := ⟨[]⟩

instance : Inhabited (Table α) := ⟨empty⟩

/-- The value of a name in a list of pairs. -/
def lookup (name : String) : List (String × α) → Option α
  | [] => none
  | (n, v) :: rest => if n = name then some v else lookup name rest

/-- The value of a name. -/
def get? (t : Table α) (name : String) : Option α := lookup name t.toList

/-- Whether a name has a value. -/
def contains (t : Table α) (name : String) : Bool := (t.get? name).isSome

/-- Puts a pair in front of the greater names, in place of an equal one. -/
def place (name : String) (v : α) : List (String × α) → List (String × α)
  | [] => [(name, v)]
  | (n, w) :: rest =>
    if name = n then (name, v) :: rest
    else if name < n then (name, v) :: (n, w) :: rest
    else (n, w) :: place name v rest

/-- The table with a value for a name, new or in place of the old one. -/
def insert (t : Table α) (name : String) (v : α) : Table α := ⟨place name v t.toList⟩

/-- The table of a list of pairs; a later pair replaces an earlier one of the same name. -/
def ofList (ps : List (String × α)) : Table α := ps.foldl (fun t p => t.insert p.1 p.2) empty

/-- Changes every value. -/
def map (f : α → β) (t : Table α) : Table β := ⟨t.toList.map fun p => (p.1, f p.2)⟩

/-- The names in order. -/
def names (t : Table α) : List String := t.toList.map Prod.fst

/-- The names are strictly increasing. -/
def Sorted (t : Table α) : Prop := t.names.Pairwise (· < ·)

@[simp] theorem get?_empty (name : String) : (empty : Table α).get? name = none := rfl

private theorem lookup_place (name other : String) (v : α) (ps : List (String × α)) :
    lookup other (place name v ps) = if name = other then some v else lookup other ps := by
  induction ps with
  | nil => simp [place, lookup]
  | cons p ps ih =>
    obtain ⟨n, w⟩ := p
    unfold place
    split
    · next h => subst h; simp only [lookup]; split <;> rfl
    · next h =>
      split
      · simp only [lookup]
      · simp only [lookup, ih]
        grind

theorem get?_insert (t : Table α) (name other : String) (v : α) :
    (t.insert name v).get? other = if name = other then some v else t.get? other :=
  lookup_place name other v t.toList

@[simp] theorem get?_insert_self (t : Table α) (name : String) (v : α) :
    (t.insert name v).get? name = some v := by simp [get?_insert]

theorem get?_insert_of_ne (t : Table α) {name other : String} (v : α) (h : name ≠ other) :
    (t.insert name v).get? other = t.get? other := by simp [get?_insert, h]

private theorem mem_names_place (name : String) (v : α) (ps : List (String × α)) (x : String)
    (h : x ∈ (place name v ps).map Prod.fst) : x = name ∨ x ∈ ps.map Prod.fst := by
  induction ps with
  | nil => simpa [place] using h
  | cons p ps ih =>
    obtain ⟨n, w⟩ := p
    unfold place at h
    split at h
    · simp_all
    · split at h <;> simp_all
      grind

private theorem pairwise_place (name : String) (v : α) (ps : List (String × α))
    (h : (ps.map Prod.fst).Pairwise (· < ·)) :
    ((place name v ps).map Prod.fst).Pairwise (· < ·) := by
  induction ps with
  | nil => simp [place]
  | cons p ps ih =>
    obtain ⟨n, w⟩ := p
    simp only [List.map_cons, List.pairwise_cons] at h
    unfold place
    split
    · next he => subst he; simpa using h
    · next hne =>
      split
      · next hlt =>
        simp only [List.map_cons, List.pairwise_cons, List.mem_cons, forall_eq_or_imp]
        exact ⟨⟨hlt, fun x hx => String.lt_trans hlt (h.1 x hx)⟩, h⟩
      · next hnlt =>
        simp only [List.map_cons, List.pairwise_cons]
        refine ⟨fun x hx => ?_, ih h.2⟩
        rcases mem_names_place _ _ _ _ hx with rfl | hx
        · exact Std.lt_of_le_of_ne (String.not_lt.1 hnlt) (Ne.symm hne)
        · exact h.1 x hx

theorem sorted_empty : (empty : Table α).Sorted := .nil

theorem sorted_insert {t : Table α} (h : t.Sorted) (name : String) (v : α) :
    (t.insert name v).Sorted :=
  pairwise_place name v t.toList h

end Table

end MotionWatch
