/-!
# Computations that can fail

* `exists_of_bind_eq_ok`, `ok_bind`: computations in two parts. `elim_error_eq_ok_iff`: a value that
  may be missing.
* `mapM_eq_ok`: loops whose steps succeed. `foldlM_eq_ite`: loops whose steps succeed as long as
  something holds. `of_foldlM_eq_ok`: loops that have succeeded.
* `mapError_ok`, `mapError_eq_ok_iff`, `map_map_except`: results and errors that are changed.
-/

namespace MotionWatch

variable {ε ε' α β γ : Type}

theorem mapError_ok {f : ε → ε'} (x : α) : (Except.ok x : Except ε α).mapError f = .ok x := rfl

/-- Only errors are changed. -/
theorem mapError_eq_ok_iff {x : Except ε α} {f : ε → ε'} {a : α} :
    x.mapError f = .ok a ↔ x = .ok a := by
  cases x with
  | error e => exact iff_of_false nofun nofun
  | ok b => rw [mapError_ok, Except.ok.injEq, Except.ok.injEq]

theorem map_map_except (r : Except ε α) (g : α → β) (g' : β → γ) :
    (r.map g).map g' = r.map fun x => g' (g x) := by
  cases r <;> rfl

/-! ## Parts -/

theorem ok_bind (a : α) (g : α → Except ε β) : (Except.ok a >>= g) = g a := rfl

/-- A missing value is an error. -/
theorem elim_error_eq_ok_iff {x : Option α} {e : ε} {a : α} :
    x.elim (.error e) (.ok : α → Except ε α) = .ok a ↔ x = some a := by
  cases x with
  | none => exact iff_of_false nofun nofun
  | some b => simp

theorem elim_error_eq_error_iff {x : Option α} {e e' : ε} :
    x.elim (.error e) (.ok : α → Except ε α) = .error e' ↔ x = none ∧ e = e' := by
  cases x with
  | none => simp
  | some b => exact iff_of_false nofun nofun

/-- Only the first of two parts fails if the second one cannot. -/
theorem map_eq_error_iff {r : Except ε α} {g : α → β} {e : ε} :
    r.map g = .error e ↔ r = .error e := by
  cases r with
  | error e' => simp [Except.map]
  | ok a => exact iff_of_false nofun nofun

/-- A computation in two parts gives a result if both of them do. -/
theorem exists_of_bind_eq_ok {x : Except ε α} {g : α → Except ε β} {b : β}
    (h : x >>= g = .ok b) : ∃ a, x = .ok a ∧ g a = .ok b := by
  cases x with
  | error e => cases h
  | ok a => exact ⟨a, rfl, h⟩

/-! ## Loops -/

section Loops

variable {f : β → α → Except ε β} {g : β → α → β} {P : β → Prop} {b b' : β}

/-- What holds after a loop held before it, if every step is like this. -/
theorem of_foldl {l : List α} (hback : ∀ a ∈ l, ∀ b, P (g b a) → P b) (h : P (l.foldl g b)) :
    P b := by
  induction l generalizing b with
  | nil => exact h
  | cons a l ih => exact hback a (.head l) b (ih (fun c hc => hback c (.tail a hc)) h)

/-- A loop whose steps succeed as long as something holds, which does not hold again once it is
lost. -/
theorem foldlM_eq_ite [DecidablePred P] {e : ε} (l : List α) (hb : P b)
    (hback : ∀ a ∈ l, ∀ b, P (g b a) → P b)
    (hstep : ∀ a ∈ l, ∀ b, P b → f b a = if P (g b a) then .ok (g b a) else .error e) :
    l.foldlM f b = if P (l.foldl g b) then .ok (l.foldl g b) else .error e := by
  induction l generalizing b with
  | nil => exact (if_pos hb).symm
  | cons a l ih =>
    have hback' : ∀ c ∈ l, ∀ b, P (g b c) → P b := fun c hc => hback c (.tail a hc)
    rw [List.foldlM_cons, hstep a (.head l) b hb, List.foldl_cons]
    by_cases hnext : P (g b a)
    · rw [if_pos hnext]
      exact ih hnext hback' fun c hc => hstep c (.tail a hc)
    · rw [if_neg hnext, if_neg fun hend => hnext (of_foldl hback' hend)]
      rfl

/-- What every step keeps, a fold keeps. -/
theorem of_foldlM_eq_ok {l : List α} (hb : P b)
    (hstep : ∀ a b b', P b → f b a = .ok b' → P b') (h : l.foldlM f b = .ok b') : P b' := by
  induction l generalizing b with
  | nil =>
    cases h
    exact hb
  | cons a l ih =>
    rw [List.foldlM_cons] at h
    obtain ⟨next, hnext, h⟩ := exists_of_bind_eq_ok h
    exact ih (hstep a b next hb hnext) h

theorem mapM_eq_ok {f : α → Except ε β} {g : α → β} (l : List α)
    (h : ∀ a ∈ l, f a = .ok (g a)) : l.mapM f = .ok (l.map g) := by
  induction l with
  | nil => rfl
  | cons a l ih =>
    rw [List.mapM_cons, h a (.head l), ok_bind, ih fun b hb => h b (.tail a hb)]
    rfl

end Loops

end MotionWatch
