import MotionWatch.Notify.Exchange

/-!
# Looking at an exchange

What can be asked about an exchange after something was done: which hub or signal stands under a
number, whether a signal is pending, whether a hub reports motion, and whether a signal hears what
is published through a hub.

* `hub?_modifyHub`, `signal?_modifySignal`: the only two ways in which hubs and signals change.
* `isPending_notify`, `isPending_take`, `motion_setMotion`: what the operations do.
* `listens`: whether a signal is notified of what is published through a hub. `listens_subscribe`:
  how it comes to that.
-/

namespace MotionWatch.Exchange

variable {e : Exchange} {hub signal i j : Nat}

/-! ## Numbers -/

theorem hub?_modifyHub (f : Hub → Hub) :
    (e.modifyHub i f).hub? j = if i = j then (e.hub? j).map f else e.hub? j := by
  unfold hub? modifyHub
  rw [List.getElem?_modify]
  split
  · cases e.hubs[j]? with
    | none => rfl
    | some h => cases h <;> rfl
  · cases e.hubs[j]? <;> rfl

theorem signal?_modifySignal (f : Signal → Signal) :
    (e.modifySignal i f).signal? j = if i = j then (e.signal? j).map f else e.signal? j := by
  unfold signal? modifySignal
  rw [List.getElem?_modify]
  split
  · cases e.signals[j]? with
    | none => rfl
    | some s => cases s <;> rfl
  · cases e.signals[j]? <;> rfl

theorem hub?_eq_none (h : e.hubs.length ≤ hub) : e.hub? hub = none := by
  rw [hub?, List.getElem?_eq_none h]
  rfl

theorem hub?_addHub : e.addHub.1.hub? j = if j = e.hubs.length then some .fresh else e.hub? j := by
  unfold addHub hub?
  rcases Nat.lt_trichotomy j e.hubs.length with h | rfl | h
  · rw [List.getElem?_append_left h, if_neg (Nat.ne_of_lt h)]
  · simp
  · rw [if_neg (Nat.ne_of_gt h), List.getElem?_eq_none, List.getElem?_eq_none (Nat.le_of_lt h)]
    rw [List.length_append]
    exact h

theorem signal?_addSignal :
    e.addSignal.1.signal? j = if j = e.signals.length then some .fresh else e.signal? j := by
  unfold addSignal signal?
  rcases Nat.lt_trichotomy j e.signals.length with h | rfl | h
  · rw [List.getElem?_append_left h, if_neg (Nat.ne_of_lt h)]
  · simp
  · rw [if_neg (Nat.ne_of_gt h), List.getElem?_eq_none, List.getElem?_eq_none (Nat.le_of_lt h)]
    rw [List.length_append]
    exact h

@[simp] theorem hub?_addSignal : e.addSignal.1.hub? j = e.hub? j := rfl

/-! ## Motion -/

/-- Saying whether a trigger is recording changes one flag. -/
theorem motion_setMotion (on : Bool) :
    (e.setMotion i on).motion j = if i = j ∧ (e.hub? j).isSome then on else e.motion j := by
  unfold motion setMotion
  rw [hub?_modifyHub]
  by_cases h : i = j
  · cases e.hub? j <;> simp [h]
  · simp [h]

/-! ## Notifications -/

theorem isPending_modifySignal (f : Signal → Signal) :
    (e.modifySignal i f).isPending j =
      if i = j then (e.signal? j).any fun s => (f s).pending else e.isPending j := by
  unfold isPending
  rw [signal?_modifySignal]
  split
  · cases e.signal? j <;> rfl
  · rfl

/-- Taking a notification leaves none. -/
theorem isPending_take : (e.take i).isPending j = (e.isPending j && i ≠ j) := by
  rw [take, isPending_modifySignal]
  by_cases h : i = j
  · cases e.signal? j <;> simp [h, Signal.take]
  · simp [h]

theorem isPending_direct (subject : String) :
    (e.direct i subject).isPending j = (e.isPending j || i = j && (e.signal? j).isSome) := by
  rw [direct, isPending_modifySignal]
  unfold isPending
  by_cases h : i = j
  · cases e.signal? j <;> simp [h, Signal.notify]
  · simp [h]

theorem isSome_signal?_modifySignal (f : Signal → Signal) :
    ((e.modifySignal i f).signal? j).isSome = (e.signal? j).isSome := by
  rw [signal?_modifySignal]
  split
  · exact Option.isSome_map
  · rfl

/-- Whether a signal is notified of what is published through a hub. -/
def listens (e : Exchange) (signal hub : Nat) : Bool :=
  (e.hub? hub).any (fun h => h.registrations.any fun r => r.signal == signal) &&
    (e.signal? signal).isSome

theorem contains_listeners (h : Hub) :
    (e.listeners h).contains signal =
      ((h.registrations.any fun r => r.signal == signal) && (e.signal? signal).isSome) := by
  rw [Bool.eq_iff_iff, List.contains_iff_mem, listeners, List.mem_filter, List.mem_map,
    Bool.and_eq_true, List.any_eq_true]
  simp

/-- What becomes of hubs and signals when several signals are notified. -/
theorem foldl_direct (subject : String) (signals : List Nat) (e : Exchange) :
    let e' := signals.foldl (fun e s => e.direct s subject) e
    e'.hubs = e.hubs ∧ (∀ j, (e'.signal? j).isSome = (e.signal? j).isSome) ∧
      ∀ j, e'.isPending j = (e.isPending j || signals.contains j && (e.signal? j).isSome) := by
  induction signals generalizing e with
  | nil => simp
  | cons i signals ih =>
    obtain ⟨hhubs, hsome, hpending⟩ := ih (e.direct i subject)
    have hdirect : ∀ j, ((e.direct i subject).signal? j).isSome = (e.signal? j).isSome :=
      fun j => isSome_signal?_modifySignal _
    refine ⟨hhubs, fun j => (hsome j).trans (hdirect j), fun j => ?_⟩
    rw [List.foldl_cons, hpending j, isPending_direct, hdirect j, List.contains_cons,
      Bool.or_assoc, ← Bool.and_or_distrib_right]
    by_cases hij : i = j
    · simp [hij]
    · simp [hij, beq_false_of_ne (Ne.symm hij)]

/-- A notification changes no hub. -/
@[simp] theorem hub?_notify (subject : String) : (e.notify i subject).1.hub? j = e.hub? j := by
  unfold notify
  split
  · rfl
  · next h _ =>
    have hhubs := (foldl_direct subject (e.listeners h) e).1
    simp only [hub?, hhubs]

@[simp] theorem isSome_signal?_notify (subject : String) :
    ((e.notify i subject).1.signal? j).isSome = (e.signal? j).isSome := by
  unfold notify
  split
  · rfl
  · next h _ => exact (foldl_direct subject (e.listeners h) e).2.1 j

/-- A notification reaches exactly the signals that listen. -/
theorem isPending_notify (subject : String) :
    (e.notify i subject).1.isPending j = (e.isPending j || e.listens j i) := by
  unfold notify listens
  split
  · next hnone => simp [hnone]
  · next h hsome =>
    rw [(foldl_direct subject (e.listeners h) e).2.2 j, contains_listeners, hsome, Option.any_some,
      Bool.and_assoc, Bool.and_self]

@[simp] theorem motion_notify (subject : String) :
    (e.notify i subject).1.motion j = e.motion j := by
  rw [motion, hub?_notify, motion]

/-! ## Who listens -/

/-- Whether a signal listens depends on the registrations only. -/
theorem listens_congr {e' : Exchange}
    (hhub : (e'.hub? hub).map Hub.registrations = (e.hub? hub).map Hub.registrations)
    (hsignal : (e'.signal? signal).isSome = (e.signal? signal).isSome) :
    e'.listens signal hub = e.listens signal hub := by
  have hany : ∀ o : Option Hub, (o.any fun h => h.registrations.any fun r => r.signal == signal) =
      (o.map Hub.registrations).any fun l => l.any fun r => r.signal == signal := by
    intro o
    cases o <;> rfl
  rw [listens, hany, hhub, ← hany, hsignal, listens]

@[simp] theorem listens_setMotion (on : Bool) :
    (e.setMotion i on).listens signal hub = e.listens signal hub := by
  refine listens_congr ?_ rfl
  rw [setMotion, hub?_modifyHub]
  split
  · cases e.hub? hub <;> rfl
  · rfl

@[simp] theorem listens_take : (e.take i).listens signal hub = e.listens signal hub :=
  listens_congr rfl (isSome_signal?_modifySignal _)

@[simp] theorem listens_notify (subject : String) :
    (e.notify i subject).1.listens signal hub = e.listens signal hub :=
  listens_congr (by rw [hub?_notify]) (isSome_signal?_notify subject)

/-! ## Registering -/

theorem hub?_register :
    (e.register hub signal).1.hub? j =
      if hub = j ∧ (e.signal? signal).isSome then (e.hub? j).map (·.add signal) else e.hub? j := by
  unfold register
  cases hs : e.signal? signal with
  | none => cases e.hub? hub <;> simp
  | some s =>
    cases hh : e.hub? hub with
    | some h =>
      show (e.modifyHub hub (·.add signal)).hub? j = _
      rw [hub?_modifyHub]
      simp
    | none =>
      by_cases hj : hub = j
      · simp [← hj, hh]
      · simp [hj]

@[simp] theorem signal?_register : (e.register hub signal).1.signal? j = e.signal? j := by
  unfold register
  split <;> rfl

@[simp] theorem isSome_hub?_register :
    ((e.register hub signal).1.hub? j).isSome = (e.hub? j).isSome := by
  rw [hub?_register]
  split
  · exact Option.isSome_map
  · rfl

@[simp] theorem motion_register : (e.register hub signal).1.motion j = e.motion j := by
  unfold motion
  rw [hub?_register]
  split
  · cases e.hub? j <;> rfl
  · rfl

theorem listens_register :
    (e.register hub signal).1.listens j i =
      (e.listens j i || (hub = i && signal = j && (e.hub? i).isSome && (e.signal? j).isSome)) := by
  unfold listens
  rw [hub?_register, signal?_register]
  by_cases hj : signal = j
  · subst hj
    by_cases hi : hub = i
    · cases hs : e.signal? signal <;> cases hh : e.hub? i <;> simp [hi, Hub.add]
    · simp [hi]
  · by_cases hi : hub = i ∧ (e.signal? signal).isSome
    · rw [if_pos hi]
      cases hh : e.hub? i <;> simp [Hub.add, hj, beq_false_of_ne hj]
    · rw [if_neg hi]
      simp [hj]

theorem subscribe_fst (hubs : List Nat) :
    (e.subscribe signal hubs).1 = hubs.foldl (fun e hub => (e.register hub signal).1) e := by
  unfold subscribe
  generalize [] = guards
  induction hubs generalizing e guards with
  | nil => rfl
  | cons hub hubs ih => exact ih _

/-- Subscribing changes nothing but who listens. -/
theorem subscribe_frame (hubs : List Nat) :
    (∀ j, (e.subscribe signal hubs).1.signal? j = e.signal? j) ∧
      (∀ j, ((e.subscribe signal hubs).1.hub? j).isSome = (e.hub? j).isSome) ∧
      ∀ j, (e.subscribe signal hubs).1.motion j = e.motion j := by
  rw [subscribe_fst]
  induction hubs generalizing e with
  | nil => exact ⟨fun _ => rfl, fun _ => rfl, fun _ => rfl⟩
  | cons hub hubs ih =>
    obtain ⟨hsignal, hhub, hmotion⟩ := ih (e := (e.register hub signal).1)
    exact ⟨fun j => (hsignal j).trans signal?_register,
      fun j => (hhub j).trans isSome_hub?_register, fun j => (hmotion j).trans motion_register⟩

/-- A signal listens to all hubs that it subscribed to. -/
theorem listens_subscribe (hubs : List Nat) :
    (e.subscribe signal hubs).1.listens j i =
      (e.listens j i ||
        (hubs.contains i && signal = j && (e.hub? i).isSome && (e.signal? j).isSome)) := by
  rw [subscribe_fst]
  induction hubs generalizing e with
  | nil => simp
  | cons hub hubs ih =>
    rw [List.foldl_cons, ih, listens_register, isSome_hub?_register, signal?_register,
      List.contains_cons]
    by_cases hi : hub = i
    · subst hi
      simp only [decide_true, Bool.true_and, BEq.rfl, Bool.true_or, Bool.or_assoc]
      cases hubs.contains hub <;> simp
    · simp [hi, beq_false_of_ne (Ne.symm hi)]

end MotionWatch.Exchange
