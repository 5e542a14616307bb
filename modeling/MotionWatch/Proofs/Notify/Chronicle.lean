import Mathlib.Data.List.Basic
import Mathlib.Data.List.Nodup
import MotionWatch.Proofs.Notify.Exchange

/-!
# What an exchange remembers

An exchange keeps registrations in lists of hubs, under keys that only the hub and the guard know.
Here is what it amounts to, told from the operations so far alone: there are no keys, and nothing is
ever searched for.

* `Chronicle`: the operations so far. `Chronicle.exchange`: the exchange that they lead to, and
  `Chronicle.records`: what was logged about them.
* `Chronicle.standing`: the registrations whose guards were not dropped.
* `Chronicle.unread`, `Chronicle.latest`: what a signal was told.
* `Chronicle.Kept`: how the lists of the hubs stand for the registrations. `kept`: they do after any
  operations.
* `exchange_of_chronicle`: the exchange is what the chronicle says, and no registration is ever
  missing.
-/

namespace MotionWatch

/-- Something that is done with hubs, signals and guards. -/
inductive Exchange.Operation where
  | addHub
  | addSignal
  | register (hub signal : Nat)
  | dropGuard (guard : Nat)
  | dropSignal (signal : Nat)
  | dropHub (hub : Nat)
  | notify (hub : Nat) (subject : String)
  /-- Notifies a single signal. -/
  | direct (signal : Nat) (subject : String)
  /-- Takes the notification of a signal, at once or after a wait. -/
  | take (signal : Nat)
  deriving DecidableEq, Repr

/-- The exchange after an operation, and what is logged about that. -/
def Exchange.operate (e : Exchange) : Operation → Exchange × List LogRecord
  | .addHub => (e.addHub.1, [])
  | .addSignal => (e.addSignal.1, [])
  | .register hub signal => ((e.register hub signal).1, [])
  | .dropGuard guard => e.dropGuard guard
  | .dropSignal signal => (e.dropSignal signal, [])
  | .dropHub hub => (e.dropHub hub, [])
  | .notify hub subject => e.notify hub subject
  | .direct signal subject => (e.direct signal subject, [])
  | .take signal => (e.take signal, [])

/-- The operations so far, the latest first. -/
abbrev Chronicle := List Exchange.Operation

/-- A registration, by the number of its guard. -/
structure Standing where
  hub : Nat
  signal : Nat
  guard : Nat
  deriving DecidableEq, Repr

namespace Chronicle

/-- The exchange after all operations. At first there is nothing. -/
def exchange : Chronicle → Exchange
  | [] => .empty
  | op :: past => ((exchange past).operate op).1

/-- What was logged about all operations. -/
def records : Chronicle → List LogRecord
  | [] => []
  | op :: past => records past ++ ((exchange past).operate op).2

/-! ## What happened -/

/-- The number of hubs that were added. -/
def hubs : Chronicle → Nat
  | [] => 0
  | .addHub :: past => hubs past + 1
  | _ :: past => hubs past

/-- The number of signals that were added. -/
def signals : Chronicle → Nat
  | [] => 0
  | .addSignal :: past => signals past + 1
  | _ :: past => signals past

/-- Whether a hub was added and not dropped. -/
def hasHub (hub : Nat) : Chronicle → Bool
  | [] => false
  | .addHub :: past => hub = hubs past || hasHub hub past
  | .dropHub other :: past => other ≠ hub && hasHub hub past
  | _ :: past => hasHub hub past

/-- Whether a signal was added and not dropped. -/
def hasSignal (signal : Nat) : Chronicle → Bool
  | [] => false
  | .addSignal :: past => signal = signals past || hasSignal signal past
  | .dropSignal other :: past => other ≠ signal && hasSignal signal past
  | _ :: past => hasSignal signal past

/-- Whether a signal can be registered with a hub. -/
def grants (past : Chronicle) (hub signal : Nat) : Bool := past.hasHub hub && past.hasSignal signal

/-- The number of guards that were given out. -/
def guards : Chronicle → Nat
  | [] => 0
  | .register hub signal :: past => guards past + if grants past hub signal then 1 else 0
  | _ :: past => guards past

/-- The registrations whose guards were not dropped, in order. -/
def standing : Chronicle → List Standing
  | [] => []
  | .register hub signal :: past =>
    standing past ++ if grants past hub signal then [⟨hub, signal, guards past⟩] else []
  | .dropGuard guard :: past => (standing past).filter fun x => x.guard ≠ guard
  | _ :: past => standing past

/-- The subject that an operation tells a signal: it is notified directly, or through a hub with
which it is registered. -/
def told (past : Chronicle) (signal : Nat) : Exchange.Operation → Option String
  | .notify hub subject =>
    if past.hasHub hub && past.hasSignal signal &&
      past.standing.any (fun x => x.hub = hub && x.signal = signal) then some subject else none
  | .direct other subject => if other = signal && past.hasSignal signal then some subject else none
  | _ => none

/-- Whether a signal was told something since its notification was last taken. -/
def unread (signal : Nat) : Chronicle → Bool
  | [] => false
  | op :: past => op ≠ .take signal && ((told past signal op).isSome || unread signal past)

/-- The latest subject that a signal was told. -/
def latest (signal : Nat) : Chronicle → Option String
  | [] => none
  | op :: past => (told past signal op).or (latest signal past)

end Chronicle

/-! ## Operations -/

namespace Exchange

variable {e : Exchange} {hub signal guard i j : Nat}

theorem hub?_dropHub : (e.dropHub i).hub? j = if i = j then none else e.hub? j := by
  unfold dropHub hub?
  by_cases h : i = j
  · rw [if_pos h, h, List.getElem?_set_self']
    cases e.hubs[j]? <;> rfl
  · rw [if_neg h, List.getElem?_set_ne h]

theorem signal?_dropSignal :
    (e.dropSignal i).signal? j = if i = j then none else e.signal? j := by
  unfold dropSignal signal?
  by_cases h : i = j
  · rw [if_pos h, h, List.getElem?_set_self']
    cases e.signals[j]? <;> rfl
  · rw [if_neg h, List.getElem?_set_ne h]

/-- What becomes of a signal when several are notified. -/
theorem signal?_foldl_direct (subject : String) (signals : List Nat) (e : Exchange) :
    (signals.foldl (fun e s => e.direct s subject) e).signal? j =
      if signals.contains j && (e.signal? j).isSome then some ⟨true, some subject⟩
      else e.signal? j := by
  induction signals generalizing e with
  | nil => rfl
  | cons i signals ih =>
    have hdirect : (e.direct i subject).signal? j =
        if i = j then (e.signal? j).map (.notify subject) else e.signal? j :=
      signal?_modifySignal _
    rw [List.foldl_cons, ih, hdirect, List.contains_cons]
    by_cases hij : i = j
    · subst hij
      cases e.signal? i <;> simp [Signal.notify]
    · simp [hij, beq_false_of_ne (Ne.symm hij)]

/-- A notification reaches exactly the signals that listen, with its subject. -/
theorem signal?_notify (subject : String) :
    (e.notify i subject).1.signal? j =
      if e.listens j i then some ⟨true, some subject⟩ else e.signal? j := by
  unfold notify listens
  split
  · next hnone => simp [hnone]
  · next h hsome =>
    rw [signal?_foldl_direct, contains_listeners, hsome, Option.any_some, Bool.and_assoc,
      Bool.and_self]

/-- Notifying several signals changes nothing but signals. -/
theorem frame_foldl_direct (subject : String) (signals : List Nat) (e : Exchange) :
    (signals.foldl (fun e s => e.direct s subject) e).signals.length = e.signals.length ∧
      (signals.foldl (fun e s => e.direct s subject) e).guards = e.guards := by
  induction signals generalizing e with
  | nil => exact ⟨rfl, rfl⟩
  | cons i signals ih =>
    obtain ⟨hsignals, hguards⟩ := ih (e.direct i subject)
    exact ⟨hsignals.trans (List.length_modify ..), hguards⟩

/-- A notification changes nothing but signals. -/
theorem frame_notify (i : Nat) (subject : String) :
    (e.notify i subject).1.hubs = e.hubs ∧
      (e.notify i subject).1.signals.length = e.signals.length ∧
      (e.notify i subject).1.guards = e.guards := by
  unfold notify
  split
  · exact ⟨rfl, rfl, rfl⟩
  · next h _ =>
    exact ⟨(foldl_direct subject (e.listeners h) e).1, frame_foldl_direct ..⟩

/-- Without the hub or the signal there is no registration. -/
theorem register_eq_self (h : ((e.hub? hub).isSome && (e.signal? signal).isSome) = false) :
    e.register hub signal = (e, none) := by
  unfold register
  split
  · next h₁ h₂ =>
    rw [h₁, h₂] at h
    cases h
  · rfl

/-- A registration changes a hub, and adds a guard if it is granted. -/
theorem frame_register (hub signal : Nat) :
    (e.register hub signal).1.hubs.length = e.hubs.length ∧
      (e.register hub signal).1.signals = e.signals ∧
      (e.register hub signal).1.guards.length = e.guards.length +
        if (e.hub? hub).isSome && (e.signal? signal).isSome then 1 else 0 := by
  unfold register
  cases e.hub? hub with
  | none => exact ⟨rfl, rfl, rfl⟩
  | some h =>
    cases e.signal? signal with
    | none => exact ⟨rfl, rfl, rfl⟩
    | some s => exact ⟨List.length_modify .., rfl, List.length_append⟩

/-! ## Guards -/

/-- Ending a registration changes at most the registrations of its hub. -/
theorem unregister_frame (g : Guard) :
    (e.unregister g).1.signals = e.signals ∧ (e.unregister g).1.guards = e.guards ∧
      (e.unregister g).1.hubs.length = e.hubs.length ∧
      ∀ j, ((e.unregister g).1.hub? j).isSome = (e.hub? j).isSome := by
  unfold unregister
  split
  · exact ⟨rfl, rfl, rfl, fun _ => rfl⟩
  · split
    · next h =>
      refine ⟨rfl, rfl, List.length_modify .., fun j => ?_⟩
      rw [hub?_modifyHub]
      split
      · exact Option.isSome_map
      · rfl
    · exact ⟨rfl, rfl, rfl, fun _ => rfl⟩

/-- Dropping a guard changes at most that guard and the registrations of its hub. -/
theorem dropGuard_frame (i : Nat) :
    (e.dropGuard i).1.signals = e.signals ∧
      (e.dropGuard i).1.guards.length = e.guards.length ∧
      (e.dropGuard i).1.hubs.length = e.hubs.length ∧
      ∀ j, ((e.dropGuard i).1.hub? j).isSome = (e.hub? j).isSome := by
  unfold dropGuard
  split
  · exact ⟨rfl, rfl, rfl, fun _ => rfl⟩
  · next g _ =>
    obtain ⟨hsignals, hguards, hlength, hsome⟩ :=
      unregister_frame (e := { e with guards := e.guards.set i none }) g
    exact ⟨hsignals, (congrArg List.length hguards).trans List.length_set, hlength, hsome⟩

/-- A registration that its hub has is taken out of the list, and nobody complains. -/
theorem unregister_of_hub? {g : Guard} {h : Hub} (hhub : e.hub? g.hub = some h)
    (hkey : ∃ r ∈ h.registrations, r.key = g.key) :
    e.unregister g =
      (e.modifyHub g.hub fun _ =>
        { h with registrations := h.registrations.eraseP fun r => r.key == g.key }, []) := by
  have hany : (h.registrations.any fun r => r.key == g.key) = true := by
    obtain ⟨r, hr, hrkey⟩ := hkey
    exact List.any_eq_true.mpr ⟨r, hr, beq_iff_eq.mpr hrkey⟩
  unfold unregister
  simp only [hhub, Hub.remove?, hany, if_true]

theorem guard?_set_none :
    guard? { e with guards := e.guards.set i none } j = if i = j then none else e.guard? j := by
  unfold guard?
  by_cases h : i = j
  · rw [if_pos h, h, List.getElem?_set_self']
    cases e.guards[j]? <;> rfl
  · rw [if_neg h, List.getElem?_set_ne h]

theorem guard?_concat (g : Guard) :
    guard? { e with guards := e.guards ++ [some g] } i =
      if i = e.guards.length then some g else e.guard? i := by
  unfold guard?
  rcases Nat.lt_trichotomy i e.guards.length with h | rfl | h
  · rw [List.getElem?_append_left h, if_neg (Nat.ne_of_lt h)]
  · simp
  · rw [if_neg (Nat.ne_of_gt h), List.getElem?_eq_none, List.getElem?_eq_none (Nat.le_of_lt h)]
    rw [List.length_append]
    exact h

/-! ## Lists of registrations -/

/-- Under keys that are all different, erasing one of them filters it out. -/
theorem eraseP_key_eq_filter {l : List Registration} (h : (l.map Registration.key).Nodup)
    (key : Nat) : (l.eraseP fun r => r.key == key) = l.filter fun r => r.key ≠ key := by
  induction l with
  | nil => rfl
  | cons r l ih =>
    rw [List.map_cons, List.nodup_cons] at h
    by_cases hr : r.key = key
    · have hrest : (l.filter fun r => r.key ≠ key) = l := by
        refine List.filter_eq_self.mpr fun x hx => ?_
        have hne : x.key ≠ key := fun hx' =>
          h.1 (List.mem_map.mpr ⟨x, hx, hx'.trans hr.symm⟩)
        simpa using hne
      rw [List.eraseP_cons_of_pos (by simpa using hr), List.filter_cons_of_neg (by simpa using hr),
        hrest]
    · rw [List.eraseP_cons_of_neg (by simpa using hr), List.filter_cons_of_pos (by simpa using hr),
        ih h.2]

/-- A registration with the key under which its hub has it. -/
structure Keyed extends Standing where
  key : Nat

/-- The entry in the list of the hub. -/
def Keyed.entry (x : Keyed) : Registration := ⟨x.key, x.signal⟩

/-- The entries that a hub has to have. -/
def entries (roll : List Keyed) (hub : Nat) : List Registration :=
  (roll.filter fun x => x.hub = hub).map Keyed.entry

/-- The lists of the hubs and the guards stand for the registrations of a roll. -/
structure Kept (e : Exchange) (roll : List Keyed) : Prop where
  /-- A hub that is there has the registrations that were made with it, in order. -/
  listed : ∀ i h, e.hub? i = some h → h.registrations = entries roll i
  /-- A hub gives each of them a key of its own. -/
  keys : ∀ i h, e.hub? i = some h →
    ((entries roll i).map Registration.key).Nodup ∧ ∀ r ∈ entries roll i, r.key < h.nextKey
  guards : ∀ i hub key, e.guard? i = some ⟨hub, key⟩ ↔ ∃ signal, ⟨⟨hub, signal, i⟩, key⟩ ∈ roll
  distinct : (roll.map fun x => x.guard).Nodup
  known : ∀ x ∈ roll, x.hub < e.hubs.length

namespace Kept

variable {roll : List Keyed}

theorem empty : Kept .empty [] where
  listed i h hi := by cases hi
  keys i h hi := by cases hi
  guards i hub key := by
    constructor
    · intro hi
      cases hi
    · rintro ⟨signal, hmem⟩
      cases hmem
  distinct := List.nodup_nil
  known x hx := by cases hx

theorem guard_lt (hk : Kept e roll) {x : Keyed} (hx : x ∈ roll) : x.guard < e.guards.length := by
  have hguard : e.guard? x.guard = some ⟨x.hub, x.key⟩ := (hk.guards ..).mpr ⟨x.signal, hx⟩
  by_contra hge
  rw [guard?, List.getElem?_eq_none (Nat.le_of_not_lt hge)] at hguard
  cases hguard

/-- What touches neither the lists of hubs that remain nor the guards. -/
theorem congr {e' : Exchange} (hk : Kept e roll)
    (hhubs : ∀ i h, e'.hub? i = some h → e.hub? i = some h) (hguards : e'.guards = e.guards)
    (hlength : e'.hubs.length = e.hubs.length) : Kept e' roll where
  listed i h hi := hk.listed i h (hhubs i h hi)
  keys i h hi := hk.keys i h (hhubs i h hi)
  guards i hub key := by
    rw [guard?, hguards]
    exact hk.guards i hub key
  distinct := hk.distinct
  known x hx := hlength ▸ hk.known x hx

/-- A new hub has no registrations. -/
theorem addHub (hk : Kept e roll) : Kept e.addHub.1 roll := by
  have hnew : entries roll e.hubs.length = [] := by
    rw [entries, List.filter_eq_nil_iff.mpr]
    · rfl
    · intro x hx
      have hlt := hk.known x hx
      simp only [decide_eq_true_eq]
      omega
  refine ⟨fun i h hi => ?_, fun i h hi => ?_, hk.guards, hk.distinct, fun x hx => ?_⟩
  · rw [hub?_addHub] at hi
    split at hi
    · next heq =>
      cases hi
      rw [heq, hnew]
      rfl
    · exact hk.listed i h hi
  · rw [hub?_addHub] at hi
    split at hi
    · next heq =>
      cases hi
      rw [heq, hnew]
      exact ⟨List.nodup_nil, nofun⟩
    · exact hk.keys i h hi
  · show x.hub < (e.hubs ++ [some Hub.fresh]).length
    rw [List.length_append]
    exact Nat.lt_add_right _ (hk.known x hx)

theorem entries_append (roll' : List Keyed) (i : Nat) :
    entries (roll ++ roll') i = entries roll i ++ entries roll' i := by
  rw [entries, List.filter_append, List.map_append]
  rfl

theorem entries_singleton (x : Keyed) (i : Nat) :
    entries [x] i = if x.hub = i then [x.entry] else [] := by
  unfold entries
  by_cases hx : x.hub = i <;> simp [hx]

/-- A registration goes to the end of the list of its hub, under a key that this hub has not given
to another one. -/
theorem register {h : Hub} (hk : Kept e roll) (hhub : e.hub? hub = some h)
    (hsignal : (e.signal? signal).isSome) :
    Kept (e.register hub signal).1
      (roll ++ [⟨⟨hub, signal, e.guards.length⟩, h.nextKey⟩]) := by
  have hnew : ∀ i h', (e.register hub signal).1.hub? i = some h' →
      (hub = i ∧ h' = h.add signal) ∨ (hub ≠ i ∧ e.hub? i = some h') := by
    intro i h' hi
    rw [hub?_register] at hi
    by_cases hij : hub = i
    · rw [if_pos ⟨hij, hsignal⟩, ← hij, hhub] at hi
      exact .inl ⟨hij, (Option.some.inj hi).symm⟩
    · rw [if_neg fun h => hij h.1] at hi
      exact .inr ⟨hij, hi⟩
  have hguards : (e.register hub signal).1.guards = e.guards ++ [some ⟨hub, h.nextKey⟩] := by
    obtain ⟨s, hs⟩ := Option.isSome_iff_exists.mp hsignal
    simp only [Exchange.register, hhub, hs]
  refine ⟨fun i h' hi => ?_, fun i h' hi => ?_, fun i hub' key => ?_, ?_, fun x hx => ?_⟩
  · rw [entries_append, entries_singleton]
    obtain ⟨rfl, rfl⟩ | ⟨hne, hi⟩ := hnew i h' hi
    · rw [if_pos rfl, ← hk.listed hub h hhub]
      rfl
    · rw [if_neg hne, List.append_nil]
      exact hk.listed i h' hi
  · rw [entries_append, entries_singleton]
    obtain ⟨rfl, rfl⟩ | ⟨hne, hi⟩ := hnew i h' hi
    · obtain ⟨hnodup, hlt⟩ := hk.keys hub h hhub
      rw [if_pos rfl]
      constructor
      · rw [List.map_append, List.nodup_append]
        refine ⟨hnodup, List.nodup_singleton _, fun a ha b hb => ?_⟩
        obtain ⟨r, hr, rfl⟩ := List.mem_map.mp ha
        obtain rfl := List.mem_singleton.mp hb
        exact Nat.ne_of_lt (hlt r hr)
      · intro r hr
        rcases List.mem_append.mp hr with hr | hr
        · exact Nat.lt_succ_of_lt (hlt r hr)
        · rw [List.mem_singleton.mp hr]
          exact Nat.lt_succ_self h.nextKey
    · rw [if_neg hne, List.append_nil]
      exact hk.keys i h' hi
  · have hguard : (e.register hub signal).1.guard? i =
        if i = e.guards.length then some ⟨hub, h.nextKey⟩ else e.guard? i := by
      rw [← guard?_concat, guard?, hguards]
      rfl
    rw [hguard]
    split
    · next hi =>
      constructor
      · intro heq
        cases heq
        exact ⟨signal, List.mem_append_right _ (hi ▸ List.mem_cons_self)⟩
      · rintro ⟨s, hs⟩
        rcases List.mem_append.mp hs with hs | hs
        · exact absurd hi (Nat.ne_of_lt (hk.guard_lt hs))
        · cases List.mem_singleton.mp hs
          rfl
    · next hi =>
      refine (hk.guards i hub' key).trans (exists_congr fun s => ?_)
      rw [List.mem_append, List.mem_singleton]
      exact ⟨.inl, fun hmem => hmem.resolve_right fun heq => hi (congrArg (·.guard) heq)⟩
  · rw [List.map_append, List.nodup_append]
    refine ⟨hk.distinct, List.nodup_singleton _, fun a ha b hb => ?_⟩
    obtain ⟨x, hx, rfl⟩ := List.mem_map.mp ha
    obtain rfl := List.mem_singleton.mp hb
    exact Nat.ne_of_lt (hk.guard_lt hx)
  · have hlength : (e.register hub signal).1.hubs.length = e.hubs.length := by
      obtain ⟨s, hs⟩ := Option.isSome_iff_exists.mp hsignal
      simp only [Exchange.register, hhub, hs]
      exact List.length_modify ..
    rw [hlength]
    rcases List.mem_append.mp hx with hx | hx
    · exact hk.known x hx
    · rw [List.mem_singleton.mp hx]
      by_contra hge
      rw [hub?_eq_none (Nat.le_of_not_lt hge)] at hhub
      cases hhub

/-- A registration is known by its guard. -/
theorem eq_of_guard (hk : Kept e roll) {x y : Keyed} (hx : x ∈ roll) (hy : y ∈ roll)
    (h : y.guard = x.guard) : y = x :=
  List.inj_on_of_nodup_map hk.distinct hy hx h

/-- A registration is known by its key, as long as its hub is there. -/
theorem eq_of_key (hk : Kept e roll) {i : Nat} {h : Hub} (hi : e.hub? i = some h) {x y : Keyed}
    (hx : x ∈ roll) (hy : y ∈ roll) (hxi : x.hub = i) (hyi : y.hub = i) (hkey : y.key = x.key) :
    y = x := by
  have hnodup : ((roll.filter fun z => z.hub = i).map Keyed.key).Nodup := by
    have hkeys := (hk.keys i h hi).1
    rwa [entries, List.map_map] at hkeys
  refine List.inj_on_of_nodup_map hnodup ?_ ?_ hkey
  · exact List.mem_filter.mpr ⟨hy, by simpa using hyi⟩
  · exact List.mem_filter.mpr ⟨hx, by simpa using hxi⟩

/-- Without a registration its hub has one entry less, and the others have theirs. -/
theorem entries_filter (hk : Kept e roll) {x : Keyed} (hx : x ∈ roll) {i : Nat} {h : Hub}
    (hi : e.hub? i = some h) :
    entries (roll.filter fun y => y.guard ≠ x.guard) i =
      if x.hub = i then (entries roll i).filter fun r => r.key ≠ x.key else entries roll i := by
  have hswap : entries (roll.filter fun y => y.guard ≠ x.guard) i =
      ((roll.filter fun y => y.hub = i).filter fun y => y.guard ≠ x.guard).map Keyed.entry :=
    congrArg (List.map Keyed.entry) (List.filter_comm ..)
  rw [hswap]
  split
  · next hxi =>
    rw [entries, List.filter_map]
    refine congrArg (List.map Keyed.entry) (List.filter_congr fun y hy => ?_)
    obtain ⟨hy, hyi⟩ := List.mem_filter.mp hy
    have hiff : y.guard = x.guard ↔ y.key = x.key := by
      constructor
      · intro hguard
        rw [hk.eq_of_guard hx hy hguard]
      · intro hkey
        rw [hk.eq_of_key hi hx hy hxi (of_decide_eq_true hyi) hkey]
    exact decide_eq_decide.mpr (not_congr hiff)
  · next hxi =>
    refine congrArg (List.map Keyed.entry) (List.filter_eq_self.mpr fun y hy => ?_)
    obtain ⟨hy, hyi⟩ := List.mem_filter.mp hy
    refine decide_eq_true fun hguard => hxi ?_
    rw [← hk.eq_of_guard hx hy hguard]
    exact of_decide_eq_true hyi

/-- A guard is gone, and so is the entry in the list of its hub, if that is still there. -/
theorem without {e' : Exchange} (hk : Kept e roll) {x : Keyed} (hx : x ∈ roll)
    (hguards : e'.guards = e.guards.set x.guard none) (hlength : e'.hubs.length = e.hubs.length)
    (hhubs : ∀ i h', e'.hub? i = some h' → ∃ h, e.hub? i = some h ∧ h'.nextKey = h.nextKey ∧
      h'.registrations =
        if x.hub = i then h.registrations.filter fun r => r.key ≠ x.key else h.registrations) :
    Kept e' (roll.filter fun y => y.guard ≠ x.guard) := by
  refine ⟨fun i h' hi => ?_, fun i h' hi => ?_, fun i hub key => ?_, ?_, fun y hy => ?_⟩
  · obtain ⟨h, hh, -, hregistrations⟩ := hhubs i h' hi
    rw [hregistrations, hk.entries_filter hx hh, hk.listed i h hh]
  · obtain ⟨h, hh, hnext, -⟩ := hhubs i h' hi
    obtain ⟨hnodup, hlt⟩ := hk.keys i h hh
    have hsub : (entries (roll.filter fun y => y.guard ≠ x.guard) i).Sublist (entries roll i) :=
      (List.filter_sublist.filter _).map _
    rw [hnext]
    exact ⟨hnodup.sublist (hsub.map _), fun r hr => hlt r (hsub.subset hr)⟩
  · have hguard : e'.guard? i = if x.guard = i then none else e.guard? i := by
      rw [← guard?_set_none, guard?, hguards]
      rfl
    rw [hguard]
    split
    · next hxi =>
      constructor
      · intro hi
        cases hi
      · rintro ⟨signal, hmem⟩
        have hne := of_decide_eq_true (List.mem_filter.mp hmem).2
        exact absurd hxi.symm hne
    · next hxi =>
      refine (hk.guards i hub key).trans (exists_congr fun signal => ?_)
      rw [List.mem_filter]
      exact ⟨fun hmem => ⟨hmem, decide_eq_true (Ne.symm hxi)⟩, And.left⟩
  · exact hk.distinct.sublist (List.filter_sublist.map _)
  · rw [hlength]
    exact hk.known y (List.mem_filter.mp hy).1

/-- The registration of a guard that is dropped is taken out, if its hub is still there, and
nobody complains. -/
theorem dropGuard (hk : Kept e roll) (i : Nat) :
    Kept (e.dropGuard i).1 (roll.filter fun x => x.guard ≠ i) ∧ (e.dropGuard i).2 = [] := by
  unfold Exchange.dropGuard
  split
  · next hnone =>
    -- There is no such guard, and so no such registration.
    have hself : (roll.filter fun x => x.guard ≠ i) = roll := by
      refine List.filter_eq_self.mpr fun x hx => decide_eq_true fun hguard => ?_
      rw [← hguard, (hk.guards x.guard x.hub x.key).mpr ⟨x.signal, hx⟩] at hnone
      cases hnone
    rw [hself]
    exact ⟨hk, rfl⟩
  · next g hg =>
    obtain ⟨signal, hx⟩ := (hk.guards i g.hub g.key).mp hg
    cases hhub : e.hub? g.hub with
    | none =>
      have hun : unregister { e with guards := e.guards.set i none } g =
          ({ e with guards := e.guards.set i none }, []) := by
        unfold unregister
        simp only [show hub? { e with guards := e.guards.set i none } g.hub = none from hhub]
      rw [hun]
      refine ⟨hk.without hx rfl rfl fun j h' hj => ⟨h', hj, rfl, ?_⟩, rfl⟩
      rw [if_neg]
      rintro rfl
      rw [show e.hub? g.hub = some h' from hj] at hhub
      cases hhub
    | some h =>
      have hlisted := hk.listed g.hub h hhub
      have hentry : (⟨g.key, signal⟩ : Registration) ∈ h.registrations := by
        rw [hlisted]
        exact List.mem_map.mpr ⟨_, List.mem_filter.mpr ⟨hx, decide_eq_true rfl⟩, rfl⟩
      rw [unregister_of_hub? (e := { e with guards := e.guards.set i none }) hhub
        ⟨_, hentry, rfl⟩]
      refine ⟨hk.without hx rfl (List.length_modify ..) fun j h' hj => ?_, rfl⟩
      have hnodup : (h.registrations.map Registration.key).Nodup := by
        rw [hlisted]
        exact (hk.keys g.hub h hhub).1
      rw [hub?_modifyHub] at hj
      by_cases hij : g.hub = j
      · rw [if_pos hij, ← hij] at hj
        rw [show hub? { e with guards := e.guards.set i none } g.hub = some h from hhub] at hj
        cases hj
        rw [← hij]
        exact ⟨h, hhub, rfl, (eraseP_key_eq_filter hnodup g.key).trans (if_pos rfl).symm⟩
      · rw [if_neg hij] at hj
        exact ⟨h', hj, rfl, (if_neg hij).symm⟩

end Kept

end Exchange

namespace Chronicle

open Exchange

variable {past : Chronicle} {hub signal : Nat}

/-! ## Numbers -/

/-- The numbers of hubs, signals and guards, and which hubs and signals are still there. -/
structure Numbered (past : Chronicle) : Prop where
  hubs : past.exchange.hubs.length = past.hubs
  signals : past.exchange.signals.length = past.signals
  guards : past.exchange.guards.length = past.guards
  hasHub : ∀ i, (past.exchange.hub? i).isSome = past.hasHub i
  hasSignal : ∀ i, (past.exchange.signal? i).isSome = past.hasSignal i

theorem numbered (past : Chronicle) : past.Numbered := by
  induction past with
  | nil => exact ⟨rfl, rfl, rfl, fun _ => rfl, fun _ => rfl⟩
  | cons op past ih =>
    cases op with
    | addHub =>
      refine ⟨?_, ih.signals, ih.guards, fun i => ?_, ih.hasSignal⟩
      · show ((exchange past).hubs ++ [_]).length = hubs past + 1
        rw [List.length_append, ih.hubs]
        rfl
      · show ((exchange past).addHub.1.hub? i).isSome = (decide (i = hubs past) || hasHub i past)
        rw [hub?_addHub, ih.hubs, ← ih.hasHub]
        by_cases hi : i = hubs past <;> simp [hi]
    | addSignal =>
      refine ⟨ih.hubs, ?_, ih.guards, ih.hasHub, fun i => ?_⟩
      · show ((exchange past).signals ++ [_]).length = signals past + 1
        rw [List.length_append, ih.signals]
        rfl
      · show ((exchange past).addSignal.1.signal? i).isSome =
          (decide (i = signals past) || hasSignal i past)
        rw [signal?_addSignal, ih.signals, ← ih.hasSignal]
        by_cases hi : i = signals past <;> simp [hi]
    | register hub signal =>
      obtain ⟨hhubs, hsignals, hguards⟩ := frame_register (e := (exchange past)) hub signal
      refine ⟨hhubs.trans ih.hubs, (congrArg List.length hsignals).trans ih.signals, ?_,
        fun i => isSome_hub?_register.trans (ih.hasHub i), fun i => ?_⟩
      · refine hguards.trans ?_
        rw [ih.guards, ih.hasHub, ih.hasSignal]
        rfl
      · exact (congrArg Option.isSome signal?_register).trans (ih.hasSignal i)
    | dropGuard guard =>
      obtain ⟨hsignals, hguards, hhubs, hsome⟩ := dropGuard_frame (e := (exchange past)) guard
      refine ⟨hhubs.trans ih.hubs, (congrArg List.length hsignals).trans ih.signals,
        hguards.trans ih.guards, fun i => (hsome i).trans (ih.hasHub i), fun i => ?_⟩
      rw [← show hasSignal i past = hasSignal i (.dropGuard guard :: past) from rfl,
        ← ih.hasSignal, signal?, signal?, ← hsignals]
      rfl
    | dropSignal other =>
      refine ⟨ih.hubs, List.length_set.trans ih.signals, ih.guards, ih.hasHub, fun i => ?_⟩
      show (((exchange past).dropSignal other).signal? i).isSome =
        (decide (other ≠ i) && hasSignal i past)
      rw [signal?_dropSignal, ← ih.hasSignal]
      by_cases hi : other = i <;> simp [hi]
    | dropHub other =>
      refine ⟨List.length_set.trans ih.hubs, ih.signals, ih.guards, fun i => ?_, ih.hasSignal⟩
      show (((exchange past).dropHub other).hub? i).isSome = (decide (other ≠ i) && hasHub i past)
      rw [hub?_dropHub, ← ih.hasHub]
      by_cases hi : other = i <;> simp [hi]
    | notify hub subject =>
      obtain ⟨hhubs, hsignals, hguards⟩ := frame_notify (e := (exchange past)) hub subject
      exact ⟨(congrArg List.length hhubs).trans ih.hubs, hsignals.trans ih.signals,
        (congrArg List.length hguards).trans ih.guards,
        fun i => (congrArg Option.isSome (hub?_notify subject)).trans (ih.hasHub i),
        fun i => (isSome_signal?_notify subject).trans (ih.hasSignal i)⟩
    | direct other subject =>
      exact ⟨ih.hubs, (List.length_modify ..).trans ih.signals, ih.guards, ih.hasHub,
        fun i => (isSome_signal?_modifySignal _).trans (ih.hasSignal i)⟩
    | take other =>
      exact ⟨ih.hubs, (List.length_modify ..).trans ih.signals, ih.guards, ih.hasHub,
        fun i => (isSome_signal?_modifySignal _).trans (ih.hasSignal i)⟩

/-! ## Registrations -/

/-- The hubs and guards of the exchange stand for the registrations of the chronicle. -/
theorem exists_kept (past : Chronicle) :
    ∃ roll, Kept past.exchange roll ∧ roll.map Keyed.toStanding = past.standing := by
  induction past with
  | nil => exact ⟨[], .empty, rfl⟩
  | cons op past ih =>
    obtain ⟨roll, hkept, hstanding⟩ := ih
    cases op with
    | addHub => exact ⟨roll, hkept.addHub, hstanding⟩
    | register hub signal =>
      have hgrants : (((exchange past).hub? hub).isSome &&
          ((exchange past).signal? signal).isSome) = grants past hub signal := by
        rw [(numbered past).hasHub, (numbered past).hasSignal]
        rfl
      by_cases hg : grants past hub signal = true
      · rw [hg, Bool.and_eq_true] at hgrants
        obtain ⟨h, hhub⟩ := Option.isSome_iff_exists.mp hgrants.1
        refine ⟨_, hkept.register hhub hgrants.2, ?_⟩
        show _ = standing past ++ if grants past hub signal then [_] else []
        rw [if_pos hg, List.map_append, hstanding, (numbered past).guards]
        rfl
      · rw [Bool.eq_false_iff.mpr hg] at hgrants
        refine ⟨roll, ?_, ?_⟩
        · show Kept ((exchange past).register hub signal).1 roll
          rw [register_eq_self hgrants]
          exact hkept
        · show _ = standing past ++ if grants past hub signal then [_] else []
          rw [if_neg hg, List.append_nil, hstanding]
    | dropGuard guard =>
      refine ⟨_, (hkept.dropGuard guard).1, ?_⟩
      show _ = (standing past).filter fun x => x.guard ≠ guard
      rw [← hstanding, List.filter_map]
      rfl
    | dropHub other =>
      refine ⟨roll, hkept.congr (fun i h hi => ?_) rfl List.length_set, hstanding⟩
      rw [show (exchange (.dropHub other :: past)).hub? i = _ from hub?_dropHub] at hi
      split at hi
      · cases hi
      · exact hi
    | notify hub subject =>
      obtain ⟨hhubs, -, hguards⟩ := frame_notify (e := (exchange past)) hub subject
      refine ⟨roll, hkept.congr (fun i h hi => ?_) hguards (congrArg List.length hhubs), hstanding⟩
      exact (hub?_notify subject).symm.trans hi
    | addSignal | dropSignal _ | direct _ _ | take _ =>
      exact ⟨roll, hkept.congr (fun _ _ hi => hi) rfl rfl, hstanding⟩

/-- A signal listens to the hubs with which it is registered. -/
theorem listens_eq (past : Chronicle) (signal hub : Nat) :
    past.exchange.listens signal hub =
      (past.hasHub hub && past.hasSignal signal &&
        past.standing.any fun x => x.hub = hub && x.signal = signal) := by
  obtain ⟨roll, hkept, hstanding⟩ := exists_kept past
  rw [listens, (numbered past).hasSignal, ← (numbered past).hasHub]
  cases hhub : past.exchange.hub? hub with
  | none => rfl
  | some h =>
    have hany : (h.registrations.any fun r => r.signal == signal) =
        past.standing.any fun x => x.hub = hub && x.signal = signal := by
      rw [hkept.listed hub h hhub, ← hstanding, entries, List.any_map, List.any_filter,
        List.any_map]
      rfl
    rw [Option.any_some, hany, Option.isSome_some, Bool.true_and, Bool.and_comm]

/-- A live hub has as many registrations as stand with it. -/
theorem length_eq (past : Chronicle) (hub : Nat) :
    (past.exchange.hub? hub).map Hub.length =
      if past.hasHub hub then some (past.standing.countP fun x => x.hub = hub) else none := by
  obtain ⟨roll, hkept, hstanding⟩ := exists_kept past
  rw [← (numbered past).hasHub]
  cases hhub : past.exchange.hub? hub with
  | none => rfl
  | some h =>
    rw [Option.map_some, Option.isSome_some, if_pos rfl, Hub.length, hkept.listed hub h hhub,
      entries, List.length_map, ← List.countP_eq_length_filter, ← hstanding, List.countP_map]
    rfl

/-! ## Signals -/

/-- A signal that was not added yet was told nothing. -/
theorem untold (past : Chronicle) (h : past.signals ≤ signal) :
    past.hasSignal signal = false ∧ past.unread signal = false ∧ past.latest signal = none := by
  induction past with
  | nil => exact ⟨rfl, rfl, rfl⟩
  | cons op past ih =>
    have hle : signals past ≤ signal := by
      refine Nat.le_trans ?_ h
      cases op <;> first | exact Nat.le_refl _ | exact Nat.le_succ _
    obtain ⟨hhas, hunread, hlatest⟩ := ih hle
    have htold : told past signal op = none := by
      cases op <;> simp [told, hhas]
    refine ⟨?_, by simp [unread, htold, hunread], by simp [latest, htold, hlatest]⟩
    cases op with
    | addSignal =>
      have hne : signal ≠ signals past := Nat.ne_of_gt h
      simp [hasSignal, hne, hhas]
    | dropSignal other => simp [hasSignal, hhas]
    | _ => exact hhas

/-- What a signal remembers. -/
def remembered (past : Chronicle) (signal : Nat) : Signal :=
  ⟨past.unread signal, past.latest signal⟩

/-- The signal after an operation that tells it a subject, or tells it nothing. -/
def retold (told : Option String) (s : Signal) : Signal :=
  told.elim s fun subject => ⟨true, some subject⟩

/-- A signal that is told nothing stays as it is. -/
theorem map_retold_none (s? : Option Signal) : s?.map (retold none) = s? :=
  congrFun Option.map_id s?

theorem remembered_cons {op : Operation} (hop : op ≠ .take signal) :
    remembered (op :: past) signal = retold (told past signal op) (remembered past signal) := by
  unfold remembered retold
  cases htold : told past signal op <;> simp [unread, latest, htold, hop]

/-- What becomes of a signal in an operation, apart from adding, dropping and taking. -/
theorem signal?_operate {op : Operation} (hadd : op ≠ .addSignal) (hdrop : ∀ i, op ≠ .dropSignal i)
    (htake : ∀ i, op ≠ .take i) :
    (exchange (op :: past)).signal? signal =
      (past.exchange.signal? signal).map (retold (past.told signal op)) := by
  cases op with
  | addSignal => exact absurd rfl hadd
  | dropSignal i => exact absurd rfl (hdrop i)
  | take i => exact absurd rfl (htake i)
  | notify hub subject =>
    have hlistens : (past.told signal (.notify hub subject)) =
        if past.exchange.listens signal hub then some subject else none := by
      rw [listens_eq]
      rfl
    refine (signal?_notify subject).trans ?_
    rw [hlistens]
    split
    · next hl =>
      obtain ⟨s, hs⟩ := Option.isSome_iff_exists.mp (Bool.and_eq_true_iff.mp hl).2
      rw [hs]
      rfl
    · exact (map_retold_none _).symm
  | direct other subject =>
    have htold : past.told signal (.direct other subject) =
        if other = signal && (past.exchange.signal? signal).isSome then some subject else none := by
      rw [(numbered past).hasSignal]
      rfl
    refine (signal?_modifySignal _).trans ?_
    rw [htold]
    by_cases hi : other = signal
    · cases past.exchange.signal? signal <;> simp [hi, retold, Signal.notify]
    · simp [hi, map_retold_none]
  | register hub other =>
    exact signal?_register.trans (map_retold_none _).symm
  | dropGuard guard =>
    have hsignals := (dropGuard_frame (e := past.exchange) guard).1
    refine Eq.trans ?_ (map_retold_none _).symm
    rw [signal?, signal?, ← hsignals]
    rfl
  | addHub | dropHub _ => exact (map_retold_none _).symm

/-- A signal that is still there remembers what it was told. -/
theorem signal?_eq (past : Chronicle) (signal : Nat) :
    past.exchange.signal? signal =
      if past.hasSignal signal then some (past.remembered signal) else none := by
  induction past with
  | nil => rfl
  | cons op past ih =>
    have hmap : ((exchange past).signal? signal).map (retold (told past signal op)) =
        if hasSignal signal past then
          some (retold (told past signal op) (remembered past signal)) else none := by
      rw [ih]
      split <;> rfl
    cases op with
    | addSignal =>
      rw [remembered_cons (by intro h; cases h)]
      show (exchange past).addSignal.1.signal? signal =
        if decide (signal = signals past) || hasSignal signal past then _ else none
      rw [signal?_addSignal, (numbered past).signals]
      by_cases hi : signal = signals past
      · obtain ⟨-, hunread, hlatest⟩ := untold past (Nat.le_of_eq hi.symm)
        simp [← hi, remembered, hunread, hlatest, Signal.fresh, retold, told]
      · simpa [hi, retold, told] using ih
    | dropSignal other =>
      rw [remembered_cons (by intro h; cases h)]
      show ((exchange past).dropSignal other).signal? signal =
        if decide (other ≠ signal) && hasSignal signal past then _ else none
      rw [signal?_dropSignal]
      by_cases hi : other = signal
      · simp [hi]
      · simpa [hi, retold, told] using ih
    | take other =>
      refine (signal?_modifySignal _).trans ?_
      show _ = if hasSignal signal past then _ else none
      by_cases hi : other = signal
      · rw [if_pos hi, ih]
        cases hasSignal signal past <;> simp [hi, Signal.take, remembered, unread, latest, told]
      · rw [if_neg hi, ih, remembered_cons (by simpa using hi)]
        rfl
    | _ =>
      rw [remembered_cons (by intro h; cases h), signal?_operate (by intro h; cases h)
        (by intro i h; cases h) (by intro i h; cases h)]
      exact hmap

/-! ## Records -/

/-- Only notifications are logged. -/
theorem level_of_mem_records (past : Chronicle) : ∀ r ∈ past.records, r.level = .trace := by
  induction past with
  | nil => nofun
  | cons op past ih =>
    intro r hr
    rcases List.mem_append.mp hr with hr | hr
    · exact ih r hr
    cases op with
    | dropGuard guard =>
      obtain ⟨roll, hkept, -⟩ := exists_kept past
      change r ∈ ((exchange past).dropGuard guard).2 at hr
      rw [(hkept.dropGuard guard).2] at hr
      cases hr
    | notify hub subject =>
      change r ∈ ((exchange past).notify hub subject).2 at hr
      unfold notify at hr
      split at hr
      · cases hr
      · rw [List.mem_singleton.mp hr]
    | _ => cases hr

end Chronicle

/-- **An exchange is what the chronicle of its operations says.** A hub that was not dropped has as
many registrations as were granted and still have their guards. The notification of a signal that
was not dropped can be taken if, since it was last taken, the signal was notified directly, or
through a hub while it was registered there; the signal knows the subject of the latest
notification. No registration is ever found missing: all that is logged is about notifications. -/
theorem exchange_of_chronicle (past : Chronicle) :
    (∀ hub, (past.exchange.hub? hub).map Hub.length =
      if past.hasHub hub then some (past.standing.countP fun x => x.hub = hub) else none) ∧
    (∀ signal, past.exchange.signal? signal =
      if past.hasSignal signal then some ⟨past.unread signal, past.latest signal⟩ else none) ∧
    ∀ r ∈ past.records, r.level = .trace :=
  ⟨Chronicle.length_eq past, Chronicle.signal?_eq past, Chronicle.level_of_mem_records past⟩

/-- A signal that is registered twice with one hub and once with another, which is dropped before
the guards are. -/
def lateGuards : Chronicle :=
  [.dropGuard 2, .notify 0 "lens", .dropGuard 0, .dropHub 1, .take 0, .notify 1 "door",
    .register 1 0, .register 0 0, .register 0 0, .addSignal, .addHub, .addHub]

/-- One registration is left, and the signal was notified through it. -/
theorem exchange_of_chronicle_lateGuards :
    (lateGuards.exchange.hub? 0).map Hub.length = some 1 ∧ lateGuards.exchange.hub? 1 = none ∧
      lateGuards.exchange.signal? 0 = some ⟨true, some "lens"⟩ ∧
      lateGuards.records.length = 2 ∧ ∀ r ∈ lateGuards.records, r.level = .trace := by
  obtain ⟨hlength, hsignal, hrecords⟩ := exchange_of_chronicle lateGuards
  refine ⟨(hlength 0).trans (by decide), ?_, (hsignal 0).trans (by decide), by decide, hrecords⟩
  exact Option.map_eq_none_iff.mp ((hlength 1).trans (by decide))

end MotionWatch
