import Mathlib.Data.List.Nodup
import Mathlib.Logic.Function.Basic
import MotionWatch.Record.EventLog

/-!
# Events and their numbers

* `EventLog.Numbered`: the number of an event is its place in the log. It is so in an empty log, and
  beginning and ending events keeps it so.
* `Numbered.pairwise_id`: so the numbers increase.
* `Numbered.endEvent_eq`: so an event can be ended that has not been ended before.
* `Balanced`: events have owners, each of whom has at most one event that goes on.
  `Balanced.register`, `Balanced.markEnded`: it is so when an owner begins an event, and when it
  ends it again. `Balanced.ended_once`: when nobody has an event any more, all events were ended
  once.
-/

namespace MotionWatch.EventLog

variable {l : EventLog} {k id : Nat} {e : EventRecord}

/-- Events are numbered from 1 in the order in which they began. -/
def Numbered (l : EventLog) : Prop := ∀ k e, l.events[k]? = some e → e.id = k + 1

theorem numbered_empty : empty.Numbered := nofun

/-- What is in a list with a last item added. -/
theorem getElem?_concat_cases {α : Type} {xs : List α} {x y : α} (h : (xs ++ [x])[k]? = some y) :
    xs[k]? = some y ∨ k = xs.length ∧ y = x := by
  rcases Nat.lt_or_ge k xs.length with hk | hk
  · rw [List.getElem?_append_left hk] at h
    exact .inl h
  · rw [List.getElem?_append_right hk] at h
    obtain ⟨hlast, heq⟩ := List.getElem?_eq_some_iff.mp h
    rw [List.getElem_singleton] at heq
    rw [List.length_singleton] at hlast
    exact .inr ⟨by omega, heq.symm⟩

/-- An event after the one with the number `n` was ended. -/
def mark (n : Nat) (e : EventRecord) : EventRecord :=
  if e.id = n then { e with ended := true } else e

/-- Only the event that is ended changes. -/
theorem getElem?_markEnded : (l.markEnded id).events[k]? = l.events[k]?.map (mark id) :=
  List.getElem?_map ..

@[simp] theorem id_mark : (mark id e).id = e.id := by
  unfold mark
  split <;> rfl

theorem mark_of_ne (h : e.id ≠ id) : mark id e = e := if_neg h

theorem ended_mark : (mark id e).ended = true ↔ e.id = id ∨ e.ended = true := by
  unfold mark
  split
  · next h => simp [h]
  · next h => simp [h]

namespace Numbered

theorem register (h : l.Numbered) (trigger : String) (kind : EventKind) (note : String) :
    (l.register trigger kind note).Numbered := by
  intro k e he
  rcases getElem?_concat_cases he with he | ⟨rfl, rfl⟩
  · exact h k e he
  · rfl

theorem markEnded (h : l.Numbered) (id : Nat) : (l.markEnded id).Numbered := by
  intro k e he
  rw [getElem?_markEnded] at he
  obtain ⟨e₀, he₀, rfl⟩ := Option.map_eq_some_iff.mp he
  rw [id_mark]
  exact h k e₀ he₀

/-- **The numbers increase.** -/
theorem pairwise_id (h : l.Numbered) : (l.events.map EventRecord.id).Pairwise (· < ·) := by
  rw [List.pairwise_map, List.pairwise_iff_getElem]
  intro i j hi hj hij
  rw [h i _ (List.getElem?_eq_getElem hi), h j _ (List.getElem?_eq_getElem hj)]
  omega

theorem find?_eq (h : l.Numbered) (he : l.events[k]? = some e) : l.find? e.id = some e := by
  obtain ⟨hk, rfl⟩ := List.getElem?_eq_some_iff.mp he
  refine List.find?_eq_some_iff_getElem.mpr ⟨decide_eq_true rfl, k, hk, rfl, fun j hj => ?_⟩
  have hj' := h j _ (List.getElem?_eq_getElem (Nat.lt_trans hj hk))
  have hk' := h k _ he
  simp only [Bool.not_eq_true', decide_eq_false_iff_not]
  omega

/-- **An event can be ended once.** -/
theorem endEvent_eq (h : l.Numbered) (he : l.events[k]? = some e) (hopen : e.ended = false) :
    l.endEvent e.id = .ok (l.markEnded e.id) := by
  unfold endEvent
  rw [h.find?_eq he]
  dsimp only
  rw [hopen]
  rfl

end Numbered

/-! ## Owners -/

/-- Every event has an owner, and goes on exactly if it is the one that its owner has. Every other
event was ended once. -/
structure Balanced (l : EventLog) (owners finished : List Nat) (current : Nat → Option Nat) :
    Prop where
  numbered : l.Numbered
  owned : owners.length = l.events.length
  open_iff : ∀ (k i : Nat) (e : EventRecord), l.events[k]? = some e → owners[k]? = some i →
    (e.ended = false ↔ current i = some e.id)
  logged : ∀ i n, current i = some n →
    ∃ (k : Nat) (e : EventRecord), l.events[k]? = some e ∧ owners[k]? = some i ∧ e.id = n
  finished_iff : ∀ n, n ∈ finished ↔
    ∃ (k : Nat) (e : EventRecord), l.events[k]? = some e ∧ e.id = n ∧ e.ended = true
  once : finished.Nodup

theorem balanced_empty {current : Nat → Option Nat} (h : ∀ i, current i = none) :
    Balanced empty [] [] current := by
  refine ⟨numbered_empty, rfl, nofun, fun i n hn => ?_, fun n => ⟨nofun, nofun⟩, .nil⟩
  rw [h i] at hn
  cases hn

namespace Balanced

variable {owners finished : List Nat} {current : Nat → Option Nat} {i : Nat}

/-- Somebody without an event begins one. -/
theorem register (h : Balanced l owners finished current) (hi : current i = none) (name : String)
    (kind : EventKind) (note : String) :
    Balanced (l.register name kind note) (owners ++ [i]) finished
      (Function.update current i (some l.nextId)) := by
  have hold : ∀ {k : Nat} {e : EventRecord}, l.events[k]? = some e → e.id ≠ l.nextId := by
    intro k e he
    have hk : k < l.events.length := (List.getElem?_eq_some_iff.mp he).1
    rw [h.numbered k e he, nextId]
    omega
  have hkeep : ∀ {k : Nat} {e : EventRecord}, l.events[k]? = some e →
      (l.register name kind note).events[k]? = some e := by
    intro k e he
    rw [EventLog.register, List.getElem?_append_left (List.getElem?_eq_some_iff.mp he).1]
    exact he
  refine ⟨h.numbered.register name kind note, ?_, ?_, ?_, ?_, h.once⟩
  · simp only [EventLog.register, List.length_append, List.length_singleton, h.owned]
  · intro k j e he hj
    rcases getElem?_concat_cases he with he | ⟨rfl, rfl⟩
    · have hk : k < owners.length := by
        rw [h.owned]
        exact (List.getElem?_eq_some_iff.mp he).1
      rw [List.getElem?_append_left hk] at hj
      rw [h.open_iff k j e he hj]
      by_cases hji : j = i
      · subst hji
        rw [hi, Function.update_self, Option.some.injEq]
        exact ⟨nofun, fun heq => absurd heq.symm (hold he)⟩
      · rw [Function.update_of_ne hji]
    · rw [← h.owned, List.getElem?_concat_length, Option.some.injEq] at hj
      subst hj
      rw [Function.update_self]
      exact ⟨fun _ => rfl, fun _ => rfl⟩
  · intro j n hn
    by_cases hji : j = i
    · subst hji
      rw [Function.update_self, Option.some.injEq] at hn
      subst hn
      refine ⟨l.events.length, _, List.getElem?_concat_length, ?_, rfl⟩
      rw [← h.owned, List.getElem?_concat_length]
    · rw [Function.update_of_ne hji] at hn
      obtain ⟨k, e, he, hj, hid⟩ := h.logged j n hn
      refine ⟨k, e, hkeep he, ?_, hid⟩
      rw [List.getElem?_append_left (List.getElem?_eq_some_iff.mp hj).1]
      exact hj
  · intro n
    rw [h.finished_iff n]
    constructor
    · rintro ⟨k, e, he, hid, hended⟩
      exact ⟨k, e, hkeep he, hid, hended⟩
    · rintro ⟨k, e, he, hid, hended⟩
      rcases getElem?_concat_cases he with he | ⟨rfl, rfl⟩
      · exact ⟨k, e, he, hid, hended⟩
      · cases hended

/-- An event that somebody has can be ended. -/
theorem endEvent_eq {n : Nat} (h : Balanced l owners finished current) (hi : current i = some n) :
    l.endEvent n = .ok (l.markEnded n) := by
  obtain ⟨k, e, he, hj, rfl⟩ := h.logged i n hi
  exact h.numbered.endEvent_eq he ((h.open_iff k i e he hj).mpr hi)

/-- Somebody ends its event. -/
theorem markEnded {n : Nat} (h : Balanced l owners finished current) (hi : current i = some n) :
    Balanced (l.markEnded n) owners (finished ++ [n]) (Function.update current i none) := by
  obtain ⟨k₀, e₀, he₀, howner, hid₀⟩ := h.logged i n hi
  have hopen : e₀.ended = false := (h.open_iff k₀ i e₀ he₀ howner).mpr (hid₀ ▸ hi)
  -- The event is the only one with its number.
  have hunique : ∀ {k : Nat} {e : EventRecord}, l.events[k]? = some e → e.id = n → k = k₀ := by
    intro k e he hid
    have hk := h.numbered k e he
    have hk₀ := h.numbered k₀ e₀ he₀
    omega
  have hfresh : n ∉ finished := by
    intro hmem
    obtain ⟨k, e, he, hid, hended⟩ := (h.finished_iff n).mp hmem
    obtain rfl := hunique he hid
    obtain rfl := Option.some.inj (he.symm.trans he₀)
    rw [hopen] at hended
    cases hended
  refine ⟨h.numbered.markEnded n, ?_, ?_, ?_, ?_, ?_⟩
  · rw [EventLog.markEnded, List.length_map, h.owned]
  · intro k j e' he' hj
    rw [getElem?_markEnded] at he'
    obtain ⟨e, he, rfl⟩ := Option.map_eq_some_iff.mp he'
    by_cases hid : e.id = n
    · obtain rfl := hunique he hid
      obtain rfl := Option.some.inj (hj.symm.trans howner)
      rw [← Bool.not_eq_true, ended_mark, Function.update_self]
      exact ⟨fun hnot => absurd (.inl hid) hnot, nofun⟩
    · rw [mark_of_ne hid, h.open_iff k j e he hj]
      by_cases hji : j = i
      · subst hji
        rw [hi, Function.update_self, Option.some.injEq]
        exact ⟨fun heq => absurd heq.symm hid, nofun⟩
      · rw [Function.update_of_ne hji]
  · intro j n' hn'
    by_cases hji : j = i
    · subst hji
      rw [Function.update_self] at hn'
      cases hn'
    · rw [Function.update_of_ne hji] at hn'
      obtain ⟨k, e, he, hj, hid⟩ := h.logged j n' hn'
      exact ⟨k, mark n e, getElem?_markEnded.trans (congrArg _ he), hj, id_mark.trans hid⟩
  · intro n'
    rw [List.mem_append, List.mem_singleton, h.finished_iff n']
    constructor
    · rintro (⟨k, e, he, hid, hended⟩ | rfl)
      · exact ⟨k, mark n e, getElem?_markEnded.trans (congrArg _ he), id_mark.trans hid,
          ended_mark.mpr (.inr hended)⟩
      · exact ⟨k₀, mark n' e₀, getElem?_markEnded.trans (congrArg _ he₀), id_mark.trans hid₀,
          ended_mark.mpr (.inl hid₀)⟩
    · rintro ⟨k, e', he', hid, hended⟩
      rw [getElem?_markEnded] at he'
      obtain ⟨e, he, rfl⟩ := Option.map_eq_some_iff.mp he'
      rw [id_mark] at hid
      rcases ended_mark.mp hended with heq | hended
      · exact .inr (hid.symm.trans heq)
      · exact .inl ⟨k, e, he, hid, hended⟩
  · refine List.nodup_append.mpr ⟨h.once, List.nodup_singleton n, fun a ha b hb => ?_⟩
    rw [List.mem_singleton.mp hb]
    exact fun heq => hfresh (heq ▸ ha)

/-- **When nobody has an event any more, every event was ended once.** -/
theorem ended_once {k : Nat} {e : EventRecord} (h : Balanced l owners finished current)
    (hnone : ∀ i, current i = none) (he : l.events[k]? = some e) :
    e.ended = true ∧ finished.count e.id = 1 := by
  have hk : k < owners.length := by
    rw [h.owned]
    exact (List.getElem?_eq_some_iff.mp he).1
  have hended : e.ended = true := by
    rw [← Bool.not_eq_false, h.open_iff k _ e he (List.getElem?_eq_getElem hk), hnone]
    nofun
  have hfinished := (h.finished_iff e.id).mpr ⟨k, e, he, rfl, hended⟩
  exact ⟨hended, List.count_eq_one_of_mem h.once hfinished⟩

end Balanced

end MotionWatch.EventLog
