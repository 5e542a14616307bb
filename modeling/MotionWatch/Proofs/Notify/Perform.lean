import MotionWatch.Proofs.Notify.Exchange
import MotionWatch.Proofs.Trigger.Recordings
import MotionWatch.Site.Basic

/-!
# What triggers do to an exchange

Of all that a trigger does, only three kinds of actions have an effect on hubs and signals.

* `Exchange.perform`: the effect of an action. `exchange_performFor`: this is what a site does.
* `motion_performAll`: after some actions a hub reports what the last of them said.
* `isPending_performAll_other`, `isPending_performAll_own`: after some actions a signal is pending
  if one of them has notified it, and is not if the trigger itself has taken the notification.
-/

namespace MotionWatch

namespace Exchange

/-- What an action does for a trigger that publishes through `hub` and has the given signal. -/
def perform (hub : Nat) (signal : Option Nat) (a : Action) (e : Exchange) : Exchange :=
  match a with
  | .takeSignal => signal.elim e e.take
  | .setMotion on => e.setMotion hub on
  | .notify subject => (e.notify hub subject).1
  | _ => e

/-- What several actions do. -/
def performAll (hub : Nat) (signal : Option Nat) (l : List Action) (e : Exchange) : Exchange :=
  l.foldl (fun e a => e.perform hub signal a) e

/-- A site does the same to its exchange. -/
theorem exchange_performFor (s : Site) (i : Nat) (p : Part) (a : Action) :
    (s.performFor i p a).exchange = s.exchange.perform p.hub p.signal a := by
  cases a with
  | runScript hook path arguments =>
    show (s.runScript i p hook path arguments).exchange = s.exchange
    unfold Site.runScript
    split <;> rfl
  | beginEvent trigger kind text =>
    show (s.beginEvent p trigger kind text).exchange = s.exchange
    unfold Site.beginEvent
    dsimp only
    split <;> rfl
  | endEvent id =>
    show (s.endEvent p id).exchange = s.exchange
    unfold Site.endEvent
    dsimp only
    split
    · rfl
    · split <;> rfl
  | _ => rfl

variable {e : Exchange} {hub j i : Nat} {signal : Option Nat} {a : Action} {l l' : List Action}

@[simp] theorem performAll_nil : e.performAll hub signal [] = e := rfl

@[simp] theorem performAll_cons :
    e.performAll hub signal (a :: l) = (e.perform hub signal a).performAll hub signal l := rfl

theorem perform_of_not_isEssential (h : a.concern.isEssential = false) :
    e.perform hub signal a = e := by
  cases a <;> first | rfl | cases h

/-- Only the essential actions have an effect. -/
theorem performAll_essentials :
    e.performAll hub signal (essentials l) = e.performAll hub signal l := by
  induction l generalizing e with
  | nil => rfl
  | cons a l ih =>
    cases ha : a.concern.isEssential with
    | true =>
      rw [essentials, List.filter_cons_of_pos (by simpa using ha)]
      exact ih
    | false =>
      rw [essentials, List.filter_cons_of_neg (by simpa using ha), performAll_cons,
        perform_of_not_isEssential ha]
      exact ih

/-! ## What stays -/

theorem listens_perform : (e.perform hub signal a).listens j i = e.listens j i := by
  unfold perform
  split
  · cases signal with
    | none => rfl
    | some s => exact listens_take
  · exact listens_setMotion _
  · exact listens_notify _
  · rfl

@[simp] theorem listens_performAll :
    (e.performAll hub signal l).listens j i = e.listens j i := by
  induction l generalizing e with
  | nil => rfl
  | cons a l ih => rw [performAll_cons, ih, listens_perform]

theorem isSome_hub?_perform :
    ((e.perform hub signal a).hub? j).isSome = (e.hub? j).isSome := by
  unfold perform
  split
  · cases signal <;> rfl
  · rw [setMotion, hub?_modifyHub]
    split
    · exact Option.isSome_map
    · rfl
  · rw [hub?_notify]
  · rfl

@[simp] theorem isSome_hub?_performAll :
    ((e.performAll hub signal l).hub? j).isSome = (e.hub? j).isSome := by
  induction l generalizing e with
  | nil => rfl
  | cons a l ih => rw [performAll_cons, ih, isSome_hub?_perform]

theorem isSome_signal?_perform :
    ((e.perform hub signal a).signal? j).isSome = (e.signal? j).isSome := by
  unfold perform
  split
  · cases signal with
    | none => rfl
    | some s => exact isSome_signal?_modifySignal _
  · rfl
  · exact isSome_signal?_notify _
  · rfl

@[simp] theorem isSome_signal?_performAll :
    ((e.performAll hub signal l).signal? j).isSome = (e.signal? j).isSome := by
  induction l generalizing e with
  | nil => rfl
  | cons a l ih => rw [performAll_cons, ih, isSome_signal?_perform]

/-! ## Motion -/

/-- A hub reports what the trigger said last. -/
theorem motion_performAll (h : (e.hub? hub).isSome = true) :
    (e.performAll hub signal l).motion hub = motionAfter (e.motion hub) l := by
  induction l generalizing e with
  | nil => rfl
  | cons a l ih =>
    rw [performAll_cons, ih (isSome_hub?_perform.trans h), ← List.singleton_append,
      motionAfter_append]
    refine congrArg (motionAfter · l) ?_
    cases a with
    | setMotion on =>
      show (e.setMotion hub on).motion hub = on
      rw [motion_setMotion, if_pos ⟨rfl, h⟩]
    | notify subject => exact motion_notify subject
    | takeSignal => cases signal <;> rfl
    | _ => rfl

/-- A trigger says nothing about other triggers. -/
theorem motion_performAll_of_ne (h : hub ≠ j) :
    (e.performAll hub signal l).motion j = e.motion j := by
  induction l generalizing e with
  | nil => rfl
  | cons a l ih =>
    rw [performAll_cons, ih]
    cases a with
    | setMotion on =>
      show (e.setMotion hub on).motion j = e.motion j
      rw [motion_setMotion, if_neg fun hj => h hj.1]
    | notify subject => exact motion_notify subject
    | takeSignal => cases signal <;> rfl
    | _ => rfl

/-- Without a hub nothing is reported. -/
theorem motion_eq_false (h : (e.hub? j).isSome = false) : e.motion j = false := by
  unfold motion
  cases hh : e.hub? j with
  | none => rfl
  | some x =>
    rw [hh] at h
    cases h

/-! ## Notifications -/

/-- Whether something is published. -/
def notifies (l : List Action) : Bool := l.any fun a => a.subject?.isSome

/-- Whether a notification is taken. -/
def takes (l : List Action) : Bool := l.any fun a => a matches .takeSignal

/-- Other signals are notified of what is published. -/
theorem isPending_performAll_other (h : signal ≠ some j) :
    (e.performAll hub signal l).isPending j =
      (e.isPending j || e.listens j hub && notifies l) := by
  induction l generalizing e with
  | nil => simp [notifies]
  | cons a l ih =>
    rw [performAll_cons, ih, listens_perform]
    cases a with
    | notify subject =>
      rw [show e.perform hub signal (.notify subject) = (e.notify hub subject).1 from rfl,
        isPending_notify, show notifies (.notify subject :: l) = true from rfl]
      cases e.listens j hub <;> simp
    | takeSignal =>
      have htake : (e.perform hub signal .takeSignal).isPending j = e.isPending j := by
        cases signal with
        | none => rfl
        | some s =>
          show (e.take s).isPending j = _
          rw [isPending_take]
          simp [show s ≠ j from fun hs => h (congrArg some hs)]
      rw [htake]
      rfl
    | _ => rfl

/-- A trigger that does not listen to itself is notified of nothing that it publishes. -/
theorem isPending_performAll_own (h : e.listens j hub = false) :
    (e.performAll hub (some j) l).isPending j = (e.isPending j && !takes l) := by
  induction l generalizing e with
  | nil => simp [takes]
  | cons a l ih =>
    rw [performAll_cons, ih (listens_perform.trans h)]
    cases a with
    | notify subject =>
      rw [show e.perform hub (some j) (.notify subject) = (e.notify hub subject).1 from rfl,
        isPending_notify, h, Bool.or_false]
      rfl
    | takeSignal =>
      rw [show e.perform hub (some j) .takeSignal = e.take j from rfl, isPending_take]
      simp [takes]
    | _ => rfl

theorem takes_append : takes (l ++ l') = (takes l || takes l') := List.any_append

/-- What is not about the signal takes no notification. -/
theorem takes_eq_false (h : concerning .signal l = []) : takes l = false := by
  refine List.any_eq_false.mpr fun a ha => ?_
  have hc : a.concern ≠ .signal := by
    intro hc
    have hmem : a ∈ concerning .signal l := List.mem_filter.mpr ⟨ha, by simp [hc]⟩
    rw [h] at hmem
    cases hmem
  cases a with
  | takeSignal => exact absurd rfl hc
  | _ => exact Bool.false_ne_true

theorem notifies_essentials : notifies (essentials l) = notifies l := by
  refine any_essentials fun a ha => ?_
  rw [Action.subject?_eq_none (Action.concern_ne ha rfl)]
  rfl

end Exchange

end MotionWatch
