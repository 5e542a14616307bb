import Mathlib.Data.List.DropRight
import Mathlib.Data.List.Infix
import MotionWatch.Proofs.Record.PreRecord
import MotionWatch.Proofs.Trigger.Ending
import MotionWatch.Proofs.Trigger.History
import MotionWatch.Proofs.Trigger.Rounds

/-!
# The frames that a recording begins with

A motion trigger keeps the last frames that it has counted. When a recording starts, its first
target is handed these frames, and from then on others are kept.

* `Handover`, `handovers`: what targets are handed when they are started.
* `Turn`: a frame that was counted in a run. `sinceStart`: the frames that were counted since the
  last start. `turns`: all frames that are counted in a run.
* `step_eq_watchFrame`, `looks_of_call?`: rounds with a call and without one.
* `Stocked`: the frames that are kept, and all handovers, by the frames that were counted.
  `stocked_step`: a round keeps that; `stocked_rounds`: so it holds in every run.
* `handovers_of_run`: what the targets are handed in a run.
-/

namespace MotionWatch

/-- The last frames with a new one are again the last frames. -/
theorem PreRecord.toList_push {α : Type} {b : PreRecord α} {l : List α} {capacity : Nat}
    (h : b.toList = l.rtake capacity) (f : α) :
    (b.push f capacity).toList = (l ++ [f]).rtake capacity := by
  rw [PreRecord.toList_push_rtake h, Nat.min_eq_right (Nat.le_succ capacity)]

/-! ## Handovers -/

/-- What a target is handed when it is started. -/
structure Handover where
  target : Nat
  frames : List Frame
  event : Option Nat
  deriving DecidableEq

/-- What is handed over by an action. -/
def Action.handover? : Action → Option Handover
  | .startTarget target frames event => some ⟨target, frames, event⟩
  | _ => none

/-- What is handed over by some actions, in order. -/
def handovers (l : List Action) : List Handover := l.filterMap Action.handover?

/-- Whether an action begins an event. -/
def Action.begins : Action → Bool
  | .beginEvent _ _ _ => true
  | _ => false

/-- What `n` targets are handed together: the frames are for the first one. -/
def handoversOf (n : Nat) (frames : List Frame) (event : Option Nat) : List Handover :=
  (List.range n).map fun i => ⟨i, if i = 0 then frames else [], event⟩

section Handovers

variable {l l' : List Action} {n : Nat} {frames : List Frame} {event : Option Nat}

@[simp] theorem handovers_append : handovers (l ++ l') = handovers l ++ handovers l' :=
  List.filterMap_append ..

theorem handovers_essentials : handovers (essentials l) = handovers l :=
  filterMap_essentials fun a h => by cases a <;> first | rfl | cases h

theorem handovers_startTargets :
    handovers (startTargets n frames event) = handoversOf n frames event := by
  unfold handovers startTargets handoversOf
  rw [List.filterMap_flatMap, List.map_eq_flatMap]
  rfl

theorem handovers_stopTargets : handovers (stopTargets n) = [] := by
  simp [handovers, stopTargets, List.filterMap_map, Function.comp_def, Action.handover?]

/-- No frame is handed over more often than it was kept. -/
theorem frames_handoversOf_sublist :
    ((handoversOf n frames event).flatMap Handover.frames).Sublist frames := by
  cases n with
  | zero => exact List.nil_sublist frames
  | succ n =>
    have hothers : ((List.range n).map Nat.succ).flatMap
        (fun i => if i = 0 then frames else []) = [] := by
      rw [List.flatMap_eq_nil_iff]
      intro i hi
      obtain ⟨j, -, rfl⟩ := List.mem_map.mp hi
      rfl
    unfold handoversOf
    rw [List.flatMap_map, List.range_succ_eq_map, List.flatMap_cons]
    dsimp only
    rw [hothers, if_pos rfl, List.append_nil]

end Handovers

/-! ## Turns -/

/-- A frame that was counted, and what was done about it. -/
structure Turn where
  frame : Frame
  actions : List Action

/-- Whether a recording began with a frame. -/
def Turn.starts (u : Turn) : Bool := u.actions.any Action.begins

/-- The frames that were counted since a recording began. -/
def sinceStart (turns : List Turn) : List Frame :=
  (turns.rtakeWhile fun u => !u.starts).map Turn.frame

/-- What `n` targets are handed at a frame, when the last `c` frames are kept. -/
def Turn.HandsOver (n c : Nat) (earlier : List Turn) (u : Turn) : Prop :=
  ∃ event, handovers u.actions =
    if u.starts then handoversOf n ((sinceStart earlier ++ [u.frame]).rtake c) event else []

section Turns

variable {turns : List Turn} {u : Turn} {n c : Nat}

theorem sinceStart_concat : sinceStart (turns ++ [u]) =
    if u.starts then [] else sinceStart turns ++ [u.frame] := by
  unfold sinceStart
  cases hu : u.starts with
  | true => rw [List.rtakeWhile_concat_neg _ _ _ (by simp [hu])]; rfl
  | false =>
    rw [List.rtakeWhile_concat_pos _ _ _ (by simp [hu]), List.map_append]
    rfl

/-- **No frame is handed over twice**, and the frames since the last start were not at all. -/
theorem frames_handed_sublist
    (h : ∀ before u after, turns = before ++ u :: after → u.HandsOver n c before) :
    ((turns.flatMap fun u => (handovers u.actions).flatMap Handover.frames) ++
      sinceStart turns).Sublist (turns.map Turn.frame) := by
  induction turns using List.reverseRecOn with
  | nil => exact .slnil
  | append_singleton turns u ih =>
    have hearlier := ih fun before v after hsplit =>
      h before v (after ++ [u]) (by rw [hsplit, List.append_assoc]; rfl)
    obtain ⟨event, hhanded⟩ := h turns u [] rfl
    -- The frames since the last start are handed over or go on waiting, never both.
    have hnew : (((handovers u.actions).flatMap Handover.frames) ++
        sinceStart (turns ++ [u])).Sublist (sinceStart turns ++ [u.frame]) := by
      rw [sinceStart_concat, hhanded]
      cases u.starts with
      | true =>
        rw [if_pos rfl, if_pos rfl, List.append_nil]
        exact frames_handoversOf_sublist.trans (List.drop_sublist ..)
      | false => exact .refl _
    have hold := hearlier.append_right [u.frame]
    rw [List.append_assoc] at hold
    rw [List.flatMap_append, List.flatMap_singleton, List.append_assoc, List.map_append]
    exact (hnew.append_left _).trans hold

end Turns

namespace MotionTrigger

variable {t t' : MotionTrigger} {a : Answers} {d : Detection} {p : MotionParameters} {f : Frame}
  {allow : Bool} {actions : List Action} {c : Nat}

/-! ## Calls -/

theorem starts_deeds {frames : List Frame} {v : Verdict} :
    (t.deeds a d frames v).any Action.begins = startsTargets v := by
  match v with
  | .muted _ | .gathering _ _ | .idle | .quiet _ false | .motion false | .motion true => rfl
  | .quiet _ true =>
    unfold deeds closing stopTargets
    cases t.event <;> simp [Action.begins, startsTargets]

theorem handovers_closing : handovers t.closing = [] := by
  rw [closing, handovers_append, handovers_append, handovers_stopTargets]
  cases t.event <;> rfl

theorem handovers_deeds {frames : List Frame} {v : Verdict} :
    handovers (t.deeds a d frames v) =
      if startsTargets v then handoversOf t.targets frames a.newEvent.toOption else [] := by
  match v with
  | .muted _ | .gathering _ _ | .idle | .quiet _ false | .motion false => rfl
  | .motion true => exact handovers_startTargets
  | .quiet _ true => exact handovers_closing

/-- A recording begins with a frame if the verdict on the frame says so. -/
theorem Counted.starts_eq (h : t.Counted a f allow t' actions d p) :
    (⟨f, actions⟩ : Turn).starts = startsTargets (t.judge a p d allow).2 := by
  have hany : (essentials actions).any Action.begins = actions.any Action.begins :=
    any_essentials fun a ha => by cases a <;> first | rfl | cases ha
  unfold Turn.starts
  rw [← hany, h.done]
  exact starts_deeds

/-- What the targets are handed at a frame, and what is kept from then on. -/
theorem Counted.handsOver {turns : List Turn} (h : t.Counted a f allow t' actions d p)
    (hcapacity : p.capacity = c) (hkept : t.prerecord.toList = (sinceStart turns).rtake c) :
    (⟨f, actions⟩ : Turn).HandsOver t.targets c turns ∧
      t'.prerecord.toList = (sinceStart (turns ++ [⟨f, actions⟩])).rtake c := by
  have hpushed : (t.kept p f).toList = (sinceStart turns ++ [f]).rtake c := by
    unfold kept
    rw [hcapacity]
    exact PreRecord.toList_push hkept f
  have hstarts := h.starts_eq
  constructor
  · refine ⟨a.newEvent.toOption, ?_⟩
    rw [← handovers_essentials, h.done, hstarts, ← hpushed]
    exact handovers_deeds
  · rw [h.left, sinceStart_concat, hstarts]
    unfold keptAfter
    cases startsTargets (t.judge a p d allow).2 with
    | true => exact (List.rtake_nil _).symm
    | false => exact hpushed

/-- The frame of a call, if it is going to be counted. -/
def turnOf? (t : MotionTrigger) (call : Call) : Option Turn :=
  match t.detection? call.answers call.frame,
    t.processFrame call.answers call.frame call.allow with
  | some _, .ok (_, actions) => some ⟨call.frame, actions⟩
  | _, _ => none

/-- A call that returns counts its frame, or does nothing essential. -/
theorem turnOf?_cases {call : Call}
    (hp : t.processFrame call.answers call.frame call.allow = .ok (t', actions)) :
    (t.turnOf? call = none ∧ t' = t ∧ essentials actions = []) ∨
      t.turnOf? call = some ⟨call.frame, actions⟩ ∧
        ∃ d p, t.Counted call.answers call.frame call.allow t' actions d p := by
  unfold turnOf?
  rw [hp]
  obtain ⟨hnone, rfl, hnil⟩ | ⟨d, p, hcounted⟩ := processFrame_cases hp
  · rw [hnone]
    exact .inl ⟨rfl, rfl, hnil⟩
  · rw [hcounted.detection?_eq]
    exact .inr ⟨rfl, d, p, hcounted⟩

theorem turnOf?_of_error {call : Call} {e : Fault Resized}
    (hp : t.processFrame call.answers call.frame call.allow = .error e) :
    t.turnOf? call = none := by
  unfold turnOf?
  rw [hp]
  cases t.detection? call.answers call.frame <;> rfl

theorem frame_of_turnOf? {call : Call} {u : Turn} (hu : t.turnOf? call = some u) :
    u.frame = call.frame := by
  unfold turnOf? at hu
  split at hu
  · rw [← Option.some.inj hu]
  · cases hu

/-! ## Rounds -/

section Rounds

variable {σ : Type} {h : Host σ} {r r' : Running σ}

/-- The call that a round makes, if it makes one. -/
def call? (h : Host σ) (r : Running σ) : Option Call :=
  match r.stage, (h.control r.world).check? with
  | .going .watching, some true =>
    let (allow, r) := r.askSchedule h
    let (frame, r) := r.fetch h false r.trigger.lastTs
    frame.map fun f => ⟨h.answers r.world, f, allow⟩
  | _, _ => none

/-- The frame that a round counts, if it counts one. -/
def turn? (h : Host σ) (r : Running σ) : Option Turn :=
  (call? h r).bind fun call => { r.trigger with lastTs := call.frame.ts }.turnOf? call

/-- The frames that are counted in so many rounds. -/
def turns (h : Host σ) : Nat → Running σ → List Turn
  | 0, _ => []
  | k + 1, r => (turn? h r).toList ++ turns h k (step h r)

/-- The frames that are kept are the last ones that were counted since the last start, and all that
was handed over was handed over at a frame that was counted. -/
structure Stocked (n c : Nat) (r : Running σ) (turns : List Turn) : Prop where
  targets : r.trigger.targets = n
  /-- What is kept is dropped when the run returns. -/
  stock : r.trigger.prerecord.toList = (sinceStart turns).rtake c ∨
    r.trigger.prerecord = .empty ∧ r.outcome?.isSome
  traced : handovers r.trace = turns.flatMap fun u => handovers u.actions
  handed : ∀ before u after, turns = before ++ u :: after → u.HandsOver n c before

/-- Nothing is handed over, and the frames that are kept stay the same. -/
structure Rests (r r' : Running σ) : Prop where
  targets : r'.trigger.targets = r.trigger.targets
  prerecord : r'.trigger.prerecord = r.trigger.prerecord
  traced : handovers r'.trace = handovers r.trace

theorem Rests.trans {r'' : Running σ} (hr : Rests r r') (hr' : Rests r' r'') : Rests r r'' :=
  ⟨hr'.targets.trans hr.targets, hr'.prerecord.trans hr.prerecord, hr'.traced.trans hr.traced⟩

theorem rests_fetch (block : Bool) (after : Nat) : Rests r (r.fetch h block after).2 :=
  ⟨rfl, rfl, handovers_append.trans (List.append_nil _)⟩

theorem handovers_aside {l : List Action} (h : Aside l) : handovers l = [] :=
  h.filterMap_eq_nil (fun x hx => by cases x <;> first | rfl | cases hx)
    fun x hx => by cases x <;> first | rfl | cases hx

theorem Looks.rests (hl : Looks r r') : Rests r r' := by
  obtain ⟨l, detector, lastTs, aside, trigger, trace, -⟩ := hl
  refine ⟨by rw [trigger], by rw [trigger], ?_⟩
  rw [trace, handovers_append, handovers_aside aside, List.append_nil]

theorem trigger_pace : (pace h r).trigger = r.trigger := by
  obtain ⟨l, -, htrigger, -⟩ := pace_spec (h := h) r
  exact htrigger

theorem handovers_pace : handovers (pace h r).trace = handovers r.trace := by
  obtain ⟨l, haside, -, htrace, -⟩ := pace_spec (h := h) r
  rw [htrace, handovers_append, handovers_aside haside, List.append_nil]

/-- When a round makes a call, and which. -/
theorem call?_eq_some {call : Call} (hcall : call? h r = some call) :
    let fetched := (r.askSchedule h).2.fetch h false r.trigger.lastTs
    r.stage = .going .watching ∧ (h.control r.world).check? = some true ∧
      fetched.1 = some call.frame ∧
      call = ⟨h.answers fetched.2.world, call.frame, (r.askSchedule h).1⟩ := by
  intro fetched
  unfold call? at hcall
  split at hcall
  · next hstage hcheck =>
    obtain ⟨f, hf, rfl⟩ := Option.map_eq_some_iff.mp hcall
    exact ⟨hstage, hcheck, hf, rfl⟩
  · cases hcall

/-- A run in which a frame has come, but is not processed yet. -/
def shownRun (h : Host σ) (r : Running σ) (f : Frame) : Running σ :=
  { ((r.askSchedule h).2.fetch h false r.trigger.lastTs).2 with
    trigger := { r.trigger with lastTs := f.ts } }

/-- A round that makes a call processes the frame, by the answers that the host then gives. -/
theorem step_eq_watchFrame {call : Call} (hcall : call? h r = some call) :
    step h r = watchFrame h call.allow call.frame (shownRun h r call.frame) ∧
      h.answers (shownRun h r call.frame).world = call.answers := by
  obtain ⟨hstage, hcheck, hfetched, heq⟩ := call?_eq_some hcall
  constructor
  · unfold step Run.round watch
    simp only [hstage, hcheck, Run.trigger_askSchedule, hfetched]
    rw [heq]
    rfl
  · rw [heq]
    rfl

theorem rests_shownRun (f : Frame) : Rests r (shownRun h r f) :=
  ⟨rfl, rfl, (rests_fetch (h := h) (r := (r.askSchedule h).2) false r.trigger.lastTs).traced⟩

/-- **A round without a call only looks around**, as long as it does not stop everything. -/
theorem looks_of_call? (hcall : call? h r = none) (hstage : ∀ o, r.stage ≠ .ending o) :
    Looks r (step h r) := by
  unfold step
  cases hs : r.stage with
  | ending o => exact absurd hs (hstage o)
  | returned o => exact .rest rfl rfl (.inl rfl)
  | going phase =>
    cases phase with
    | warmingUp seen last => exact looks_warmUpRound seen last
    | watching =>
      dsimp only
      unfold Run.round
      unfold call? at hcall
      rw [hs] at hcall
      split
      · next hcheck =>
        rw [hcheck] at hcall
        dsimp only at hcall
        unfold watch
        dsimp only
        rw [Option.map_eq_none_iff.mp hcall]
        exact .intro _ _ _ (aside_singleton (.inr rfl)) rfl rfl (.inl rfl)
      · exact .rest rfl rfl (.inr (.inl rfl))
      · exact .rest rfl rfl (.inl rfl)

/-- A round that makes no call hands nothing over. -/
theorem rests_of_call? (hcall : call? h r = none) (hstage : ∀ o, r.stage ≠ .ending o) :
    Rests r (step h r) :=
  (looks_of_call? hcall hstage).rests

/-- A frame that is handled: it is counted, or nothing is handed over. -/
theorem watchFrame_cases (allow : Bool) (f : Frame) :
    let call : Call := ⟨h.answers r.world, f, allow⟩
    (r.trigger.turnOf? call = none ∧ Rests r (watchFrame h allow f r)) ∨
      ∃ actions d p, r.trigger.turnOf? call = some ⟨f, actions⟩ ∧
        r.trigger.Counted (h.answers r.world) f allow (watchFrame h allow f r).trigger actions d p ∧
        handovers (watchFrame h allow f r).trace = handovers r.trace ++ handovers actions := by
  intro call
  unfold watchFrame
  cases hp : r.trigger.processFrame (h.answers r.world) f allow with
  | error e =>
    refine .inl ⟨turnOf?_of_error hp, ?_⟩
    cases e <;> exact ⟨rfl, rfl, rfl⟩
  | ok result =>
    obtain ⟨t', actions⟩ := result
    dsimp only
    rw [trigger_pace, handovers_pace]
    have htrace : handovers (r.proceed h (t', actions)).trace =
        handovers r.trace ++ handovers actions := handovers_append
    have hcall : r.trigger.processFrame call.answers call.frame call.allow = .ok (t', actions) := hp
    obtain ⟨hnone, rfl, hnil⟩ | ⟨hsome, d, p, hcounted⟩ := turnOf?_cases hcall
    · refine .inl ⟨hnone, ?_, ?_, ?_⟩
      · rw [trigger_pace]
        rfl
      · rw [trigger_pace]
        rfl
      · rw [handovers_pace, htrace, ← handovers_essentials (l := actions), hnil]
        exact List.append_nil _
    · exact .inr ⟨actions, d, p, hsome, hcounted, htrace⟩

namespace Stocked

variable {n : Nat} {turns : List Turn}

theorem rests (hs : Stocked n c r turns) (hr : Rests r r')
    (hreturned : r.outcome?.isSome → r'.outcome?.isSome) : Stocked n c r' turns := by
  refine ⟨hr.targets.trans hs.targets, ?_, hr.traced.trans hs.traced, hs.handed⟩
  rw [hr.prerecord]
  exact hs.stock.imp_right fun ⟨hempty, hout⟩ => ⟨hempty, hreturned hout⟩

/-- A frame that is counted. -/
theorem counted {t : MotionTrigger} (hs : Stocked n c r turns) (hout : r.outcome? = none)
    (htargets : t.targets = r.trigger.targets) (hprerecord : t.prerecord = r.trigger.prerecord)
    (hcounted : t.Counted a f allow r'.trigger actions d p) (hcapacity : p.capacity = c)
    (htrace : handovers r'.trace = handovers r.trace ++ handovers actions) :
    Stocked n c r' (turns ++ [⟨f, actions⟩]) := by
  have hstock : t.prerecord.toList = (sinceStart turns).rtake c := by
    rw [hprerecord]
    rcases hs.stock with hstock | ⟨-, hsome⟩
    · exact hstock
    · -- It has not been dropped, because the run goes on.
      rw [hout] at hsome
      cases hsome
  obtain ⟨hhands, hkept⟩ := hcounted.handsOver hcapacity hstock
  refine ⟨?_, .inl hkept, ?_, ?_⟩
  · rw [hcounted.left]
    exact htargets.trans hs.targets
  · rw [htrace, hs.traced, List.flatMap_append, List.flatMap_singleton]
  · intro before u after hsplit
    rcases List.eq_nil_or_concat after with rfl | ⟨after, last, rfl⟩
    · -- This is the new one. All others are as before.
      obtain ⟨rfl, hu⟩ := List.append_inj' hsplit rfl
      obtain rfl := (List.cons.inj hu).1
      rw [htargets.trans hs.targets] at hhands
      exact hhands
    · rw [List.concat_eq_append, ← List.cons_append, ← List.append_assoc] at hsplit
      exact hs.handed before u after (List.append_inj' hsplit rfl).1

end Stocked

/-- The end hands nothing over, and drops what is kept. -/
theorem Stocked.shutdown {n : Nat} {turns : List Turn} {o : Outcome Failure}
    (hs : Stocked n c r turns) (a : Answers) :
    Stocked n c ((r.proceed h (r.trigger.shutdown a)).goTo (.returned o)) turns := by
  refine ⟨?_, .inr ⟨?_, rfl⟩, ?_, hs.handed⟩
  · show (r.trigger.shutdown a).1.targets = n
    rw [shutdown_fst]
    exact hs.targets
  · show (r.trigger.shutdown a).1.prerecord = .empty
    rw [shutdown_fst]
  · show handovers (r.trace ++ (r.trigger.shutdown a).2) = _
    rw [handovers_append, ← handovers_essentials (l := (r.trigger.shutdown a).2),
      essentials_shutdown_snd, handovers_append, hs.traced]
    cases r.trigger.counters.recording with
    | false => exact List.append_nil _
    | true =>
      rw [if_pos rfl, handovers_closing]
      exact List.append_nil _

/-- **A round leaves a run stocked** with the frames that were counted. -/
theorem stocked_step {n : Nat} {c : Int} {earlier : List Turn} (hs : Stocked n c.toNat r earlier)
    (hc : ∀ w, (h.answers w).params.getInt ParameterName.preRecordDuration = .ok c) :
    Stocked n c.toNat (step h r) (earlier ++ (turn? h r).toList) := by
  cases hcall : call? h r with
  | some call =>
    obtain ⟨hstage, -⟩ := call?_eq_some hcall
    have hout : r.outcome? = none := by rw [Run.outcome?, hstage]
    obtain ⟨hstep, hanswers⟩ := step_eq_watchFrame hcall
    have hshown := rests_shownRun (h := h) (r := r) call.frame
    have hturn : turn? h r = (shownRun h r call.frame).trigger.turnOf?
        ⟨h.answers (shownRun h r call.frame).world, call.frame, call.allow⟩ := by
      rw [turn?, hcall, hanswers]
      rfl
    rw [hturn, hstep]
    obtain ⟨hnone, hrests⟩ | ⟨actions, d, p, hsome, hcounted, hhanded⟩ :=
      watchFrame_cases (h := h) (r := shownRun h r call.frame) call.allow call.frame
    · rw [hnone, Option.toList_none, List.append_nil]
      refine hs.rests (hshown.trans hrests) ?_
      rw [hout]
      intro hsome
      cases hsome
    · rw [hsome, Option.toList_some]
      refine hs.counted hout hshown.targets hshown.prerecord hcounted
        ((MotionParameters.of_read hcounted.read).capacity_eq (hc _)) ?_
      rw [hhanded, hshown.traced]
  | none =>
    have hturn : turn? h r = none := by
      rw [turn?, hcall]
      rfl
    rw [hturn, Option.toList_none, List.append_nil]
    cases hstage : r.stage with
    | ending o =>
      unfold step
      rw [hstage]
      exact hs.shutdown (h.answers r.world)
    | returned o =>
      unfold step
      rw [hstage]
      exact hs
    | going phase =>
      have hgoing : ∀ o, r.stage ≠ .ending o := by
        intro o ho
        rw [hstage] at ho
        cases ho
      refine hs.rests (rests_of_call? hcall hgoing) ?_
      rw [Run.outcome?, hstage]
      intro hsome
      cases hsome

theorem stocked_rounds {n : Nat} {c : Int} {earlier : List Turn} (hs : Stocked n c.toNat r earlier)
    (hc : ∀ w, (h.answers w).params.getInt ParameterName.preRecordDuration = .ok c) (k : Nat) :
    Stocked n c.toNat (Run.rounds (step h) k r) (earlier ++ turns h k r) := by
  induction k generalizing r earlier with
  | zero =>
    rw [turns, List.append_nil]
    exact hs
  | succ k ih =>
    rw [turns, ← List.append_assoc]
    exact ih (stocked_step hs hc)

end Rounds

/-! ## Delivered frames -/

section Delivered

variable {σ : Type} {h : Host σ} {r : Running (σ × List Frame)} {decode : Decoder} {n : Nat}
  {earlier : List Turn}

theorem turn?_noting : turn? h.noting r = turn? h r.forget := rfl

theorem turns_noting (k : Nat) : turns h.noting k r = turns h k r.forget := by
  induction k generalizing r with
  | zero => rfl
  | succ k ih => rw [turns, turns, ih, forget_step, turn?_noting]

theorem frames_pace : (pace h.noting r).frames = r.frames := by
  unfold pace
  split
  · rfl
  · split
    · rfl
    · exact Run.frames_act _
    · rfl

theorem frames_watchFrame (allow : Bool) (f : Frame) :
    (watchFrame h.noting allow f r).frames = r.frames := by
  unfold watchFrame
  split
  · rw [frames_pace, Run.frames_proceed]
  · rfl
  · rfl

theorem frames_watch : (watch h.noting r).frames = r.frames ++
    ((r.askSchedule h.noting).2.fetch h.noting false r.trigger.lastTs).1.toList := by
  unfold watch
  dsimp only [Run.trigger_askSchedule]
  cases hf : ((r.askSchedule h.noting).2.fetch h.noting false r.trigger.lastTs).1 with
  | none => exact (congrArg (r.frames ++ Option.toList ·) hf :)
  | some f => exact (frames_watchFrame _ f).trans (congrArg (r.frames ++ Option.toList ·) hf :)

theorem prefix_frames_warmUpRound (seen : Nat) (last : Option Frame) :
    r.frames <+: (warmUpRound h.noting seen last r).frames := by
  unfold warmUpRound
  split
  · unfold finishWarmUp
    split
    · exact ⟨[], (List.append_nil _).trans (Run.frames_act _).symm⟩
    · split
      · exact List.prefix_rfl
      · exact ⟨[], (List.append_nil _).trans (Run.frames_proceed _).symm⟩
  split
  · exact List.prefix_rfl
  · dsimp only
    split
    · exact List.prefix_append ..
    · exact List.prefix_append ..

/-- Frames that were delivered stay delivered. -/
theorem prefix_frames_step : r.frames <+: (step h.noting r).frames := by
  unfold step
  split
  · exact prefix_frames_warmUpRound ..
  · unfold Run.round
    split
    · rw [frames_watch]
      exact List.prefix_append ..
    · exact List.prefix_rfl
    · exact List.prefix_rfl
  · exact ⟨[], (List.append_nil _).trans (Run.frames_proceed _).symm⟩
  · exact List.prefix_rfl

/-- The frame of a call was delivered for it. -/
theorem frames_step_of_call? {call : Call} (hcall : call? h.noting r = some call) :
    (step h.noting r).frames = r.frames ++ [call.frame] := by
  obtain ⟨hstage, hcheck, hfetched, -⟩ := call?_eq_some hcall
  unfold step Run.round
  simp only [hstage, hcheck]
  rw [frames_watch, hfetched, Option.toList_some]

/-- Each frame that is counted is delivered after the warm-up, and no other one at the same
place. -/
theorem counted_sublist_step (hc : Consistent decode n r)
    (hs : (earlier.map Turn.frame).Sublist (r.frames.drop n)) :
    ((earlier ++ (turn? h.noting r).toList).map Turn.frame).Sublist
      ((step h.noting r).frames.drop n) := by
  cases hturn : turn? h.noting r with
  | none =>
    rw [Option.toList_none, List.append_nil]
    exact hs.trans (List.IsPrefix.drop prefix_frames_step n).sublist
  | some u =>
    obtain ⟨call, hcall, hu⟩ := Option.bind_eq_some_iff.mp hturn
    have henough : n ≤ r.frames.length := by
      obtain ⟨hstage, -⟩ := call?_eq_some hcall
      cases hc with
      | watching settled _ _ => exact settled.enough
      | warmingUp _ _ _ hstage' =>
        rw [hstage] at hstage'
        cases hstage'
      | ended _ hstage' =>
        rw [hstage] at hstage'
        rcases hstage' with hstage' | hstage' <;> cases hstage'
    rw [frames_step_of_call? hcall, List.drop_append_of_le_length henough, Option.toList_some,
      List.map_append, ← frame_of_turnOf? hu]
    exact hs.append_right _

theorem counted_sublist_rounds (hpos : 0 < n) (hc : Consistent decode n r)
    (hs : (earlier.map Turn.frame).Sublist (r.frames.drop n)) (k : Nat) :
    ((earlier ++ turns h.noting k r).map Turn.frame).Sublist
      ((Run.rounds (step h.noting) k r).frames.drop n) := by
  induction k generalizing r earlier with
  | zero =>
    rw [turns, List.append_nil]
    exact hs
  | succ k ih =>
    rw [turns, ← List.append_assoc]
    exact ih (consistent_step hpos hc) (counted_sublist_step hc hs)

/-- Frames that are counted in a run were delivered after the warm-up. -/
theorem counted_sublist_delivered (t : MotionTrigger) (world : σ) (k : Nat) :
    ((turns h k (startRun h t world)).map Turn.frame).Sublist
      ((delivered h t world k).drop t.neededFrames) := by
  have hnil : (List.map Turn.frame []).Sublist
      ((startRun h.noting t (world, [])).frames.drop t.neededFrames) := List.nil_sublist _
  have hsub := counted_sublist_rounds (h := h) (neededFrames_pos t) (consistent_startRun t world)
    hnil k
  rw [List.nil_append, turns_noting, forget_startRun] at hsub
  exact hsub

end Delivered

/-! ## Runs -/

/-- **What the targets are handed in a run** in which always the last `max c 0` frames are to be
kept. When a recording begins, the first target gets the last ones of the frames that were counted
since the recording before it, up to the frame with which it begins. All other targets get none,
and all are told the same event. Then nothing is kept any more. No frame is handed over twice. -/
theorem handovers_of_run {σ : Type} (h : Host σ) (t : MotionTrigger) (world : σ) (c : Int)
    (hempty : t.prerecord = .empty)
    (hc : ∀ w, (h.answers w).params.getInt ParameterName.preRecordDuration = .ok c) (k : Nat) :
    let r := Run.rounds (step h) k (startRun h t world)
    let counted := turns h k (startRun h t world)
    (counted.map Turn.frame).Sublist ((delivered h t world k).drop t.neededFrames) ∧
    handovers r.trace = (counted.flatMap fun u => handovers u.actions) ∧
    (∀ before u after, counted = before ++ u :: after →
      (u.starts = false → handovers u.actions = []) ∧
      (u.starts = true → ∃ event,
        let frames := sinceStart before ++ [u.frame]
        let kept := frames.rtake (min (max c 0).toNat frames.length)
        handovers u.actions =
          (List.range t.targets).map fun i => ⟨i, if i = 0 then kept else [], event⟩)) ∧
    (∀ before u, counted = before ++ [u] → u.starts = true → r.trigger.prerecord = .empty) ∧
    r.trigger.prerecord.length ≤ (max c 0).toNat ∧
    ((handovers r.trace).flatMap Handover.frames).Sublist (counted.map Turn.frame) := by
  intro r counted
  have hmax : (max c 0).toNat = c.toNat := by omega
  have hstart : Stocked t.targets c.toNat (startRun h t world) [] := by
    refine ⟨rfl, .inl ?_, rfl, ?_⟩
    · show t.prerecord.toList = _
      rw [hempty]
      exact (List.rtake_nil _).symm
    · intro before u after hsplit
      cases before <;> cases hsplit
  have hs : Stocked t.targets c.toNat r counted := stocked_rounds hstart hc k
  refine ⟨counted_sublist_delivered t world k, hs.traced, ?_, ?_, ?_, ?_⟩
  · intro before u after hsplit
    obtain ⟨event, hhanded⟩ := hs.handed before u after hsplit
    refine ⟨fun hu => ?_, fun hu => ⟨event, ?_⟩⟩
    · rw [hhanded, hu]
      rfl
    · intro frames kept
      have hkept : kept = frames.rtake c.toNat := by
        unfold kept List.rtake
        congr 1
        omega
      rw [hhanded, hu, if_pos rfl, hkept]
      rfl
  · intro before u hsplit hu
    rcases hs.stock with hstock | ⟨hnone, -⟩
    · rw [hsplit, sinceStart_concat, hu, if_pos rfl, List.rtake_nil] at hstock
      exact congrArg PreRecord.mk hstock
    · exact hnone
  · rw [hmax]
    unfold PreRecord.length
    rcases hs.stock with hstock | ⟨hnone, -⟩
    · rw [hstock, List.rtake, List.length_drop]
      omega
    · rw [hnone]
      exact Nat.zero_le _
  · rw [hs.traced, List.flatMap_assoc]
    exact (List.sublist_append_left ..).trans (frames_handed_sublist hs.handed)

/-- Surroundings in which the camera shows the frames of a list, two frames are to be kept, and
the trigger's signal is notified with the last frame. -/
def alarm : Host (List Frame) :=
  { reel with
    answers left :=
      ⟨(motionDefaults.applyOverrides [(ParameterName.preRecordDuration, .int 2)]).1, left.isEmpty,
        false, (0.0, 0.0), .ok 7, fun _ => .ok (), fun _ => .refused ""⟩ }

/-- A recording begins with the last two of three frames that come after the warm-up. -/
theorem handovers_of_run_alarm :
    let r := Run.rounds (step alarm) 5 (startRun alarm { hasty with targets := 2 }
      [blackFrame 1, blackFrame 2, blackFrame 3, blackFrame 4])
    handovers r.trace = [⟨0, [blackFrame 3, blackFrame 4], some 7⟩, ⟨1, [], some 7⟩] ∧
      r.trigger.prerecord.length ≤ 2 ∧
      ((handovers r.trace).flatMap Handover.frames).Sublist
        ([blackFrame 1, blackFrame 2, blackFrame 3, blackFrame 4].drop 1) := by
  intro r
  obtain ⟨hdelivered, -, -, -, hlength, hsublist⟩ :=
    handovers_of_run alarm { hasty with targets := 2 }
      [blackFrame 1, blackFrame 2, blackFrame 3, blackFrame 4] 2 rfl (fun _ => rfl) 5
  have hshown : delivered alarm { hasty with targets := 2 }
      [blackFrame 1, blackFrame 2, blackFrame 3, blackFrame 4] 5 =
      [blackFrame 1, blackFrame 2, blackFrame 3, blackFrame 4] := by decide
  rw [hshown] at hdelivered
  exact ⟨by decide, hlength, hsublist.trans hdelivered⟩

end MotionTrigger

end MotionWatch
