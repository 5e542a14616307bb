import MotionWatch.Proofs.Trigger.Post
import MotionWatch.Trigger.Audio

/-!
# A motion trigger within earshot of audio triggers

Audio triggers publish when they hear something, and a motion trigger that listens to them treats
that like motion. Between two frames any number of blocks of samples can come from any of them, and
the motion trigger is left with a single flag.

* `Moment`: something that happens. `Earshot.attend`: what becomes of it, moment after moment.
* `Heard`: whether a notification is waiting, told from what happened. There is no flag.
  `heard_concat`: one moment more.
* `Attentive`: the flag is up if a notification is waiting. `Attentive.block`, `Attentive.listen`,
  `Attentive.frame`: every moment keeps that.
* `Viewing.TreatedWith`: what a frame did to the counters, with a sound or without one.
* `treatedWith_sound_iff_heard`: in every interleaving, each frame is treated as if it came with a
  sound exactly if something was heard since the last frame that was counted.
-/

namespace MotionWatch

/-- Something that happens around a motion trigger. -/
inductive Moment where
  /-- An audio trigger is given samples. -/
  | block (mic : Nat) (samples : List Int)
  /-- The motion trigger begins to listen to an audio trigger. -/
  | listen (mic : Nat)
  /-- The motion trigger is shown a frame. -/
  | frame (answers : Answers) (f : Frame) (allow : Bool)

/-- What became of a frame that was shown to a trigger. -/
structure Viewing where
  params : ParameterSet
  allow : Bool
  /-- What the detector saw, if the frame was counted. -/
  seen : Option Detection
  before : Counters
  after : Counters

/-- The frame was treated as if it came with a sound, or as if it came without one. A frame that
was not counted changed nothing. -/
def Viewing.TreatedWith (s : Viewing) (sound : Bool) : Prop :=
  match s.seen with
  | some d => ∃ p, MotionParameters.read s.params = .ok p ∧
      s.after = (s.before.advance ((d.triggered || sound) && s.allow) p.limits).1
  | none => s.after = s.before

/-- What became of a moment. -/
inductive Happening where
  | block (mic : Nat) (samples : List Int)
  | listen (mic : Nat)
  | frame (viewing : Viewing)

/-- Whether a frame was counted. -/
def Happening.isCounted : Happening → Bool
  | frame s => s.seen.isSome
  | _ => false

/-- Whether a block is loud enough for an audio trigger: so many samples reach the threshold in
their absolute value. -/
def AudioTrigger.IsLoud (m : AudioTrigger) (samples : List Int) : Prop :=
  m.minLoud ≤ samples.countP fun s => m.threshold ≤ s.natAbs

/-- After the frame that was counted last, and after the motion trigger began to listen to an audio
trigger, that one was given a block that is loud enough. -/
def Heard (mics : List AudioTrigger) (past : List Happening) : Prop :=
  ∃ before i samples after m, past = before ++ .block i samples :: after ∧
    .listen i ∈ before ∧ mics[i]? = some m ∧ m.IsLoud samples ∧
    ∀ x ∈ after, x.isCounted = false

namespace Earshot

/-- A motion trigger with a hub and a signal of its own, among audio triggers that publish through
the hubs before its own. It does not listen to any of them yet. -/
def amid (mics : List AudioTrigger) (t : MotionTrigger) : Post :=
  Post.install ⟨List.replicate mics.length (some .fresh), [some .fresh], []⟩ t (some 0)

/-- The exchange after an audio trigger was given samples. -/
def hear (mics : List AudioTrigger) (i : Nat) (samples : List Int) (e : Exchange) : Exchange :=
  match mics[i]? with
  | some m => e.performAll i none (m.process samples)
  | none => e

/-- The exchange after a signal was registered with the hub of an audio trigger. -/
def listen (mics : List AudioTrigger) (i signal : Nat) (e : Exchange) : Exchange :=
  match mics[i]? with
  | some _ => (e.register i signal).1
  | none => e

/-- What became of a frame at a post that is then `p'`. -/
def viewing (p : Post) (a : Answers) (f : Frame) (allow : Bool) (p' : Post) : Viewing where
  params := a.params
  allow := allow
  seen := p.trigger.detection? (p.consult a) f
  before := p.trigger.counters
  after := p'.trigger.counters

/-- What becomes of moments one after the other, until the program crashes. -/
def attend (mics : List AudioTrigger) (p : Post) : List Moment → List Happening
  | [] => []
  | .block i samples :: ms =>
    .block i samples :: attend mics { p with exchange := hear mics i samples p.exchange } ms
  | .listen i :: ms =>
    .listen i :: attend mics
      { p with exchange := p.signal.elim p.exchange fun s => listen mics i s p.exchange } ms
  | .frame a f allow :: ms =>
    match p.meet (.frame a f allow) with
    | .ok (_, p') => .frame (viewing p a f allow p') :: attend mics p' ms
    | .error _ => []

variable {mics : List AudioTrigger} {before past rest : List Happening} {p p' : Post}

/-! ## What was heard -/

/-- A moment more: a block is heard, or what was heard before is not used up. -/
theorem heard_concat (x : Happening) :
    Heard mics (past ++ [x]) ↔
      (∃ i samples m, x = .block i samples ∧ .listen i ∈ past ∧ mics[i]? = some m ∧
        m.IsLoud samples) ∨ (x.isCounted = false ∧ Heard mics past) := by
  constructor
  · rintro ⟨before, i, samples, after, m, hsplit, hlistens, hm, hloud, hafter⟩
    rcases List.eq_nil_or_concat after with rfl | ⟨after, last, rfl⟩
    · obtain ⟨rfl, hx⟩ := List.append_inj' hsplit rfl
      exact .inl ⟨i, samples, m, (List.cons.inj hx).1, hlistens, hm, hloud⟩
    · rw [List.concat_eq_append, ← List.cons_append, ← List.append_assoc] at hsplit
      obtain ⟨rfl, hx⟩ := List.append_inj' hsplit rfl
      obtain rfl := (List.cons.inj hx).1
      refine .inr ⟨hafter x (by simp), before, i, samples, after, m, rfl, hlistens, hm, hloud, ?_⟩
      exact fun y hy => hafter y (by simp [hy])
  · rintro (⟨i, samples, m, rfl, hlistens, hm, hloud⟩ | ⟨hx, hheard⟩)
    · exact ⟨past, i, samples, [], m, rfl, hlistens, hm, hloud, List.forall_mem_nil _⟩
    · obtain ⟨before, i, samples, after, m, rfl, hlistens, hm, hloud, hafter⟩ := hheard
      refine ⟨before, i, samples, after ++ [x], m, by simp, hlistens, hm, hloud, fun y hy => ?_⟩
      rcases List.mem_append.mp hy with hy | hy
      · exact hafter y hy
      · rwa [List.mem_singleton.mp hy]

theorem heard_concat_block (i : Nat) (samples : List Int) :
    Heard mics (past ++ [.block i samples]) ↔
      (∃ m, .listen i ∈ past ∧ mics[i]? = some m ∧ m.IsLoud samples) ∨ Heard mics past := by
  rw [heard_concat]
  constructor
  · rintro (⟨_, _, m, heq, h⟩ | ⟨-, h⟩)
    · cases heq
      exact .inl ⟨m, h⟩
    · exact .inr h
  · rintro (⟨m, h⟩ | h)
    · exact .inl ⟨i, samples, m, rfl, h⟩
    · exact .inr ⟨rfl, h⟩

/-- What is no block can only use up what was heard. -/
theorem heard_concat_of_ne {x : Happening} (hx : ∀ i samples, x ≠ .block i samples) :
    Heard mics (past ++ [x]) ↔ x.isCounted = false ∧ Heard mics past := by
  rw [heard_concat]
  exact or_iff_right fun ⟨i, samples, _, heq, _⟩ => hx i samples heq

/-! ## The flag -/

/-- The flag of a motion trigger is up if a notification is waiting. -/
structure Attentive (mics : List AudioTrigger) (p : Post) (past : List Happening) : Prop where
  signal : p.signal = some 0
  exists_signal : (p.exchange.signal? 0).isSome = true
  /-- The audio triggers publish through hubs of their own. -/
  hub : p.hub = mics.length
  hubs : ∀ i < mics.length, (p.exchange.hub? i).isSome = true
  deaf : p.exchange.listens 0 p.hub = false
  listens : ∀ i < mics.length, p.exchange.listens 0 i = true ↔ .listen i ∈ past
  pending : p.exchange.isPending 0 = true ↔ Heard mics past

/-- An audio trigger publishes when a block is loud enough. -/
theorem notifies_process (m : AudioTrigger) (samples : List Int) :
    Exchange.notifies (m.process samples) = true ↔ m.IsLoud samples := by
  have hhears : m.hears samples = true ↔ m.IsLoud samples := decide_eq_true_iff
  rw [← hhears]
  unfold AudioTrigger.process
  cases m.hears samples <;> exact ⟨id, id⟩

/-- A frame that is counted takes the notification, and one that is not leaves it. -/
theorem takes_processFrame {t t' : MotionTrigger} {a : Answers} {f : Frame} {allow : Bool}
    {actions : List Action} (h : t.processFrame a f allow = .ok (t', actions)) :
    Exchange.takes actions = (t.detection? a f).isSome := by
  have hessentials : Exchange.takes (essentials actions) = Exchange.takes actions :=
    any_essentials fun b hb => by cases b <;> first | rfl | cases hb
  rw [← hessentials]
  obtain ⟨hnone, -, hnil⟩ | ⟨d, q, hc⟩ := MotionTrigger.processFrame_cases h
  · rw [hnil, hnone]
    rfl
  · rw [hc.done, hc.detection?_eq]
    rfl

/-- A frame that is refused is not compared. -/
theorem detection?_of_failed {t : MotionTrigger} {a : Answers} {f : Frame} {allow : Bool}
    {r : Resized} (h : t.processFrame a f allow = .error (.failed r)) :
    t.detection? a f = none := by
  rw [MotionTrigger.detection?, MotionTrigger.processFrame_failed h]

/-- A frame is treated as if it came with a sound if a notification is found pending. -/
theorem treatedWith_signalled {a : Answers} {f : Frame} {allow : Bool} {reply : Reply}
    (h : p.meet (.frame a f allow) = .ok (reply, p')) :
    (viewing p a f allow p').TreatedWith (p.consult a).signalled := by
  unfold Post.meet at h
  dsimp only at h
  split at h
  · next step hstep =>
    obtain ⟨t, actions⟩ := step
    cases h
    obtain ⟨hnone, rfl, -⟩ | ⟨d, q, hc⟩ := MotionTrigger.processFrame_cases hstep
    · rw [Viewing.TreatedWith, viewing, hnone]
      rfl
    · rw [Viewing.TreatedWith, viewing, hc.detection?_eq]
      refine ⟨q, hc.read, ?_⟩
      show t.counters = _
      rw [hc.left]
      rfl
  · next r hr =>
    cases h
    rw [Viewing.TreatedWith, viewing, detection?_of_failed hr]
  · cases h

namespace Attentive

theorem amid (mics : List AudioTrigger) (t : MotionTrigger) :
    Attentive mics (amid mics t) [] := by
  have hhub : ∀ i, (Earshot.amid mics t).exchange.hub? i =
      if i < mics.length + 1 then some .fresh else none := by
    intro i
    show ((List.replicate mics.length (some Hub.fresh) ++ [some Hub.fresh])[i]?).join = _
    rw [← List.replicate_succ', List.getElem?_replicate]
    split <;> rfl
  have hlistens : ∀ i, (Earshot.amid mics t).exchange.listens 0 i = false := by
    intro i
    rw [Exchange.listens, hhub]
    split <;> rfl
  refine ⟨rfl, rfl, List.length_replicate, fun i hi => ?_, hlistens _, fun i _ => ?_, ?_⟩
  · rw [hhub, if_pos (Nat.lt_succ_of_lt hi)]
    rfl
  · rw [hlistens]
    constructor
    · intro hlistens
      cases hlistens
    · intro hmem
      cases hmem
  · constructor
    · intro hpending
      cases hpending
    · rintro ⟨before, i, samples, after, m, hsplit, -⟩
      cases before <;> cases hsplit

/-- What is not a request to listen leaves it as it is who is listened to. -/
theorem congr (ha : Attentive mics p past) {x : Happening} (hx : ∀ i, x ≠ .listen i)
    (hsignal : p'.signal = p.signal) (hhub : p'.hub = p.hub)
    (hexists : (p'.exchange.signal? 0).isSome = (p.exchange.signal? 0).isSome)
    (hhubs : ∀ i, (p'.exchange.hub? i).isSome = (p.exchange.hub? i).isSome)
    (hlistens : ∀ i, p'.exchange.listens 0 i = p.exchange.listens 0 i)
    (hpending : p'.exchange.isPending 0 = true ↔ Heard mics (past ++ [x])) :
    Attentive mics p' (past ++ [x]) := by
  refine ⟨hsignal.trans ha.signal, hexists.trans ha.exists_signal, hhub.trans ha.hub,
    fun i hi => (hhubs i).trans (ha.hubs i hi), ?_, fun i hi => ?_, hpending⟩
  · rw [hhub, hlistens]
    exact ha.deaf
  · rw [hlistens, ha.listens i hi, List.mem_append, List.mem_singleton]
    exact ⟨.inl, fun h => h.resolve_right fun heq => hx i heq.symm⟩

/-- A block of samples is heard if the motion trigger listens. -/
theorem block (ha : Attentive mics p past) (i : Nat) (samples : List Int) :
    Attentive mics { p with exchange := hear mics i samples p.exchange }
      (past ++ [.block i samples]) := by
  cases hm : mics[i]? with
  | none =>
    have hsame : hear mics i samples p.exchange = p.exchange := by rw [hear, hm]
    rw [hsame]
    refine ha.congr nofun rfl rfl rfl (fun _ => rfl) (fun _ => rfl) ?_
    rw [heard_concat_block, hm]
    exact ⟨fun h => .inr (ha.pending.mp h),
      fun h => ha.pending.mpr (h.resolve_left fun ⟨_, _, hnone, _⟩ => nomatch hnone)⟩
  | some m =>
    have hi : i < mics.length := (List.getElem?_eq_some_iff.mp hm).1
    have hhear : hear mics i samples p.exchange =
        p.exchange.performAll i none (m.process samples) := by rw [hear, hm]
    rw [hhear]
    refine ha.congr nofun rfl rfl Exchange.isSome_signal?_performAll
      (fun _ => Exchange.isSome_hub?_performAll) (fun _ => Exchange.listens_performAll) ?_
    rw [heard_concat_block, hm]
    show (p.exchange.performAll i none (m.process samples)).isPending 0 = true ↔ _
    rw [Exchange.isPending_performAll_other (by nofun), Bool.or_eq_true, Bool.and_eq_true,
      ha.listens i hi, notifies_process, ha.pending]
    constructor
    · rintro (h | ⟨hlistens, hloud⟩)
      · exact .inr h
      · exact .inl ⟨m, hlistens, rfl, hloud⟩
    · rintro (⟨m', hlistens, hm', hloud⟩ | h)
      · cases hm'
        exact .inr ⟨hlistens, hloud⟩
      · exact .inl h

/-- Beginning to listen is not hearing. -/
theorem listen (ha : Attentive mics p past) (i : Nat) :
    Attentive mics
      { p with exchange := p.signal.elim p.exchange fun s => Earshot.listen mics i s p.exchange }
      (past ++ [.listen i]) := by
  have hheard : Heard mics (past ++ [.listen i]) ↔ Heard mics past :=
    (heard_concat_of_ne (by nofun)).trans (and_iff_right rfl)
  rw [ha.signal]
  show Attentive mics { p with exchange := Earshot.listen mics i 0 p.exchange } _
  cases hm : mics[i]? with
  | none =>
    have hout : mics.length ≤ i := List.getElem?_eq_none_iff.mp hm
    rw [show Earshot.listen mics i 0 p.exchange = p.exchange by rw [Earshot.listen, hm]]
    refine ⟨ha.signal, ha.exists_signal, ha.hub, ha.hubs, ha.deaf, fun j hj => ?_, ?_⟩
    · rw [ha.listens j hj, List.mem_append, List.mem_singleton]
      refine ⟨.inl, fun h => h.resolve_right fun heq => ?_⟩
      cases heq
      exact absurd hj (Nat.not_lt.mpr hout)
    · rw [hheard]
      exact ha.pending
  | some m =>
    have hi : i < mics.length := (List.getElem?_eq_some_iff.mp hm).1
    rw [show Earshot.listen mics i 0 p.exchange = (p.exchange.register i 0).1 by
      rw [Earshot.listen, hm]]
    refine ⟨ha.signal, ?_, ha.hub, fun j hj => ?_, ?_, fun j hj => ?_, ?_⟩
    · show ((p.exchange.register i 0).1.signal? 0).isSome = true
      rw [Exchange.signal?_register]
      exact ha.exists_signal
    · exact Exchange.isSome_hub?_register.trans (ha.hubs j hj)
    · show (p.exchange.register i 0).1.listens 0 p.hub = false
      have hne : i ≠ p.hub := fun h => Nat.ne_of_lt hi (h.trans ha.hub)
      rw [Exchange.listens_register, ha.deaf]
      simp [hne]
    · show (p.exchange.register i 0).1.listens 0 j = true ↔ _
      rw [Exchange.listens_register, Bool.or_eq_true, ha.listens j hj, List.mem_append,
        List.mem_singleton]
      simp [ha.hubs j hj, ha.exists_signal, eq_comm]
    · rw [hheard]
      show (p.exchange.register i 0).1.isPending 0 = true ↔ _
      rw [Exchange.isPending, Exchange.signal?_register]
      exact ha.pending

/-- A frame takes the notification if it is counted. -/
theorem frame (ha : Attentive mics p past) {a : Answers} {f : Frame} {allow : Bool} {reply : Reply}
    (h : p.meet (.frame a f allow) = .ok (reply, p')) :
    Attentive mics p' (past ++ [.frame (viewing p a f allow p')]) := by
  have hheard : ∀ s : Viewing, Heard mics (past ++ [.frame s]) ↔
      s.seen.isSome = false ∧ Heard mics past := fun s => heard_concat_of_ne (by nofun)
  unfold Post.meet at h
  dsimp only at h
  split at h
  · next step hstep =>
    cases h
    refine ha.congr nofun rfl rfl Exchange.isSome_signal?_performAll
      (fun _ => Exchange.isSome_hub?_performAll) (fun _ => Exchange.listens_performAll) ?_
    rw [hheard]
    show (p.exchange.performAll p.hub p.signal step.2).isPending 0 = true ↔ _
    rw [ha.signal, Exchange.isPending_performAll_own ha.deaf, takes_processFrame hstep,
      Bool.and_eq_true, ha.pending, Bool.not_eq_true', and_comm]
    rfl
  · next r hr =>
    cases h
    refine ha.congr nofun rfl rfl rfl (fun _ => rfl) (fun _ => rfl) ?_
    rw [hheard, viewing, detection?_of_failed hr]
    exact ⟨fun h => ⟨rfl, ha.pending.mp h⟩, fun h => ha.pending.mpr h.2⟩
  · cases h

/-- A frame that is shown after `past`, when `before` had happened already. -/
theorem treatedWith (ha : Attentive mics p before) {ms : List Moment} {s : Viewing}
    (h : attend mics p ms = past ++ .frame s :: rest) :
    ∃ sound : Bool, (sound = true ↔ Heard mics (before ++ past)) ∧ s.TreatedWith sound := by
  induction ms generalizing p before past with
  | nil => cases past <;> cases h
  | cons m ms ih =>
    -- What becomes of the first moment is the frame in question, or comes before it.
    have later : ∀ {p' : Post} {x : Happening}, Attentive mics p' (before ++ [x]) →
        x :: attend mics p' ms = past ++ .frame s :: rest → past ≠ [] →
        ∃ sound : Bool, (sound = true ↔ Heard mics (before ++ past)) ∧ s.TreatedWith sound := by
      intro p' x ha' heq hpast
      obtain ⟨y, past, rfl⟩ := List.exists_cons_of_ne_nil hpast
      obtain ⟨rfl, htail⟩ := List.cons.inj heq
      have hlater := ih ha' htail
      rwa [List.append_assoc] at hlater
    cases m with
    | block i samples =>
      refine later (ha.block i samples) h ?_
      rintro rfl
      cases h
    | listen i =>
      refine later (ha.listen i) h ?_
      rintro rfl
      cases h
    | frame a f allow =>
      unfold attend at h
      split at h
      · next reply' p' hmeet =>
        by_cases hpast : past = []
        · subst hpast
          cases h
          refine ⟨(p.consult a).signalled, ?_, treatedWith_signalled hmeet⟩
          rw [List.append_nil, ← ha.pending]
          show p.signal.any p.exchange.isPending = true ↔ _
          rw [ha.signal]
          rfl
        · exact later (ha.frame hmeet) h hpast
      · cases past <;> cases h

end Attentive

/-- **A frame is treated as if it came with a sound** exactly if something was heard since the last
frame that was counted. Frames that were skipped or refused use nothing up. -/
theorem treatedWith_sound_iff_heard (mics : List AudioTrigger) (t : MotionTrigger)
    (ms : List Moment) {past rest : List Happening} {s : Viewing}
    (h : attend mics (amid mics t) ms = past ++ .frame s :: rest) :
    ∃ sound : Bool, (sound = true ↔ Heard mics past) ∧ s.TreatedWith sound :=
  (Attentive.amid mics t).treatedWith h

/-- A bang in front of a microphone, and what comes after that: something that is not loud, and a
frame of another size. -/
def bang : List Moment :=
  let answers : Answers := ⟨motionDefaults, false, false, (0.0, 0.0), .ok 3, fun _ => .ok (),
    fun _ => .refused ""⟩
  let dark : Frame := .flat 1 Frame.paintable_one 0
  let wide : Frame := ⟨2, 2, 1, .rgb, [0, 0, 0, 0, 0, 0], by decide⟩
  [.listen 0, .frame answers dark true, .block 0 [-32768, 32767], .block 0 [32767],
    .frame answers wide true, .frame answers dark true]

/-- The bang is heard in the next frame of the right size, and a recording starts. -/
theorem treatedWith_sound_iff_heard_bang :
    ∃ past s,
      attend [⟨"mic", 32768, 1, 10⟩]
        (amid [⟨"mic", 32768, 1, 10⟩] (.create "hall" "lens" (.builtin fun _ => none))) bang = past ++ [.frame s] ∧
      (∃ sound : Bool, (sound = true ↔ Heard [⟨"mic", 32768, 1, 10⟩] past) ∧
        s.TreatedWith sound) ∧
      Heard [⟨"mic", 32768, 1, 10⟩] past ∧ s.seen.isSome = true ∧ s.after.recording = true := by
  obtain ⟨dark, wide, last, h, hdark, hwide, hseen, hrecording⟩ : ∃ dark wide last : Viewing,
      attend [⟨"mic", 32768, 1, 10⟩]
        (amid [⟨"mic", 32768, 1, 10⟩] (.create "hall" "lens" (.builtin fun _ => none))) bang =
      [.listen 0, .frame dark, .block 0 [-32768, 32767], .block 0 [32767], .frame wide] ++
        [.frame last] ∧ dark.seen.isSome = true ∧ wide.seen.isSome = false ∧
      last.seen.isSome = true ∧ last.after.recording = true :=
    ⟨_, _, _, rfl, rfl, rfl, rfl, rfl⟩
  refine ⟨_, last, h, treatedWith_sound_iff_heard _ _ bang h, ?_, hseen, hrecording⟩
  refine ⟨[.listen 0, .frame dark], 0, [-32768, 32767], [.block 0 [32767], .frame wide], _, rfl,
    .head _, rfl, ?_, ?_⟩
  · show 1 ≤ _
    decide
  · rw [List.forall_mem_cons, List.forall_mem_singleton]
    exact ⟨rfl, hwide⟩

end Earshot

end MotionWatch
