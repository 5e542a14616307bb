import MotionWatch.Proofs.Trigger.Follower

/-!
# Starts and episodes

A trigger that is followed has episodes: it begins to record, which it publishes, perhaps publishes
more, and stops recording. A follower should not start its targets more often than there are
episodes. Without frames from before a recording it does not. With them it may: a notification that
comes during a recording is left behind when the recording stops in a round without a frame, and
starts another recording with the next frame.

* `Beat`: what happens around a follower with one link, and its rounds.
* `Status`: what matters of a follower; `Shows.beat`: every beat has its effect on that.
* `Leaky`: the patterns of frames with which a notification can be left behind.
* `Tracked.starts_le`: without such a pattern there are not too many starts;
  `exists_beats_of_leaky`: with one there can be.
* `starts_le_episodes_iff`: there are never more starts than episodes, exactly if the pattern is not
  leaky or no frames are kept.
-/

namespace MotionWatch

/-- What happens around a follower. -/
inductive Beat where
  /-- An episode begins. -/
  | begin (subject : String)
  /-- There is another notification in an episode. -/
  | again (subject : String)
  /-- An episode ends. -/
  | finish
  /-- The follower goes through a round, perhaps with a frame, and as the schedule allows. -/
  | step (answers : Answers) (frame : Option Frame) (allow : Bool)

/-- What a round gets: perhaps a frame, and the word of the schedule. -/
abbrev Delivery := Option Frame × Bool

/-- What a round gets. -/
def Beat.delivery? : Beat → Option Delivery
  | step _ frame allow => some (frame, allow)
  | _ => none

/-- What the rounds get, in their order. -/
def deliveries (beats : List Beat) : List Delivery := beats.filterMap Beat.delivery?

/-- Whether an episode begins. -/
def Beat.begins : Beat → Bool
  | begin _ => true
  | _ => false

/-- The number of episodes. -/
def episodes (beats : List Beat) : Nat := beats.countP Beat.begins

namespace Follower

/-- The trigger that is followed does something, if it is its turn: before, it reports `on`. -/
def hear (link : Nat) (c : Follower) (on : Bool) (l : List Action) : Option Follower :=
  if c.exchange.motion link = on then some (c.overhear link none l) else none

/-- One beat of a follower with one link, unless it is out of turn or the program crashes. Episodes
do not overlap, and there is nothing to finish or to publish between them. -/
def beat (link : Nat) (c : Follower) : Beat → Option Follower
  | .begin subject => c.hear link false [.setMotion true, .notify subject]
  | .again subject => c.hear link true [.notify subject]
  | .finish => c.hear link true [.setMotion false]
  | .step a frame allow => c.step a frame allow

/-- Beats one after the other. -/
def beats (link : Nat) (c : Follower) : List Beat → Option Follower
  | [] => some c
  | b :: bs => (c.beat link b).bind fun c => c.beats link bs

/-- How often target `i` was started. -/
def startsOf (i : Nat) (c : Follower) : Nat := (targetCalls i c.trace).count .start

end Follower

/-! ## What matters -/

/-- What matters of a follower with one link. -/
structure Status where
  recording : Bool
  /-- The link reports motion. -/
  motion : Bool
  /-- There is a notification. -/
  pending : Bool
  /-- How often a target was started. -/
  starts : Nat
  deriving DecidableEq, Repr

namespace Status

/-- A round, in which the notification is looked at or is not. -/
def round (s : Status) (wakened allow : Bool) : Status :=
  let starts := wakened && (s.pending && !s.recording && allow)
  { recording := (s.recording || starts) && s.motion
    motion := s.motion
    pending := s.pending && !wakened
    starts := s.starts + if starts then 1 else 0 }

/-- The trigger that is followed does something, if it is its turn. -/
def hear (s : Status) (on : Bool) (l : List Action) : Option Status :=
  if s.motion = on then
    some { s with motion := motionAfter s.motion l, pending := s.pending || Exchange.notifies l }
  else none

/-- One beat, unless it is out of turn. -/
def beat (keepsFrames : Bool) (s : Status) : Beat → Option Status
  | .begin subject => s.hear false [.setMotion true, .notify subject]
  | .again subject => s.hear true [.notify subject]
  | .finish => s.hear true [.setMotion false]
  | .step _ frame allow => some (s.round (!keepsFrames || frame.isSome) allow)

/-- Beats one after the other. -/
def beats (keepsFrames : Bool) (s : Status) : List Beat → Option Status
  | [] => some s
  | b :: bs => (s.beat keepsFrames b).bind fun s => s.beats keepsFrames bs

end Status

namespace Follower

variable {c c' : Follower} {link i : Nat}

/-- What matters of a follower. -/
def status (link i : Nat) (c : Follower) : Status :=
  ⟨c.trigger.recording, c.exchange.motion link, c.isPending, c.startsOf i⟩

/-- A follower with one link. -/
structure Linked (link : Nat) (c : Follower) : Prop where
  wired : c.Wired
  upstream : c.upstream = [link]
  exists_hub : (c.exchange.hub? link).isSome = true

theorem Linked.reports_eq (h : c.Linked link) : c.reports = c.exchange.motion link := by
  rw [reports, h.upstream]
  exact Bool.or_false _

/-- What the other trigger does, the follower gets to know. -/
theorem Linked.overhear (h : c.Linked link) (l : List Action) :
    (c.overhear link none l).Linked link ∧
      (c.overhear link none l).status link i =
        { c.status link i with
          motion := motionAfter (c.exchange.motion link) l
          pending := c.isPending || Exchange.notifies l } := by
  have hhears := h.wired.hears link (h.upstream ▸ List.mem_singleton_self link) h.exists_hub
  refine ⟨⟨h.wired.overhear link none l, h.upstream, ?_⟩, ?_⟩
  · exact Exchange.isSome_hub?_performAll.trans h.exists_hub
  · have hmotion : (c.exchange.performAll link none l).motion link =
        motionAfter (c.exchange.motion link) l := Exchange.motion_performAll h.exists_hub
    have hpending : (c.exchange.performAll link none l).isPending c.signal =
        (c.exchange.isPending c.signal || Exchange.notifies l) := by
      have hne : (none : Option Nat) ≠ some c.signal := nofun
      rw [Exchange.isPending_performAll_other hne, hhears, Bool.true_and]
    unfold status isPending
    rw [← hmotion, ← hpending]
    rfl

theorem targetCalls_deeds {frame : Option Frame} {allow : Bool} {frames : List Frame}
    (hi : i < c.trigger.targets) :
    targetCalls i (c.deeds frame allow frames) =
      (if c.starts frame allow then [.start] else []) ++
        if c.stops frame allow then [.stop] else [] := by
  rw [deeds, targetCalls_append, targetCalls_append]
  have htake : targetCalls i (if c.trigger.wakened frame then [.takeSignal] else []) = [] := by
    split <;> rfl
  have hopening : targetCalls i (c.trigger.opening frames) = [.start] := by
    rw [CascadingTrigger.opening, targetCalls_append, targetCalls_startTargets, if_pos hi]
    rfl
  have hclosing : targetCalls i c.trigger.closing = [.stop] := by
    rw [CascadingTrigger.closing, targetCalls_append, targetCalls_stopTargets, if_pos hi]
    rfl
  rw [htake, List.nil_append, apply_ite (targetCalls i), apply_ite (targetCalls i), hopening,
    hclosing]
  rfl

/-- A round has its effect on what matters. -/
theorem Linked.stepped {frame : Option Frame} {allow : Bool} {frames : List Frame}
    (h : c.Linked link) (hi : i < c.trigger.targets) (hs : c.Stepped frame allow c' frames) :
    c'.Linked link ∧
      c'.status link i = (c.status link i).round (c.trigger.wakened frame) allow := by
  have hupstream : c'.upstream = [link] := by
    rw [hs.left]
    exact h.upstream
  have hlinked : c'.Linked link := by
    refine ⟨hs.wired h.wired, hupstream, ?_⟩
    rw [hs.left]
    exact Exchange.isSome_hub?_performAll.trans h.exists_hub
  refine ⟨hlinked, ?_⟩
  have hreports := hs.reports_eq h.wired
  have hrecording : c'.trigger.recording =
      ((c.trigger.recording || c.starts frame allow) && c.reports) := by
    rw [hs.trigger]
  rw [hlinked.reports_eq, h.reports_eq] at hreports
  rw [h.reports_eq] at hrecording
  have hcount : c'.startsOf i = c.startsOf i + if c.starts frame allow then 1 else 0 := by
    unfold startsOf
    rw [← targetCalls_essentials, hs.trace, targetCalls_append, targetCalls_essentials,
      targetCalls_deeds hi, List.count_append]
    cases c.starts frame allow <;> cases c.stops frame allow <;> rfl
  unfold status Status.round
  rw [hs.isPending_eq h.wired, hreports, hrecording, hcount]
  rfl

/-- A follower whose link is `link`, and whose status is `s`. -/
structure Shows (link i : Nat) (keepsFrames : Bool) (s : Status) (c : Follower) : Prop where
  linked : c.Linked link
  target : i < c.trigger.targets
  keepsFrames : c.trigger.keepsFrames = keepsFrames
  status : c.status link i = s

namespace Shows

variable {keepsFrames : Bool} {s s' : Status} {b : Beat}

theorem hear {on : Bool} {l : List Action} (h : c.Shows link i keepsFrames s)
    (hc : c.hear link on l = some c') :
    ∃ s', s.hear on l = some s' ∧ c'.Shows link i keepsFrames s' := by
  obtain ⟨hlinked, htarget, hkeeps, rfl⟩ := h
  unfold Follower.hear at hc
  split at hc
  · next hon =>
    obtain rfl := Option.some.inj hc
    obtain ⟨hlinked', hstatus⟩ := hlinked.overhear (i := i) l
    exact ⟨_, if_pos hon, hlinked', htarget, hkeeps, hstatus⟩
  · cases hc

/-- **Every beat has its effect on what matters.** -/
theorem beat (h : c.Shows link i keepsFrames s) (hc : c.beat link b = some c') :
    ∃ s', s.beat keepsFrames b = some s' ∧ c'.Shows link i keepsFrames s' := by
  cases b with
  | begin subject => exact h.hear hc
  | again subject => exact h.hear hc
  | finish => exact h.hear hc
  | step a frame allow =>
    obtain ⟨hlinked, htarget, rfl, rfl⟩ := h
    obtain ⟨frames, hs⟩ := stepped hc
    obtain ⟨hlinked', hstatus⟩ := hlinked.stepped htarget hs
    refine ⟨_, rfl, hlinked', ?_, ?_, hstatus⟩
    · rw [hs.trigger]
      exact htarget
    · rw [hs.trigger]

/-- So have several. -/
theorem beats {bs : List Beat} (h : c.Shows link i keepsFrames s)
    (hc : c.beats link bs = some c') :
    ∃ s', s.beats keepsFrames bs = some s' ∧ c'.Shows link i keepsFrames s' := by
  induction bs generalizing c s with
  | nil =>
    obtain rfl := Option.some.inj hc
    exact ⟨s, rfl, h⟩
  | cons b bs ih =>
    obtain ⟨c₁, hb, hbs⟩ := Option.bind_eq_some_iff.mp hc
    obtain ⟨s₁, hs, h₁⟩ := h.beat hb
    obtain ⟨s₂, hs₂, h₂⟩ := ih h₁ hbs
    exact ⟨s₂, Option.bind_eq_some_iff.mpr ⟨s₁, hs, hs₂⟩, h₂⟩

end Shows

/-- A follower that was just connected. -/
theorem shows_join {e : Exchange} {t : CascadingTrigger} (hlink : (e.hub? link).isSome = true)
    (hquiet : e.motion link = false) (hrecording : t.recording = false) (hi : i < t.targets) :
    (join e t [link]).Shows link i t.keepsFrames ⟨false, false, false, 0⟩ := by
  have hlt : link < e.hubs.length := by
    refine Nat.lt_of_not_le fun h => ?_
    rw [Exchange.hub?_eq_none h] at hlink
    cases hlink
  refine ⟨⟨wired_join fun hub hm => ?_, rfl, ?_⟩, hi, rfl, ?_⟩
  · rw [List.mem_singleton.mp hm]
    exact hlt
  · rw [join_eq]
    show ((e.addHub.1.addSignal.1.subscribe e.signals.length [link]).1.hub? link).isSome = true
    rw [(Exchange.subscribe_frame [link]).2.1, Exchange.hub?_addSignal, Exchange.hub?_addHub,
      if_neg (Nat.ne_of_lt hlt)]
    exact hlink
  · unfold status
    rw [isPending_join, motion_join (Nat.ne_of_lt hlt), hquiet]
    show (⟨t.recording, false, false, 0⟩ : Status) = _
    rw [hrecording]

end Follower

/-! ## Leaky patterns -/

/-- A recording may have been started with one of the frames. -/
def Seen (q : List Delivery) : Prop := ∃ f, (some f, true) ∈ q

/-- After that there was no frame, and there has not been any since. -/
def Gap (q : List Delivery) : Prop :=
  ∃ q₁ allow q₂, q = q₁ ++ (none, allow) :: q₂ ∧ Seen q₁ ∧ ∀ d ∈ q₂, d.1 = none

/-- The next frame after a gap may start a recording again. -/
def Leaky (p : List Delivery) : Prop := ∃ q f rest, p = q ++ (some f, true) :: rest ∧ Gap q

section Patterns

variable {q : List Delivery} {allow : Bool}

theorem Seen.append (h : Seen q) (p : List Delivery) : Seen (q ++ p) := by
  obtain ⟨f, hf⟩ := h
  exact ⟨f, List.mem_append_left p hf⟩

theorem Seen.gap (h : Seen q) : Gap (q ++ [(none, allow)]) :=
  ⟨q, allow, [], rfl, h, nofun⟩

theorem Gap.append (h : Gap q) : Gap (q ++ [(none, allow)]) := by
  obtain ⟨q₁, allow₁, q₂, rfl, hseen, hnone⟩ := h
  refine ⟨q₁, allow₁, q₂ ++ [(none, allow)], by simp, hseen, fun d hd => ?_⟩
  rcases List.mem_append.mp hd with hd | hd
  · exact hnone d hd
  · rw [List.mem_singleton.mp hd]

end Patterns

namespace Status

variable {n : Nat} {stale allow keepsFrames : Bool} {s s' : Status}

/-- With `n` episodes so far, there are not too many starts, not even if a recording is about to be
started. Only a stale notification may start one too many. -/
structure Bounded (n : Nat) (stale : Bool) (s : Status) : Prop where
  starts : s.starts ≤ n
  motion : s.recording = false → s.motion = true → s.starts < n
  pending : s.recording = false → s.pending = true → stale = false → s.starts < n

namespace Bounded

theorem begin (h : s.Bounded n stale) {subject : String}
    (hs : s.hear false [.setMotion true, .notify subject] = some s') :
    s'.Bounded (n + 1) stale := by
  unfold hear at hs
  split at hs
  · obtain rfl := Option.some.inj hs
    have := h.starts
    exact ⟨Nat.le_succ_of_le this, fun _ _ => Nat.lt_succ_of_le this,
      fun _ _ _ => Nat.lt_succ_of_le this⟩
  · cases hs

theorem again (h : s.Bounded n stale) {subject : String}
    (hs : s.hear true [.notify subject] = some s') : s'.Bounded n stale := by
  unfold hear at hs
  split at hs
  · next hon =>
    obtain rfl := Option.some.inj hs
    exact ⟨h.starts, h.motion, fun hrec _ _ => h.motion hrec hon⟩
  · cases hs

theorem finish (h : s.Bounded n stale) (hs : s.hear true [.setMotion false] = some s') :
    s'.Bounded n stale := by
  unfold hear at hs
  split at hs
  · obtain rfl := Option.some.inj hs
    refine ⟨h.starts, fun _ hon => absurd hon Bool.false_ne_true,
      fun hrec hpending => h.pending hrec ?_⟩
    simpa [Exchange.notifies, Action.subject?] using hpending
  · cases hs

/-- A round that looks at the notification leaves none behind. -/
theorem wakened (h : s.Bounded n stale) (hstale : stale = true → allow = false) :
    (s.round true allow).Bounded n false := by
  obtain ⟨recording, motion, pending, starts⟩ := s
  have hstarts : starts ≤ n := h.starts
  cases recording with
  | true =>
    have hround : (⟨true, motion, pending, starts⟩ : Status).round true allow =
        ⟨motion, motion, false, starts⟩ := by simp [round]
    rw [hround]
    exact ⟨hstarts, fun hrec hon => absurd (hrec.symm.trans hon) Bool.false_ne_true, nofun⟩
  | false =>
    cases hst : pending && allow with
    | false =>
      have hround : (⟨false, motion, pending, starts⟩ : Status).round true allow =
          ⟨false, motion, false, starts⟩ := by simp [round, hst]
      rw [hround]
      exact ⟨hstarts, fun _ hon => h.motion rfl hon, nofun⟩
    | true =>
      obtain ⟨rfl, rfl⟩ := Bool.and_eq_true_iff.mp hst
      -- The notification is not stale, so there has been an episode for it.
      have hfresh : stale = false := by
        cases stale with
        | false => rfl
        | true => cases hstale rfl
      have hlt : starts < n := h.pending rfl rfl hfresh
      exact ⟨hlt, fun hrec hon => absurd (hrec.symm.trans hon) Bool.false_ne_true, nofun⟩

/-- A round that waits for a frame in vain leaves a notification behind if it stops a recording. -/
theorem waited {stale' : Bool} (h : s.Bounded n stale) (hstale : stale = true → stale' = true)
    (hrecording : s.recording = true → stale' = true) :
    (s.round false allow).Bounded n stale' := by
  obtain ⟨recording, motion, pending, starts⟩ := s
  have hround : (⟨recording, motion, pending, starts⟩ : Status).round false allow =
      ⟨recording && motion, motion, pending, starts⟩ := by simp [round]
  rw [hround]
  refine ⟨h.starts, fun hrec hon => ?_, fun _ hpending hfresh => ?_⟩
  · obtain rfl : motion = true := hon
    exact h.motion ((Bool.and_true recording).symm.trans hrec) rfl
  · refine h.pending ?_ hpending ?_
    · cases recording with
      | false => rfl
      | true => exact absurd (hfresh.symm.trans (hrecording rfl)) Bool.false_ne_true
    · cases stale with
      | false => rfl
      | true => exact absurd (hfresh.symm.trans (hstale rfl)) Bool.false_ne_true

end Bounded

theorem recording_hear {on : Bool} {l : List Action} (hs : s.hear on l = some s') :
    s'.recording = s.recording := by
  unfold hear at hs
  split at hs
  · obtain rfl := Option.some.inj hs
    rfl
  · cases hs

/-- What is known of a follower after `n` episodes, whose rounds got `q`. -/
structure Tracked (keepsFrames : Bool) (q : List Delivery) (n : Nat) (stale : Bool) (s : Status) :
    Prop where
  bounded : s.Bounded n stale
  stale : stale = true → keepsFrames = true ∧ Gap q
  seen : keepsFrames = true → s.recording = true → Seen q

/-- What the other trigger does has no effect on the recording. -/
theorem Tracked.hear {q : List Delivery} {on : Bool} {l : List Action} {n' : Nat}
    (h : s.Tracked keepsFrames q n stale) (hs : s.hear on l = some s')
    (hbounded : s'.Bounded n' stale) : s'.Tracked keepsFrames q n' stale := by
  refine ⟨hbounded, h.stale, fun hk hrec => h.seen hk ?_⟩
  rwa [recording_hear hs] at hrec

/-- A round, unless it makes the pattern leaky. -/
theorem Tracked.round {q rest : List Delivery} {frame : Option Frame}
    (h : s.Tracked keepsFrames q n stale)
    (hgood : keepsFrames = false ∨ ¬Leaky (q ++ (frame, allow) :: rest)) :
    ∃ stale', (s.round (!keepsFrames || frame.isSome) allow).Tracked keepsFrames
      (q ++ [(frame, allow)]) n stale' := by
  cases hw : !keepsFrames || frame.isSome with
  | true =>
    refine ⟨false, h.bounded.wakened fun hs => ?_, nofun, fun hk hrec => ?_⟩
    · -- With a stale notification, the frame could start a recording after a gap.
      obtain ⟨rfl, hgap⟩ := h.stale hs
      obtain ⟨f, rfl⟩ := Option.isSome_iff_exists.mp hw
      cases allow with
      | false => rfl
      | true =>
        rcases hgood with hk | hgood
        · cases hk
        · exact absurd ⟨q, f, rest, rfl, hgap⟩ hgood
    · subst hk
      obtain ⟨f, rfl⟩ := Option.isSome_iff_exists.mp hw
      cases hr : s.recording with
      | true => exact (h.seen rfl hr).append _
      | false =>
        have hstarts : allow = true := by
          cases allow with
          | true => rfl
          | false => simp [Status.round, hr] at hrec
        rw [hstarts]
        exact ⟨f, List.mem_append_right q (List.mem_singleton_self _)⟩
  | false =>
    obtain ⟨hk, hf⟩ := Bool.or_eq_false_iff.mp hw
    obtain rfl : keepsFrames = true := by simpa using hk
    obtain rfl : frame = none := by simpa using hf
    refine ⟨stale || s.recording, h.bounded.waited ?_ ?_, fun hs => ⟨rfl, ?_⟩, fun _ hrec => ?_⟩
    · exact fun hs => by rw [hs, Bool.true_or]
    · exact fun hs => by rw [hs, Bool.or_true]
    · rcases Bool.or_eq_true_iff.mp hs with hs | hrec
      · exact (h.stale hs).2.append
      · exact (h.seen rfl hrec).gap
    · refine (h.seen rfl ?_).append _
      cases hr : s.recording with
      | true => rfl
      | false => simp [Status.round, hr] at hrec

/-- **There are not too many starts**, if frames are not kept or the pattern is not leaky. -/
theorem Tracked.starts_le {bs : List Beat} {q : List Delivery}
    (h : s.Tracked keepsFrames q n stale)
    (hgood : keepsFrames = false ∨ ¬Leaky (q ++ deliveries bs))
    (hs : s.beats keepsFrames bs = some s') : s'.starts ≤ n + episodes bs := by
  induction bs generalizing s q n stale with
  | nil =>
    obtain rfl := Option.some.inj hs
    exact h.bounded.starts
  | cons b bs ih =>
    obtain ⟨s₁, hb, hbs⟩ := Option.bind_eq_some_iff.mp hs
    cases b with
    | begin subject =>
      have hle := ih (h.hear hb (h.bounded.begin hb)) hgood hbs
      have hn : episodes (.begin subject :: bs) = episodes bs + 1 := List.countP_cons_of_pos rfl
      omega
    | again subject => exact ih (h.hear hb (h.bounded.again hb)) hgood hbs
    | finish => exact ih (h.hear hb (h.bounded.finish hb)) hgood hbs
    | step a frame allow =>
      obtain rfl := Option.some.inj hb
      change keepsFrames = false ∨ ¬Leaky (q ++ (frame, allow) :: deliveries bs) at hgood
      obtain ⟨stale', h'⟩ := h.round hgood
      rw [List.append_cons] at hgood
      exact ih h' hgood hbs

/-! ## A start too many -/

theorem beats_append {bs bs' : List Beat} :
    s.beats keepsFrames (bs ++ bs') = (s.beats keepsFrames bs).bind fun s =>
      s.beats keepsFrames bs' := by
  induction bs generalizing s with
  | nil => rfl
  | cons b bs ih =>
    show (s.beat keepsFrames b).bind _ = ((s.beat keepsFrames b).bind _).bind _
    rw [Option.bind_assoc]
    exact congrArg (Option.bind _) (funext fun s => ih)

/-- Rounds one after the other, in which the follower is told `a`. -/
def rounds (a : Answers) (p : List Delivery) : List Beat := p.map fun d => .step a d.1 d.2

variable {a : Answers} {p : List Delivery}

theorem deliveries_append {bs bs' : List Beat} :
    deliveries (bs ++ bs') = deliveries bs ++ deliveries bs' := List.filterMap_append

theorem episodes_append {bs bs' : List Beat} :
    episodes (bs ++ bs') = episodes bs + episodes bs' := List.countP_append

theorem answers_of_mem_rounds {a' : Answers} {frame : Option Frame}
    (h : .step a' frame allow ∈ rounds a p) : a' = a := by
  obtain ⟨d, -, hd⟩ := List.mem_map.mp h
  exact (Beat.step.inj hd).1.symm

theorem deliveries_rounds : deliveries (rounds a p) = p := by
  rw [deliveries, rounds, List.filterMap_map]
  exact List.filterMap_some

theorem episodes_rounds : episodes (rounds a p) = 0 := by
  rw [episodes, List.countP_eq_zero]
  intro b hb
  obtain ⟨d, -, rfl⟩ := List.mem_map.mp hb
  exact Bool.false_ne_true

/-- In some states nothing happens. -/
theorem beats_rounds_of_fixed (h : ∀ d ∈ p, s.round d.1.isSome d.2 = s) :
    s.beats true (rounds a p) = some s := by
  induction p with
  | nil => rfl
  | cons d p ih =>
    show (some (s.round d.1.isSome d.2)).bind _ = some s
    rw [h d List.mem_cons_self, Option.bind_some]
    exact ih fun d hd => h d (List.mem_cons_of_mem _ hd)

theorem beats_rounds (p : List Delivery) (s : Status) :
    ∃ s', s.beats true (rounds a p) = some s' ∧ s.starts ≤ s'.starts := by
  induction p generalizing s with
  | nil => exact ⟨s, rfl, Nat.le_refl _⟩
  | cons d p ih =>
    obtain ⟨s', hs, hle⟩ := ih (s.round d.1.isSome d.2)
    exact ⟨s', hs, Nat.le_trans (Nat.le_add_right _ _) hle⟩

/-- **With a leaky pattern there can be two starts in one episode.** -/
theorem exists_beats_of_leaky (a : Answers) (hp : Leaky p) :
    ∃ bs s', deliveries bs = p ∧ (∀ a' frame allow, .step a' frame allow ∈ bs → a' = a) ∧
      (⟨false, false, false, 0⟩ : Status).beats true bs = some s' ∧ episodes bs < s'.starts := by
  obtain ⟨_, f', rest, rfl, q₁, allow, q₂, rfl, ⟨f, hf⟩, hnone⟩ := hp
  obtain ⟨p₁, p₂, rfl⟩ := List.append_of_mem hf
  obtain ⟨s', hrest, hle⟩ := beats_rounds (a := a) rest ⟨false, false, false, 2⟩
  -- At first nothing is recorded.
  have hbefore : (⟨false, false, false, 0⟩ : Status).beats true (rounds a p₁) =
      some ⟨false, false, false, 0⟩ := by
    refine beats_rounds_of_fixed fun d _ => ?_
    simp [round]
  -- The episode is recorded, and everything that is published in it is noticed.
  have hduring : (⟨true, true, false, 1⟩ : Status).beats true (rounds a p₂) =
      some ⟨true, true, false, 1⟩ := by
    refine beats_rounds_of_fixed fun d _ => ?_
    simp [round]
  -- What is published last in the episode is not.
  have hafter : (⟨false, false, true, 1⟩ : Status).beats true (rounds a q₂) =
      some ⟨false, false, true, 1⟩ := by
    refine beats_rounds_of_fixed fun d hd => ?_
    rw [hnone d hd]
    rfl
  have hend : (⟨true, false, true, 1⟩ : Status).beats true
      (rounds a ((none, allow) :: (q₂ ++ (some f', true) :: rest))) = some s' := by
    show (⟨false, false, true, 1⟩ : Status).beats true
      (rounds a (q₂ ++ (some f', true) :: rest)) = some s'
    rw [rounds, List.map_append]
    show (⟨false, false, true, 1⟩ : Status).beats true (rounds a q₂ ++ _) = some s'
    rw [beats_append, hafter]
    exact hrest
  have hmiddle : (⟨false, true, true, 0⟩ : Status).beats true
      (rounds a ((some f, true) :: p₂) ++ (.again "" :: .finish ::
        rounds a ((none, allow) :: (q₂ ++ (some f', true) :: rest)))) = some s' := by
    show (⟨true, true, false, 1⟩ : Status).beats true (rounds a p₂ ++ _) = some s'
    rw [beats_append, hduring]
    exact hend
  refine ⟨rounds a p₁ ++ .begin "" :: (rounds a ((some f, true) :: p₂) ++ (.again "" :: .finish ::
    rounds a ((none, allow) :: (q₂ ++ (some f', true) :: rest)))), s', ?_, ?_, ?_, ?_⟩
  · rw [deliveries_append, deliveries_rounds]
    show p₁ ++ deliveries (rounds a ((some f, true) :: p₂) ++ _) = _
    rw [deliveries_append, deliveries_rounds]
    show p₁ ++ ((some f, true) :: p₂ ++ deliveries (rounds a _)) = _
    rw [deliveries_rounds]
    simp
  · intro a' frame allow' hm
    simp only [List.mem_append, List.mem_cons, reduceCtorEq, false_or] at hm
    rcases hm with hm | hm | hm
    · exact answers_of_mem_rounds hm
    · exact answers_of_mem_rounds hm
    · exact answers_of_mem_rounds hm
  · rw [beats_append, hbefore]
    exact hmiddle
  · have hone : episodes (rounds a p₁ ++ .begin "" :: (rounds a ((some f, true) :: p₂) ++
        (.again "" :: .finish :: rounds a ((none, allow) :: (q₂ ++ (some f', true) :: rest))))) =
          1 := by
      rw [episodes_append, episodes_rounds]
      show 0 + episodes (.begin "" :: (rounds a _ ++ _)) = 1
      rw [episodes, List.countP_cons_of_pos rfl]
      show 0 + (episodes (rounds a _ ++ _) + 1) = 1
      rw [episodes_append, episodes_rounds]
      show 0 + (0 + episodes (rounds a _) + 1) = 1
      rw [episodes_rounds]
    rw [hone]
    exact hle

end Status

namespace Follower

variable {c c' : Follower} {link i : Nat} {keepsFrames : Bool} {s s' : Status}

namespace Shows

theorem exists_hear {on : Bool} {l : List Action} (h : c.Shows link i keepsFrames s)
    (hs : s.hear on l = some s') : ∃ c', c.hear link on l = some c' := by
  unfold Status.hear at hs
  split at hs
  · next hon =>
    rw [← h.status] at hon
    exact ⟨_, if_pos hon⟩
  · cases hs

/-- A beat that is not out of turn happens, if a round can look up how many frames to keep. -/
theorem exists_beat {b : Beat} (h : c.Shows link i keepsFrames s)
    (hb : ∀ a frame allow, b = .step a frame allow →
      ∃ n, a.params.getInt ParameterName.preRecordDuration = .ok n)
    (hs : s.beat keepsFrames b = some s') :
    ∃ c', c.beat link b = some c' ∧ c'.Shows link i keepsFrames s' := by
  have hsome : ∃ c', c.beat link b = some c' := by
    cases b with
    | begin subject => exact h.exists_hear hs
    | again subject => exact h.exists_hear hs
    | finish => exact h.exists_hear hs
    | step a frame allow =>
      obtain ⟨n, hn⟩ := hb a frame allow rfl
      exact step_isSome hn
  obtain ⟨c', hc⟩ := hsome
  obtain ⟨s₁, hs₁, h'⟩ := h.beat hc
  obtain rfl := Option.some.inj (hs₁.symm.trans hs)
  exact ⟨c', hc, h'⟩

theorem exists_beats {bs : List Beat} (h : c.Shows link i keepsFrames s)
    (hbs : ∀ a frame allow, .step a frame allow ∈ bs →
      ∃ n, a.params.getInt ParameterName.preRecordDuration = .ok n)
    (hs : s.beats keepsFrames bs = some s') :
    ∃ c', c.beats link bs = some c' ∧ c'.Shows link i keepsFrames s' := by
  induction bs generalizing c s with
  | nil =>
    obtain rfl := Option.some.inj hs
    exact ⟨c, rfl, h⟩
  | cons b bs ih =>
    obtain ⟨s₁, hb, hs₁⟩ := Option.bind_eq_some_iff.mp hs
    obtain ⟨c₁, hc₁, h₁⟩ := h.exists_beat
      (fun a frame allow he => hbs a frame allow (he ▸ List.mem_cons_self)) hb
    obtain ⟨c₂, hc₂, h₂⟩ := ih h₁
      (fun a frame allow hm => hbs a frame allow (List.mem_cons_of_mem _ hm)) hs₁
    exact ⟨c₂, Option.bind_eq_some_iff.mpr ⟨c₁, hc₁, hc₂⟩, h₂⟩

end Shows

/-- What a follower is told while its parameters have their first values. -/
def told : Answers :=
  ⟨cascadeDefaults, false, false, (0.0, 0.0), .ok 0, fun _ => .ok (), fun _ => .refused ""⟩

theorem getInt_told : told.params.getInt ParameterName.preRecordDuration = .ok 0 := by
  rfl

/-- **There are never more starts than episodes, exactly if** no frames are kept or the pattern is
not leaky. -/
theorem starts_le_episodes_iff (e : Exchange) (link i : Nat) (t : CascadingTrigger)
    (hlink : (e.hub? link).isSome = true) (hquiet : e.motion link = false)
    (hrecording : t.recording = false) (hi : i < t.targets) (p : List Delivery) :
    (∀ bs c, deliveries bs = p → (join e t [link]).beats link bs = some c →
      c.startsOf i ≤ episodes bs) ↔ t.keepsFrames = false ∨ ¬Leaky p := by
  have hjoin := shows_join hlink hquiet hrecording hi
  constructor
  · intro hall
    refine Decidable.or_iff_not_imp_left.mpr fun hk hleaky => ?_
    have hk : t.keepsFrames = true := by simpa using hk
    obtain ⟨bs, s, hp, htold, hs, hlt⟩ := Status.exists_beats_of_leaky told hleaky
    obtain ⟨c, hc, hshows⟩ := hjoin.exists_beats
      (fun a frame allow hm => ⟨0, htold a frame allow hm ▸ getInt_told⟩) (hk ▸ hs)
    have hle := hall bs c hp hc
    rw [← hshows.status] at hlt
    exact Nat.not_le_of_gt hlt hle
  · intro hgood bs c hp hc
    subst hp
    obtain ⟨s, hs, hc⟩ := hjoin.beats hc
    have htracked : (⟨false, false, false, 0⟩ : Status).Tracked t.keepsFrames [] 0 false :=
      ⟨⟨Nat.le_refl _, nofun, nofun⟩, nofun, nofun⟩
    have hle := htracked.starts_le (q := []) hgood hs
    rw [← hc.status, Nat.zero_add] at hle
    exact hle

/-- Without frames from before a recording there are never too many starts. -/
theorem starts_le_episodes_waiting :
    let e : Exchange := ⟨[some .fresh], [], []⟩
    let t : CascadingTrigger := ⟨"hd", "hdlens", 1, false, false, .empty, 0⟩
    (e.hub? 0).isSome = true ∧ e.motion 0 = false ∧ t.recording = false ∧ 0 < t.targets ∧
      ∀ p bs c, deliveries bs = p → (join e t [0]).beats 0 bs = some c →
        c.startsOf 0 ≤ episodes bs := by
  intro e t
  refine ⟨rfl, rfl, rfl, Nat.one_pos, fun p => ?_⟩
  exact (starts_le_episodes_iff e 0 0 t rfl rfl rfl Nat.one_pos p).mpr (.inl rfl)

/-- The second notification of an episode comes before its end, but the follower has no frame in the
round after that. With the next frame it starts to record once more. -/
theorem two_starts_in_one_episode :
    let params := ParameterSet.empty.declare ParameterName.preRecordDuration "" (.int 2)
    let f : Frame := ⟨0, 1, 1, .rgb, [0, 0, 0], by decide⟩
    let bs : List Beat := [.begin "lores", .step { told with params } (some f) true,
      .again "lores", .finish, .step { told with params } none true,
      .step { told with params } (some f) true]
    ∃ c, (join ⟨[some .fresh], [], []⟩ ⟨"hd", "hdlens", 1, true, false, .empty, 0⟩ [0]).beats 0 bs =
        some c ∧ c.startsOf 0 = 2 ∧ episodes bs = 1 := by
  intro params f bs
  refine ⟨_, rfl, ?_, rfl⟩
  decide

end Follower

end MotionWatch
