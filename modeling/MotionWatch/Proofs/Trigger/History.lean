import MotionWatch.Proofs.Trigger.Reaction

/-!
# The rule of a motion trigger

A motion trigger keeps three counters. Here is the rule that they implement, which has no counters:
it looks back at all the frames that were counted before.

* `Past.next`: what the rule says about a frame. A frame is ignored if it comes soon after a stop.
  Motion on enough frames in a row is published, and starts a recording if none is running. Quiet
  frames in a row, if they are too many, stop the recording.
* `Agrees`: what counters have to do with the past. `Agrees.advance`: one frame keeps that, and the
  verdict on the frame is what the rule says.
* `Observed.input`: what the rule looks at in a call: whether its frame counts as motion, and the
  limits that stand in the parameters then.
* `effects_attend`: in every sequence of calls, what a trigger publishes, starts and stops on each
  call is what the rule says about that call.
-/

namespace MotionWatch

/-- A frame that was counted, and what came of it. -/
structure Entry where
  /-- It counted as motion. -/
  active : Bool
  /-- The limits that were looked up for it. -/
  limits : Limits
  /-- It was ignored. -/
  muted : Bool
  /-- It was published. -/
  notified : Bool
  /-- It started a recording. -/
  started : Bool
  /-- It stopped a recording. -/
  stopped : Bool
  deriving DecidableEq, Repr

/-- The frames that were counted, the latest first. -/
abbrev Past := List Entry

namespace Past

/-- Whether a frame is one of the first `max muteDuration 0` frames after a stop, if `n` other
frames come before it. -/
def mutesAfter (past : Past) (n : Nat) : Bool :=
  (past.zipIdx n).any fun (e, i) => e.stopped && decide ((i : Int) < max e.limits.muteDuration 0)

/-- Whether the next frame is ignored. -/
def mutes (past : Past) : Bool := past.mutesAfter 0

/-- The frames in a row, up to the latest, that counted as motion and were not ignored. -/
def activeRun (past : Past) : Nat := (past.takeWhile fun e => e.active && !e.muted).length

/-- Whether a recording is running: the latest that was started or stopped was started. -/
def recording (past : Past) : Bool :=
  (past.find? fun e => e.started || e.stopped).any Entry.started

/-- The quiet frames in a row, up to the latest, since the latest start. -/
def quietRun (past : Past) : Nat :=
  ((past.takeWhile fun e => !e.started).takeWhile fun e => !e.active).length

/-- What the rule says about the next frame. -/
def next (past : Past) (active : Bool) (limits : Limits) : Entry :=
  let muted := past.mutes
  let notified := !muted && active && decide (limits.minFrames ≤ past.activeRun + 1)
  { active, limits, muted, notified
    started := notified && !past.recording
    stopped := !muted && !active && past.recording &&
      decide (limits.minDuration < past.quietRun + 1) }

/-- What the rule says about one call after the other. A call of which nothing is known has not
counted its frame, so nothing comes of it. -/
def foretell (past : Past) : List (Option (Bool × Limits)) → List (Option Entry)
  | [] => []
  | none :: rest => none :: foretell past rest
  | some (active, limits) :: rest =>
    some (past.next active limits) :: foretell (past.next active limits :: past) rest

/-! ## One frame more -/

variable {past : Past} {e : Entry}

theorem mutesAfter_cons (n : Nat) :
    mutesAfter (e :: past) n =
      (e.stopped && decide ((n : Int) < max e.limits.muteDuration 0) ||
        past.mutesAfter (n + 1)) := by
  simp [mutesAfter, List.zipIdx_cons]

theorem activeRun_cons :
    activeRun (e :: past) = if e.active && !e.muted then past.activeRun + 1 else 0 := by
  unfold activeRun
  rw [List.takeWhile_cons]
  split <;> rfl

theorem recording_cons :
    recording (e :: past) = if e.started || e.stopped then e.started else past.recording := by
  unfold recording
  rw [List.find?_cons]
  cases h : e.started || e.stopped <;> simp

theorem quietRun_cons :
    quietRun (e :: past) = if e.started || e.active then 0 else past.quietRun + 1 := by
  unfold quietRun
  cases hs : e.started <;> cases ha : e.active <;> simp [hs, ha]

end Past

/-- What the verdict on a frame says about it. -/
def Entry.ofVerdict (active : Bool) (limits : Limits) : Verdict → Entry
  | .muted _ => ⟨active, limits, true, false, false, false⟩
  | .gathering _ _ | .idle => ⟨active, limits, false, false, false, false⟩
  | .motion starts => ⟨active, limits, false, true, starts, false⟩
  | .quiet _ stops => ⟨active, limits, false, false, false, stops⟩

/-- What the counters say about the past. -/
structure Agrees (c : Counters) (past : Past) : Prop where
  recording : c.recording = past.recording
  active : c.active = past.activeRun
  /-- The quiet frames of the last recording are forgotten only when the next one begins. -/
  quiet : past.recording = true → c.quiet = past.quietRun
  mute : ∀ n : Nat, (n : Int) < c.mute ↔ past.mutesAfter n = true
  /-- Frames are ignored only between recordings. -/
  rest : 0 < c.mute → c.active = 0 ∧ c.recording = false

theorem agrees_zero : Agrees .zero [] where
  recording := rfl
  active := rfl
  quiet h := by cases h
  mute n := by simp [Counters.zero, Past.mutesAfter]
  rest h := by cases h

namespace Agrees

variable {c : Counters} {past : Past} (h : Agrees c past) (active : Bool) (limits : Limits)

include h

theorem mutes_eq : past.mutes = decide (0 < c.mute) := by
  have := h.mute 0
  unfold Past.mutes
  cases hm : past.mutesAfter 0 <;> simp_all

/-- The verdict on a frame is what the rule says. -/
theorem next_eq :
    past.next active limits = Entry.ofVerdict active limits (c.advance active limits).2 := by
  have hm := h.mutes_eq
  have ha := h.active
  have hr := h.recording
  have hq := h.quiet
  unfold Past.next Entry.ofVerdict
  have hadv := c.advances active limits
  generalize c.advance active limits = r at hadv
  obtain ⟨c', v⟩ := r
  cases hadv with
  | muted hmute => simp [hm, hmute]
  | gathering hmute few =>
    have hfew : ¬limits.minFrames ≤ past.activeRun + 1 := by omega
    simp [hm, Int.not_lt.mpr hmute, hfew]
  | motion hmute enough =>
    have henough : limits.minFrames ≤ past.activeRun + 1 := by omega
    simp only [hm, Int.not_lt.mpr hmute, henough, ← hr]
    cases c.recording <;> rfl
  | quiet hmute running few =>
    rw [hr] at running
    have hfew : ¬limits.minDuration < past.quietRun + 1 := by rw [← h.quiet running]; omega
    simp [hm, Int.not_lt.mpr hmute, running, hfew]
  | stop hmute running enough =>
    rw [hr] at running
    have henough : limits.minDuration < past.quietRun + 1 := by rw [← h.quiet running]; omega
    simp [hm, Int.not_lt.mpr hmute, running, henough]
  | idle hmute resting => simp [hm, Int.not_lt.mpr hmute, ← hr, resting]

/-- Without a mute in the counters there is none to come. -/
theorem mutesAfter_eq_false (hmute : c.mute ≤ 0) (n : Nat) : past.mutesAfter n = false := by
  rw [Bool.eq_false_iff, ne_eq, ← h.mute n]
  omega

/-- A frame that is not ignored and stops nothing has no effect on what is ignored. -/
theorem mute_cons {e : Entry} (hmute : c.mute ≤ 0) (he : e.stopped = false) (n : Nat) :
    (n : Int) < c.mute ↔ Past.mutesAfter (e :: past) n = true := by
  rw [Past.mutesAfter_cons, he, h.mutesAfter_eq_false hmute]
  simp
  omega

/-- **One frame keeps the agreement.** -/
theorem advance :
    Agrees (c.advance active limits).1
      (Entry.ofVerdict active limits (c.advance active limits).2 :: past) := by
  have hadv := c.advances active limits
  generalize c.advance active limits = r at hadv
  obtain ⟨c', v⟩ := r
  have ha := h.active
  have hr := h.recording
  cases hadv with
  | muted hmute =>
    obtain ⟨hactive, hrest⟩ := h.rest hmute
    refine ⟨by simp [Past.recording_cons, Entry.ofVerdict, hr],
      by simp [Past.activeRun_cons, Entry.ofVerdict, hactive],
      by simp [Past.recording_cons, Entry.ofVerdict, ← hr, hrest], fun n => ?_,
      fun _ => ⟨hactive, hrest⟩⟩
    have hn := h.mute (n + 1)
    simp only [Past.mutesAfter_cons, Entry.ofVerdict, Bool.false_and, Bool.false_or]
    rw [← hn]
    omega
  | gathering hmute few =>
    refine ⟨by simp [Past.recording_cons, Entry.ofVerdict, hr],
      by simp [Past.activeRun_cons, Entry.ofVerdict, ha],
      by simp [Past.quietRun_cons, Entry.ofVerdict],
      h.mute_cons hmute rfl, fun hpos => absurd hpos (Int.not_lt.mpr hmute)⟩
  | motion hmute enough =>
    refine ⟨?_, by simp [Past.activeRun_cons, Entry.ofVerdict, ha],
      by simp [Past.quietRun_cons, Entry.ofVerdict],
      h.mute_cons hmute rfl, fun hpos => absurd hpos (Int.not_lt.mpr hmute)⟩
    -- The frame starts a recording, unless one is running anyway.
    cases hrec : c.recording <;> simp [Past.recording_cons, Entry.ofVerdict, ← hr, hrec]
  | quiet hmute running few =>
    refine ⟨by simp [Past.recording_cons, Entry.ofVerdict, hr],
      by simp [Past.activeRun_cons, Entry.ofVerdict], fun _ => ?_,
      h.mute_cons hmute rfl, fun hpos => absurd hpos (Int.not_lt.mpr hmute)⟩
    simp [Past.quietRun_cons, Entry.ofVerdict, h.quiet (hr ▸ running)]
  | stop hmute running enough =>
    refine ⟨by simp [Past.recording_cons, Entry.ofVerdict],
      by simp [Past.activeRun_cons, Entry.ofVerdict],
      by simp [Past.recording_cons, Entry.ofVerdict], fun n => ?_, fun _ => ⟨rfl, rfl⟩⟩
    simp [Past.mutesAfter_cons, Entry.ofVerdict, h.mutesAfter_eq_false hmute]
  | idle hmute resting =>
    refine ⟨by simp [Past.recording_cons, Entry.ofVerdict, hr],
      by simp [Past.activeRun_cons, Entry.ofVerdict],
      by simp [Past.recording_cons, Entry.ofVerdict, ← hr, resting],
      h.mute_cons hmute rfl, fun hpos => absurd hpos (Int.not_lt.mpr hmute)⟩

end Agrees

/-! ## Calls -/

/-- A call of `processFrame`. -/
structure Call where
  answers : Answers
  frame : Frame
  allow : Bool

/-- What is observed of a call. -/
structure Observed where
  call : Call
  /-- What the detector said about the frame, if it was counted. -/
  seen : Option Detection
  /-- Whether the frame was counted while the trigger was ignoring motion. -/
  muted : Bool
  actions : List Action

/-- The limits that stand in a set of parameters. -/
def Limits.find? (s : ParameterSet) : Option Limits := do
  let minFrames ← (s.getInt ParameterName.minFrames).toOption
  let minDuration ← (s.getInt ParameterName.minDuration).toOption
  let muteDuration ← (s.getInt ParameterName.muteDuration).toOption
  return { minFrames, minDuration, muteDuration }

/-- Whether a frame that was counted counts as motion, and the limits for it. -/
def Observed.input (o : Observed) : Option (Bool × Limits) := do
  let d ← o.seen
  let limits ← Limits.find? o.call.answers.params
  return (o.call.answers.isActive d o.call.allow, limits)

/-- What the rule looks at is found under the names of the limits. -/
theorem Limits.find?_of_read {p : MotionParameters} {s : ParameterSet}
    (h : MotionParameters.read s = .ok p) : find? s = some p.limits := by
  have hfound := MotionParameters.of_read h
  unfold find?
  rw [hfound.minFrames, hfound.minDuration, hfound.muteDuration]
  rfl

/-- What comes of a call. -/
structure Effects where
  muted : Bool
  /-- The subjects that were published. -/
  published : List String
  /-- The targets that were started, in order. -/
  started : List Nat
  /-- The targets that were stopped, in order. -/
  stopped : List Nat
  deriving DecidableEq, Repr

/-- Nothing comes of a call. -/
def Effects.nothing : Effects := ⟨false, [], [], []⟩

/-- What came of a call. -/
def Observed.effects (o : Observed) : Effects where
  muted := o.muted
  published := o.actions.filterMap Action.subject?
  started := o.actions.filterMap Action.started?
  stopped := o.actions.filterMap Action.stopped?

/-- What came of a call shows in its essential actions. -/
theorem Observed.effects_essentials (o : Observed) :
    { o with actions := essentials o.actions }.effects = o.effects := by
  simp only [effects, subjects_essentials, started_essentials, stopped_essentials]

/-- Without essential actions nothing comes of a call. -/
theorem Observed.effects_eq_nothing {o : Observed} (hmuted : o.muted = false)
    (h : essentials o.actions = []) : o.effects = .nothing := by
  rw [← effects_essentials, h]
  unfold effects
  rw [hmuted]
  rfl

/-- What has to come of a frame, for a trigger with so many targets. -/
def Entry.effects (source : String) (targets : Nat) (e : Entry) : Effects where
  muted := e.muted
  published := if e.notified then [source] else []
  started := if e.started then List.range targets else []
  stopped := if e.stopped then List.range targets else []

namespace MotionTrigger

variable {t t' : MotionTrigger} {a : Answers} {p : MotionParameters} {f : Frame} {d : Detection}
  {allow : Bool} {actions : List Action}

/-- Calls one after the other. A call that fails leaves the trigger as it was, and after a crash
there are no more calls. -/
def attend (t : MotionTrigger) : List Call → List Observed
  | [] => []
  | c :: cs =>
    match t.processFrame c.answers c.frame c.allow with
    | .ok (t', actions) =>
      let seen := t.detection? c.answers c.frame
      ⟨c, seen, seen.isSome && t.counters.mode = .muted, actions⟩ :: t'.attend cs
    | .error (.failed _) => ⟨c, none, false, []⟩ :: t.attend cs
    | .error (.crashed _) => []

theorem mode_eq_muted (c : Counters) : c.mode = .muted ↔ 0 < c.mute := by
  unfold Counters.mode
  split
  · next h => simp [h]
  · next h => split <;> split <;> simp [h]

/-- A frame is ignored exactly if the trigger ignores motion when it comes. -/
theorem muted_ofVerdict (c : Counters) (active : Bool) (limits : Limits) :
    (Entry.ofVerdict active limits (c.advance active limits).2).muted =
      decide (c.mode = .muted) := by
  have hadv := c.advances active limits
  generalize c.advance active limits = r at hadv
  obtain ⟨c', v⟩ := r
  simp only [mode_eq_muted]
  cases hadv with
  | muted hmute => simp [Entry.ofVerdict, hmute]
  | gathering hmute few => simp [Entry.ofVerdict, Int.not_lt.mpr hmute]
  | motion hmute enough => simp [Entry.ofVerdict, Int.not_lt.mpr hmute]
  | quiet hmute running few => simp [Entry.ofVerdict, Int.not_lt.mpr hmute]
  | stop hmute running enough => simp [Entry.ofVerdict, Int.not_lt.mpr hmute]
  | idle hmute resting => simp [Entry.ofVerdict, Int.not_lt.mpr hmute]

/-- The deeds for a frame are what the verdict on it says. -/
theorem readings_deeds (frames : List Frame) (active : Bool) (limits : Limits) (v : Verdict) :
    (t.deeds a d frames v).filterMap Action.subject? =
        ((Entry.ofVerdict active limits v).effects t.source t.targets).published ∧
      (t.deeds a d frames v).filterMap Action.started? =
        ((Entry.ofVerdict active limits v).effects t.source t.targets).started ∧
      (t.deeds a d frames v).filterMap Action.stopped? =
        ((Entry.ofVerdict active limits v).effects t.source t.targets).stopped := by
  match v with
  | .muted _ | .gathering _ _ | .idle | .quiet _ false | .motion false => exact ⟨rfl, rfl, rfl⟩
  | .motion true =>
    have hs : t.deeds a d frames (.motion true) =
      [.setMotion true, .notify t.source,
        .beginEvent t.id (if d.triggered then .motion else .audio) "motion start"] ++
        startTargets t.targets frames a.newEvent.toOption := rfl
    rw [hs]
    simp only [List.filterMap_append, subjects_startTargets, started_startTargets,
      stopped_startTargets]
    exact ⟨rfl, rfl, rfl⟩
  | .quiet _ true =>
    simp only [deeds, closing, List.filterMap_append, subjects_stopTargets, started_stopTargets,
      stopped_stopTargets]
    cases t.event <;> exact ⟨rfl, rfl, List.append_nil _⟩

/-- What came of a counted frame is what the verdict on it says. -/
theorem Counted.effects_eq (h : t.Counted a f allow t' actions d p) (c : Call)
    (seen : Option Detection) :
    (⟨c, seen, t.counters.mode = .muted, actions⟩ : Observed).effects =
      (Entry.ofVerdict (a.isActive d allow) p.limits (t.judge a p d allow).2).effects t.source
        t.targets := by
  obtain ⟨hsubjects, hstarted, hstopped⟩ := readings_deeds (t := t) (a := a) (d := d)
    (t.kept p f).toList (a.isActive d allow) p.limits (t.judge a p d allow).2
  have hmuted := muted_ofVerdict t.counters (a.isActive d allow) p.limits
  rw [← Observed.effects_essentials]
  dsimp only
  rw [h.done]
  unfold Observed.effects
  simp only [List.filterMap_cons, Action.subject?, Action.started?, Action.stopped?]
  rw [hsubjects, hstarted, hstopped, ← hmuted]
  rfl

/-- What the counters say about the past is all that the calls depend on. -/
theorem effects_attend_of_agrees (t : MotionTrigger) (past : Past) (h : Agrees t.counters past)
    (calls : List Call) :
    (t.attend calls).map Observed.effects =
      (past.foretell ((t.attend calls).map Observed.input)).map fun e =>
        e.elim .nothing (Entry.effects t.source t.targets) := by
  induction calls generalizing t past with
  | nil => rfl
  | cons c cs ih =>
    unfold attend
    split
    · next t' actions hc =>
      obtain ⟨hd, rfl, hnil⟩ | ⟨d, p, hcounted⟩ := processFrame_cases hc
      · simp only [hd, Option.isSome_none, Bool.false_and, List.map_cons]
        rw [Observed.effects_eq_nothing rfl hnil, ih t' past h]
        rfl
      · have hi (muted : Bool) : (⟨c, some d, muted, actions⟩ : Observed).input =
            some (c.answers.isActive d c.allow, p.limits) := by
          unfold Observed.input
          rw [Limits.find?_of_read hcounted.read]
          rfl
        have hsource : t'.source = t.source := by rw [hcounted.left]
        have htargets : t'.targets = t.targets := by rw [hcounted.left]
        have hagrees := h.advance (c.answers.isActive d c.allow) p.limits
        have hcounters : t'.counters = (t.judge c.answers p d c.allow).1 := by
          rw [hcounted.left]
        simp only [hcounted.detection?_eq, Option.isSome_some, Bool.true_and, List.map_cons, hi,
          Past.foretell]
        rw [hcounted.effects_eq, ih t' _ (hcounters ▸ hagrees), hsource, htargets, h.next_eq]
        rfl
    · simp only [List.map_cons]
      rw [Observed.effects_eq_nothing rfl rfl, ih t past h]
      rfl
    · rfl

/-- For every frame that was counted the limits were found. -/
theorem exists_limits_of_mem_attend (calls : List Call) {t : MotionTrigger} {o : Observed}
    (ho : o ∈ t.attend calls) (hseen : o.seen = some d) :
    ∃ limits : Limits, o.input = some (o.call.answers.isActive d o.call.allow, limits) ∧
      o.call.answers.params.getInt ParameterName.minFrames = .ok limits.minFrames ∧
      o.call.answers.params.getInt ParameterName.minDuration = .ok limits.minDuration ∧
      o.call.answers.params.getInt ParameterName.muteDuration = .ok limits.muteDuration := by
  induction calls generalizing t with
  | nil => cases ho
  | cons c cs ih =>
    unfold attend at ho
    split at ho
    · next t' actions hc =>
      obtain rfl | ho := List.mem_cons.mp ho
      · obtain ⟨hd, -, -⟩ | ⟨d', p, hcounted⟩ := processFrame_cases hc
        · exact absurd (hd.symm.trans hseen) nofun
        · have hfound := MotionParameters.of_read hcounted.read
          refine ⟨p.limits, ?_, hfound.minFrames, hfound.minDuration, hfound.muteDuration⟩
          unfold Observed.input
          rw [hseen]
          dsimp only
          rw [Limits.find?_of_read hcounted.read]
          rfl
      · exact ih ho
    · obtain rfl | ho := List.mem_cons.mp ho
      · cases hseen
      · exact ih ho
    · cases ho

/-- **The rule holds for every sequence of calls.** What it looks at in a frame that was counted is
whether there was motion or a signal and the schedule allowed it, and the limits that stood in the
parameters under their names at that time. -/
theorem effects_attend (t : MotionTrigger) (fresh : t.counters = .zero) (calls : List Call) :
    ((t.attend calls).map Observed.effects =
      (Past.foretell [] ((t.attend calls).map Observed.input)).map fun e =>
        e.elim .nothing (Entry.effects t.source t.targets)) ∧
    ∀ o ∈ t.attend calls, ∀ d, o.seen = some d → ∃ limits : Limits,
      o.input = some ((d.triggered || o.call.answers.signalled) && o.call.allow, limits) ∧
      o.call.answers.params.getInt ParameterName.minFrames = .ok limits.minFrames ∧
      o.call.answers.params.getInt ParameterName.minDuration = .ok limits.minDuration ∧
      o.call.answers.params.getInt ParameterName.muteDuration = .ok limits.muteDuration :=
  ⟨effects_attend_of_agrees t [] (fresh ▸ agrees_zero) calls,
    fun _ ho _ hseen => exists_limits_of_mem_attend calls ho hseen⟩

/-- A notification starts the targets of a new trigger, unless the schedule is off. -/
theorem effects_attend_create :
    let t := { create "hall" "lens" (.builtin fun _ => none) with targets := 2 }
    let told : Answers := ⟨motionDefaults, true, false, (0.0, 0.0), .ok 0, fun _ => .ok (),
      fun _ => .refused ""⟩
    let f : Frame := ⟨0, 1, 1, .rgb, [0, 0, 0], by decide⟩
    t.counters = .zero ∧
      (t.attend [⟨told, f, false⟩, ⟨told, f, true⟩]).map Observed.effects =
        [.nothing, ⟨false, ["lens"], [0, 1], []⟩] := by
  intro t told f
  refine ⟨rfl, (effects_attend t rfl [⟨told, f, false⟩, ⟨told, f, true⟩]).1.trans ?_⟩
  decide

end MotionTrigger

end MotionWatch
