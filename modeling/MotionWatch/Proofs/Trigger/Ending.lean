import MotionWatch.Proofs.Detection.Comparison
import MotionWatch.Proofs.Trigger.Deliveries
import MotionWatch.Proofs.Trigger.MotionRun

/-!
# Why a run fails

Whether a run of a motion trigger fails, and how, is decided by the frames that the camera
delivered and the length of the warm-up.

* `failureOf`: the failure that frames lead to.
* `Settled`: the warm-up is over, and all frames have the size that was learned.
* `Consistent`: a run at a stage that its frames have led to. `consistent_step`: a round keeps
  that; `consistent_rounds`: so it holds in every run.
* `remembers_of_watching`: after the warm-up there is a frame to compare others with.
* `failed_iff`: a run fails because the last frame of the warm-up cannot be converted, or because a
  later frame has another size. A later frame that cannot be converted does no harm.
-/

namespace MotionWatch

/-- Why a run failed, if it did. -/
def Outcome.failure? {ε : Type} : Outcome ε → Option ε
  | .failed cause => some cause
  | .completed | .crashed _ => none

theorem Outcome.failure?_eq_some {ε : Type} {o : Outcome ε} {cause : ε} :
    o.failure? = some cause ↔ o = .failed cause := by
  cases o <;> simp [failure?]

namespace MotionTrigger

/-- The failure for which a frame is to blame that comes after the warm-up. -/
def resizedFrom (last f : Frame) : Failure :=
  .resized ⟨last.width, last.height, f.width, f.height⟩

/-- The failure that frames lead to, of which the first `n` are for the warm-up. -/
def failureOf (decode : Decoder) (n : Nat) (frames : List Frame) : Option Failure :=
  frames[n - 1]?.bind fun last =>
    match last.toRgb decode with
    | .error e => some (.frame e)
    | .ok _ => ((frames.drop n).find? fun f => f.dim ≠ last.dim).map (resizedFrom last)

/-- The warm-up of `n` frames ended with the frame `last`, and its size is that of all others. -/
structure Settled (decode : Decoder) (n : Nat) (frames : List Frame) (last : Frame) : Prop where
  learned : frames[n - 1]? = some last
  enough : n ≤ frames.length
  converted : ∃ rgb, last.toRgb decode = .ok rgb
  same : ∀ f ∈ frames.drop n, f.dim = last.dim

variable {decode : Decoder} {n : Nat} {frames : List Frame} {last f : Frame}

/-! ## Failures -/

theorem failureOf_eq_none_of_length (h : frames.length < n) :
    failureOf decode n frames = none := by
  have hnone : frames[n - 1]? = none := List.getElem?_eq_none (Nat.le_sub_one_of_lt h)
  rw [failureOf, hnone]
  rfl

theorem failureOf_eq_frame {e : FrameError} (hlast : frames[n - 1]? = some last)
    (h : last.toRgb decode = .error e) : failureOf decode n frames = some (.frame e) := by
  rw [failureOf, hlast]
  simp only [Option.bind_some, h]

theorem failureOf_eq_resized {rgb : List UInt8} (hlast : frames[n - 1]? = some last)
    (h : last.toRgb decode = .ok rgb) : failureOf decode n frames =
      ((frames.drop n).find? fun f => f.dim ≠ last.dim).map (resizedFrom last) := by
  rw [failureOf, hlast]
  simp only [Option.bind_some, h]

/-- **What leads to a failure.** -/
theorem isSome_failureOf_iff :
    (∃ e, failureOf decode n frames = some e) ↔
      (∃ last e, frames[n - 1]? = some last ∧ last.toRgb decode = .error e) ∨
      (∃ last rgb f, frames[n - 1]? = some last ∧ last.toRgb decode = .ok rgb ∧
        f ∈ frames.drop n ∧ f.dim ≠ last.dim) := by
  constructor
  · rintro ⟨e, h⟩
    cases hlast : frames[n - 1]? with
    | none =>
      rw [failureOf, hlast] at h
      cases h
    | some last =>
      cases hrgb : last.toRgb decode with
      | error cause => exact .inl ⟨last, cause, rfl, hrgb⟩
      | ok rgb =>
        rw [failureOf_eq_resized hlast hrgb] at h
        obtain ⟨f, hf, -⟩ := Option.map_eq_some_iff.mp h
        have hne : f.dim ≠ last.dim := by simpa using List.find?_some hf
        exact .inr ⟨last, rgb, f, rfl, hrgb, List.mem_of_find?_eq_some hf, hne⟩
  · rintro (⟨last, e, hlast, hrgb⟩ | ⟨last, rgb, f, hlast, hrgb, hmem, hne⟩)
    · exact ⟨_, failureOf_eq_frame hlast hrgb⟩
    · rw [failureOf_eq_resized hlast hrgb]
      have hfound : ((frames.drop n).find? fun f => f.dim ≠ last.dim).isSome := by
        rw [List.find?_isSome]
        exact ⟨f, hmem, by simpa using hne⟩
      obtain ⟨g, hg⟩ := Option.isSome_iff_exists.mp hfound
      exact ⟨resizedFrom last g, by rw [hg]; rfl⟩

namespace Settled

theorem failureOf_eq (h : Settled decode n frames last) : failureOf decode n frames = none := by
  obtain ⟨rgb, hrgb⟩ := h.converted
  rw [failureOf_eq_resized h.learned hrgb, Option.map_eq_none_iff, List.find?_eq_none]
  intro f hf
  simp [h.same f hf]

/-- The warm-up does not change when more frames come. -/
theorem getElem?_append (h : Settled decode n frames last) (hpos : 0 < n) (more : List Frame) :
    (frames ++ more)[n - 1]? = some last := by
  have henough := h.enough
  rw [List.getElem?_append_left (by omega)]
  exact h.learned

/-- A frame of the same size changes nothing. -/
theorem append (h : Settled decode n frames last) (hpos : 0 < n) (hf : f.dim = last.dim) :
    Settled decode n (frames ++ [f]) last := by
  refine ⟨h.getElem?_append hpos [f], ?_, h.converted, ?_⟩
  · rw [List.length_append]
    exact Nat.le_add_right_of_le h.enough
  · rw [List.drop_append_of_le_length h.enough]
    intro g hg
    rcases List.mem_append.mp hg with hg | hg
    · exact h.same g hg
    · rw [List.mem_singleton.mp hg]
      exact hf

/-- A frame of another size is the failure. -/
theorem failureOf_append (h : Settled decode n frames last) (hpos : 0 < n) (hf : f.dim ≠ last.dim) :
    failureOf decode n (frames ++ [f]) = some (resizedFrom last f) := by
  obtain ⟨rgb, hrgb⟩ := h.converted
  have hfound : ([f].find? fun f => f.dim ≠ last.dim) = some f :=
    List.find?_cons_of_pos (by simpa using hf)
  have hearlier : (frames.drop n).find? (fun f => f.dim ≠ last.dim) = none := by
    rw [List.find?_eq_none]
    intro g hg
    simp [h.same g hg]
  rw [failureOf_eq_resized (h.getElem?_append hpos [f]) hrgb,
    List.drop_append_of_le_length h.enough, List.find?_append, hearlier, hfound]
  rfl

end Settled

/-! ## Rounds -/

section Rounds

variable {σ : Type} {h : Host σ} {r : Running (σ × List Frame)}

/-- A run that is where its frames have led it, with a warm-up of `n` frames, which are decoded by
`decode`. -/
inductive Consistent (decode : Decoder) (n : Nat) (r : Running (σ × List Frame)) : Prop
  | warmingUp (decoder : r.trigger.detector.decoder = decode)
    (needed : r.trigger.neededFrames = n) (few : r.frames.length ≤ n)
    (stage : r.stage = .going (.warmingUp r.frames.length r.frames.getLast?))
  | watching {last : Frame} (settled : Settled decode n r.frames last)
    (knows : r.trigger.detector.Knows last.dim) (stage : r.stage = .going .watching)
  | ended {o : Outcome Failure} (failure : o.failure? = failureOf decode n r.frames)
    (stage : r.stage = .ending o ∨ r.stage = .returned o)

/-- A frame that is processed has the size that was learned. -/
theorem knows_processFrame {t t' : MotionTrigger} {a : Answers} {allow : Bool}
    {actions : List Action} {size : Nat × Nat} (hk : t.detector.Knows size)
    (h : t.processFrame a f allow = .ok (t', actions)) : t'.detector.Knows size := by
  obtain ⟨-, rfl, -⟩ | ⟨d, p, hc⟩ := processFrame_cases h
  · exact hk
  · obtain ⟨writes, hw⟩ := hc.compared
    exact hk.process hw

theorem neededFrames_pos (t : MotionTrigger) : 0 < t.neededFrames :=
  Nat.lt_of_lt_of_le Nat.one_pos (Nat.le_max_right ..)

theorem consistent_startRun (t : MotionTrigger) (world : σ) :
    Consistent t.detector.decoder t.neededFrames (startRun h.noting t (world, [])) :=
  .warmingUp rfl rfl (Nat.zero_le _) rfl

namespace Consistent

theorem ends {o : Outcome Failure} (hfailure : o.failure? = failureOf decode n r.frames) :
    Consistent decode n (r.goTo (.ending o)) := .ended hfailure (.inl rfl)

theorem returns {o : Outcome Failure} (hfailure : o.failure? = failureOf decode n r.frames) :
    Consistent decode n (r.goTo (.returned o)) := .ended hfailure (.inr rfl)

/-- The end of a warm-up: the last frame is learned, or it is to blame. -/
theorem finishWarmUp (hdecoder : r.trigger.detector.decoder = decode) (hpos : 0 < n)
    (hlen : r.frames.length = n) :
    Consistent decode n (finishWarmUp h.noting r.frames.getLast? r) := by
  have hget : r.frames.getLast? = r.frames[n - 1]? := by rw [List.getLast?_eq_getElem?, hlen]
  unfold MotionTrigger.finishWarmUp
  cases hlast : r.frames.getLast? with
  | none =>
    rw [List.getLast?_eq_none_iff.mp hlast] at hlen
    exact absurd hlen (Nat.ne_of_lt hpos)
  | some last =>
    rw [hlast] at hget
    dsimp only
    split
    · next e hprime =>
      have hrgb := MotionDetector.prime_eq_error_iff.mp hprime
      rw [hdecoder] at hrgb
      exact ends (failureOf_eq_frame hget.symm hrgb).symm
    · next detector hprime =>
      obtain ⟨rgb, hrgb, -⟩ := MotionDetector.prime_eq_ok_iff.mp hprime
      rw [hdecoder] at hrgb
      refine .watching (?_ : Settled decode n _ last)
        ⟨last, rfl, MotionDetector.remembers_of_prime hprime⟩ rfl
      refine ⟨?_, ?_, ⟨rgb, hrgb⟩, ?_⟩
      · exact (congrArg (·[n - 1]?) (Run.frames_proceed _)).trans hget.symm
      · show n ≤ (r.proceed h.noting _).frames.length
        rw [Run.frames_proceed]
        exact Nat.le_of_eq hlen.symm
      · intro f hf
        have hdrop : r.frames.drop n = [] := List.drop_of_length_le (Nat.le_of_eq hlen)
        change f ∈ (r.proceed h.noting _).frames.drop n at hf
        rw [Run.frames_proceed, hdrop] at hf
        cases hf

theorem warmUpRound (hdecoder : r.trigger.detector.decoder = decode) (hpos : 0 < n)
    (hneeded : r.trigger.neededFrames = n) (hfew : r.frames.length ≤ n)
    (hstage : r.stage = .going (.warmingUp r.frames.length r.frames.getLast?)) :
    Consistent decode n (warmUpRound h.noting r.frames.length r.frames.getLast? r) := by
  unfold MotionTrigger.warmUpRound
  rw [hneeded]
  split
  · next henough => exact finishWarmUp hdecoder hpos (Nat.le_antisymm hfew henough)
  next hmore =>
  have hmore : r.frames.length < n := Nat.lt_of_not_le hmore
  split
  · exact ends (failureOf_eq_none_of_length hmore).symm
  dsimp only
  have hframes : (r.fetch h.noting true r.trigger.lastTs).2.frames =
      r.frames ++ (r.fetch h.noting true r.trigger.lastTs).1.toList := rfl
  cases hf : (r.fetch h.noting true r.trigger.lastTs).1 with
  | none =>
    rw [hf, Option.toList_none, List.append_nil] at hframes
    refine .warmingUp hdecoder hneeded (hframes ▸ hfew) ?_
    rw [hframes]
    exact hstage
  | some f =>
    rw [hf, Option.toList_some] at hframes
    refine .warmingUp hdecoder hneeded ?_ ?_
    · show (r.fetch h.noting true r.trigger.lastTs).2.frames.length ≤ n
      rw [hframes, List.length_append]
      exact hmore
    · show Stage.going (Phase.warmingUp (r.frames.length + 1) (some f)) =
        .going (.warmingUp (r.fetch h.noting true r.trigger.lastTs).2.frames.length
          (r.fetch h.noting true r.trigger.lastTs).2.frames.getLast?)
      rw [hframes, List.length_append, List.getLast?_concat]
      rfl

/-- Waiting fetches nothing, and can only end a run by crashing it. -/
theorem pace (hs : Settled decode n r.frames last) (hk : r.trigger.detector.Knows last.dim)
    (hstage : r.stage = .going .watching) : Consistent decode n (pace h.noting r) := by
  unfold MotionTrigger.pace
  split
  · exact returns hs.failureOf_eq.symm
  · split
    · exact .watching hs hk hstage
    · refine .watching (?_ : Settled decode n _ last) hk hstage
      rw [Run.frames_act]
      exact hs
    · exact returns hs.failureOf_eq.symm

/-- A frame that came after the warm-up has the size that was learned, or it is to blame. -/
theorem watchFrame {earlier : List Frame} (hpos : 0 < n) (hs : Settled decode n earlier last)
    (hframes : r.frames = earlier ++ [f]) (hk : r.trigger.detector.Knows last.dim)
    (hstage : r.stage = .going .watching) (allow : Bool) :
    Consistent decode n (watchFrame h.noting allow f r) := by
  have hsame : r.trigger.resized? f = none → Settled decode n r.frames last := fun hsize =>
    hframes ▸ hs.append hpos ((resized?_eq_none_iff hk.dim).mp hsize)
  unfold MotionTrigger.watchFrame
  split
  · next step hstep =>
    obtain ⟨t', actions⟩ := step
    have hsize : r.trigger.resized? f = none := by
      refine resized?_of_ne_failed hstep fun e he => ?_
      cases he
    refine pace (?_ : Settled decode n _ last) (knows_processFrame hk hstep) hstage
    rw [Run.frames_proceed]
    exact hsame hsize
  · next e herror =>
    obtain ⟨hne, rfl⟩ := resized?_eq_some hk.dim (processFrame_failed herror)
    refine ends ?_
    show some (resizedFrom last f) = failureOf decode n r.frames
    rw [hframes, hs.failureOf_append hpos hne]
  · next e herror =>
    have hsize : r.trigger.resized? f = none := by
      refine resized?_of_ne_failed herror fun e' he => ?_
      cases he
    exact returns (hsame hsize).failureOf_eq.symm

theorem watch (hpos : 0 < n) (hs : Settled decode n r.frames last)
    (hk : r.trigger.detector.Knows last.dim) (hstage : r.stage = .going .watching) :
    Consistent decode n (watch h.noting r) := by
  unfold MotionTrigger.watch
  dsimp only [Run.trigger_askSchedule]
  have hframes : ((r.askSchedule h.noting).2.fetch h.noting false r.trigger.lastTs).2.frames =
      r.frames ++
        ((r.askSchedule h.noting).2.fetch h.noting false r.trigger.lastTs).1.toList := rfl
  cases hf : ((r.askSchedule h.noting).2.fetch h.noting false r.trigger.lastTs).1 with
  | none =>
    rw [hf, Option.toList_none, List.append_nil] at hframes
    exact .watching (hframes ▸ hs) hk hstage
  | some f =>
    rw [hf, Option.toList_some] at hframes
    dsimp only
    apply watchFrame hpos hs
    · exact hframes
    · exact hk
    · exact hstage

end Consistent

/-- **A round leaves a run where its frames have led it.** -/
theorem consistent_step (hpos : 0 < n) (hc : Consistent decode n r) :
    Consistent decode n (step h.noting r) := by
  unfold step
  cases hc with
  | warmingUp hdecoder hneeded hfew hstage =>
    rw [hstage]
    exact .warmUpRound hdecoder hpos hneeded hfew hstage
  | watching hs hk hstage =>
    rw [hstage]
    dsimp only
    unfold Run.round
    split
    · exact .watch hpos hs hk hstage
    · exact .ends hs.failureOf_eq.symm
    · exact .watching hs hk hstage
  | ended hfailure hstage =>
    rcases hstage with hstage | hstage
    · rw [hstage]
      refine .ended ?_ (.inr rfl)
      exact hfailure.trans (congrArg (failureOf decode n) (Run.frames_proceed _).symm)
    · rw [hstage]
      exact .ended hfailure (.inr hstage)

theorem consistent_rounds (hpos : 0 < n) (hc : Consistent decode n r) (k : Nat) :
    Consistent decode n (Run.rounds (step h.noting) k r) := by
  induction k generalizing r with
  | zero => exact hc
  | succ k ih => exact ih (consistent_step hpos hc)

/-- **A run that watches has learned a frame.** -/
theorem remembers_of_watching (h : Host σ) (t : MotionTrigger) (world : σ) (k : Nat)
    (hstage : (Run.rounds (step h) k (startRun h t world)).stage = .going .watching) :
    ∃ g, (Run.rounds (step h) k (startRun h t world)).trigger.detector.Remembers g := by
  rw [← forget_startRun t world [], ← forget_rounds] at hstage ⊢
  have hstart : Consistent t.detector.decoder t.neededFrames
      (startRun h.noting t (world, [])) := consistent_startRun t world
  cases consistent_rounds (h := h) (neededFrames_pos t) hstart k with
  | warmingUp _ _ _ hs =>
    have hsame := hs.symm.trans hstage
    cases hsame
  | watching _ hk _ =>
    obtain ⟨g, -, hg⟩ := hk
    exact ⟨g, hg⟩
  | ended _ hs =>
    rcases hs with hs | hs
    · have hsame := hs.symm.trans hstage
      cases hsame
    · have hsame := hs.symm.trans hstage
      cases hsame

/-- **The frames of a run decide about its failure.** -/
theorem failure?_of_outcome (h : Host σ) (t : MotionTrigger) (world : σ) (k : Nat)
    {o : Outcome Failure}
    (ho : (Run.rounds (step h) k (startRun h t world)).outcome? = some o) :
    o.failure? = failureOf t.detector.decoder t.neededFrames (delivered h t world k) := by
  rw [← forget_startRun t world [], ← forget_rounds] at ho
  have hstart : Consistent t.detector.decoder t.neededFrames
      (startRun h.noting t (world, [])) := consistent_startRun t world
  have hc := consistent_rounds (h := h) (neededFrames_pos t) hstart k
  unfold delivered
  generalize Run.rounds (step h.noting) k (startRun h.noting t (world, [])) = r at ho hc
  have ho : r.outcome? = some o := ho
  unfold Run.outcome? at ho
  cases hc with
  | warmingUp _ _ _ hstage =>
    rw [hstage] at ho
    cases ho
  | watching _ _ hstage =>
    rw [hstage] at ho
    cases ho
  | ended hfailure hstage =>
    rcases hstage with hstage | hstage
    · rw [hstage] at ho
      cases ho
    · rw [hstage] at ho
      cases ho
      exact hfailure

/-- **Why a run fails.** Either the last frame of the warm-up could not be converted, or it could,
and after it came a frame of another size. -/
theorem failed_iff (h : Host σ) (t : MotionTrigger) (world : σ) (k : Nat) {o : Outcome Failure}
    (ho : (Run.rounds (step h) k (startRun h t world)).outcome? = some o) :
    let decode := t.detector.decoder
    let frames := delivered h t world k
    let n := max t.warmUp 1
    (∃ e, o = .failed e) ↔
      (∃ last e, frames[n - 1]? = some last ∧ last.toRgb decode = .error e) ∨
      (∃ last rgb f, frames[n - 1]? = some last ∧ last.toRgb decode = .ok rgb ∧
        f ∈ frames.drop n ∧ f.dim ≠ last.dim) := by
  intro decode frames n
  rw [← isSome_failureOf_iff]
  have hfailure : o.failure? = failureOf decode n frames := failure?_of_outcome h t world k ho
  rw [← hfailure]
  exact exists_congr fun e => Outcome.failure?_eq_some.symm

end Rounds

/-! ## Cameras with a reel -/

/-- Surroundings in which the camera shows the frames of a list. The trigger is stopped after the
last one. -/
def reel : Host (List Frame) where
  control left := if left.isEmpty then Control.fresh.stop else .fresh
  idle left := left
  isAllowed left := (true, left)
  nextFrame _ _ left := (left.head?, left.tail)
  nextSamples _ left := (.ok [], left)
  answers _ := ⟨motionDefaults, false, false, (0.0, 0.0), .ok 0, fun _ => .ok (),
    fun _ => .refused ""⟩
  perform _ left := left

/-- A trigger with a warm-up of one frame. -/
def hasty : MotionTrigger := { create "hall" "lens" (.builtin fun _ => none) with warmUp := 1 }

/-- A run of it. -/
def reelRun (k : Nat) (frames : List Frame) : Running (List Frame) :=
  Run.rounds (step reel) k (startRun reel hasty frames)

/-- A frame with four black pixels. -/
def blackFrame (ts : Nat) : Frame := .flat ts Frame.paintable_two 0

/-- A square frame that is said to be compressed, but is no picture. -/
def garbledFrame (ts side : Nat) (hside : 0 < side) : Frame :=
  ⟨ts, side, side, .jpeg, [0], hside, hside, nofun, nofun, nofun, nofun⟩

/-- A run survives a garbled frame, and then fails on a small one. -/
theorem failed_reelRun :
    let shown := [blackFrame 1, garbledFrame 2 2 (by decide), garbledFrame 3 1 (by decide)]
    (reelRun 5 shown).outcome? = some (.failed (.resized ⟨2, 2, 1, 1⟩)) ∧
      delivered reel hasty shown 5 = shown ∧
      ((∃ e : Failure, Outcome.failed (.resized ⟨2, 2, 1, 1⟩) = .failed e) ↔
        (∃ last e, shown[0]? = some last ∧ last.toRgb hasty.detector.decoder = .error e) ∨
        (∃ last rgb f, shown[0]? = some last ∧ last.toRgb hasty.detector.decoder = .ok rgb ∧
          f ∈ shown.drop 1 ∧ f.dim ≠ last.dim)) := by
  intro shown
  have ho : (reelRun 5 shown).outcome? = some (.failed (.resized ⟨2, 2, 1, 1⟩)) := by decide
  have hdelivered : delivered reel hasty shown 5 = shown := by decide
  refine ⟨ho, hdelivered, ?_⟩
  have h := failed_iff reel hasty shown 5 ho
  rw [hdelivered] at h
  exact h

/-- A run with a garbled frame at the end of its warm-up fails, although no other frame comes. -/
theorem fails_in_warmUp :
    let garbled := garbledFrame 7 4 (by decide)
    Frame.create 7 4 4 .jpeg [0] = .ok garbled ∧
      (reelRun 4 [garbled]).outcome? = some (.failed (.frame .undecodable)) ∧
      (delivered reel hasty [garbled] 4).drop (max hasty.warmUp 1) = [] :=
  ⟨rfl, by decide, by decide⟩

end MotionTrigger

end MotionWatch
