import MotionWatch.Trigger.Counters

/-!
# What counting a frame can do

* `Counters.Advances`: the six things that can become of a frame, with the conditions under which
  they do; `advances`: one of them does.
* `Verdict.Turns`: what a verdict says about the recording; `turns`: the counters agree.
* `recording_of_stops`: when a verdict stops a recording, the counters say so too.
-/

namespace MotionWatch

/-- Whether nothing follows from a verdict. -/
def Verdict.isSilent : Verdict → Bool
  | motion _ | quiet _ true => false
  | muted _ | gathering _ _ | quiet _ false | idle => true

/-- A verdict as a step between recording and not recording. -/
inductive Verdict.Turns : Bool → Bool → Verdict → Prop
  | starts : Turns false true (.motion true)
  | goesOn : Turns true true (.motion false)
  | stops (seen : Int) : Turns true false (.quiet seen true)
  | stays {recording : Bool} {v : Verdict} (silent : v.isSilent = true) :
    Turns recording recording v

namespace Counters

/-- The counters and the verdict after a frame that counted as motion, or did not. -/
inductive Advances (c : Counters) (limits : Limits) : Bool → Counters → Verdict → Prop
  /-- The frame is ignored. -/
  | muted {active : Bool} (h : 0 < c.mute) :
    Advances c limits active { c with mute := c.mute - 1 } (.muted (c.mute - 1 = 0))
  /-- There is motion on too few frames. -/
  | gathering (h : c.mute ≤ 0) (few : c.active + 1 < limits.minFrames) :
    Advances c limits true { c with active := c.active + 1, quiet := 0 }
      (.gathering (c.active + 1) limits.minFrames)
  /-- There is motion on enough frames. -/
  | motion (h : c.mute ≤ 0) (enough : limits.minFrames ≤ c.active + 1) :
    Advances c limits true { c with recording := true, active := c.active + 1, quiet := 0 }
      (.motion (!c.recording))
  /-- A recording goes on without motion. -/
  | quiet (h : c.mute ≤ 0) (running : c.recording = true)
      (few : c.quiet + 1 ≤ limits.minDuration) :
    Advances c limits false { c with active := 0, quiet := c.quiet + 1 }
      (.quiet (c.quiet + 1) false)
  /-- A recording stops. -/
  | stop (h : c.mute ≤ 0) (running : c.recording = true)
      (enough : limits.minDuration < c.quiet + 1) :
    Advances c limits false
      { c with
        recording := false, active := 0, quiet := c.quiet + 1, mute := max limits.muteDuration 0 }
      (.quiet (c.quiet + 1) true)
  /-- There is neither motion nor a recording. -/
  | idle (h : c.mute ≤ 0) (resting : c.recording = false) :
    Advances c limits false { c with active := 0 } .idle

theorem advances (c : Counters) (active : Bool) (limits : Limits) :
    Advances c limits active (c.advance active limits).1 (c.advance active limits).2 := by
  unfold advance
  split
  · next h => exact .muted h
  next h =>
    have h := Int.not_lt.mp h
    cases active with
    | true =>
      simp only [if_true, countActive]
      split
      · next few => exact .gathering h few
      · next enough => exact .motion h (Int.not_lt.mp enough)
    | false =>
      simp only [Bool.false_eq_true, if_false, countQuiet]
      split
      · next running =>
        split
        · next enough => exact .stop h running enough
        · next few => exact .quiet h running (Int.not_lt.mp few)
      · next resting => exact .idle h (Bool.eq_false_iff.mpr resting)

/-- A verdict says what the counters say. -/
theorem turns (c : Counters) (active : Bool) (limits : Limits) :
    (c.advance active limits).2.Turns c.recording (c.advance active limits).1.recording := by
  have ha := c.advances active limits
  generalize c.advance active limits = r at ha
  obtain ⟨c', v⟩ := r
  cases ha with
  | muted _ | gathering _ _ | quiet _ _ _ | idle _ _ => exact .stays rfl
  | motion _ _ =>
    cases hr : c.recording with
    | false => exact .starts
    | true => exact .goesOn
  | stop _ running _ =>
    rw [running]
    exact .stops _

/-- A recording that stops is over in the counters already. -/
theorem recording_of_stops {c : Counters} {active : Bool} {limits : Limits} {seen : Int}
    (h : (c.advance active limits).2 = .quiet seen true) :
    (c.advance active limits).1.recording = false := by
  have ht := c.turns active limits
  rw [h] at ht
  generalize c.recording = recording, (c.advance active limits).1.recording = recording' at ht
  cases ht with
  | stops _ => rfl
  | stays silent => cases silent

end Counters

end MotionWatch
