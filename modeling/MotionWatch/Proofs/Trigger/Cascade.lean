import MotionWatch.Proofs.Trigger.Concern
import MotionWatch.Trigger.Cascade

/-!
# What a cascading trigger does in a round

* `Responded`: what a round leaves behind, and what it has done as far as that is essential.
  `responded`: every round that returns is like that.
* `essentials_shutdown_snd`: the same for the end of all.
-/

namespace MotionWatch.CascadingTrigger

variable {t t' : CascadingTrigger} {a : Answers} {frame : Option Frame} {allow : Bool}
  {actions : List Action}

/-- Whether the notification is looked at in a round: if frames are kept, only with a frame. -/
def wakened (t : CascadingTrigger) (frame : Option Frame) : Bool := !t.keepsFrames || frame.isSome

/-- Whether a recording is started in a round. -/
def starts (t : CascadingTrigger) (a : Answers) (frame : Option Frame) (allow : Bool) : Bool :=
  t.wakened frame && t.wakes a allow

/-- Whether a recording is stopped in a round, perhaps the one that was just started. -/
def stops (t : CascadingTrigger) (a : Answers) (frame : Option Frame) (allow : Bool) : Bool :=
  (t.recording || t.starts a frame allow) && !a.upstream

/-- The frames that are kept in a round. -/
def keep (t : CascadingTrigger) (a : Answers) (frame : Option Frame) :
    Except Misuse (PreRecord Frame) :=
  match t.keepsFrames, frame with
  | true, some f => do
    let capacity := (← a.params.getInt ParameterName.preRecordDuration).toNat
    return t.prerecord.push f capacity
  | _, _ => return t.prerecord

/-- What is begun with a recording. -/
def opening (t : CascadingTrigger) (frames : List Frame) : List Action :=
  startTargets t.targets frames none ++ [.setMotion true, .notify t.source]

/-- What is ended with a recording. -/
def closing (t : CascadingTrigger) : List Action := stopTargets t.targets ++ [.setMotion false]

/-- A round, in which the frames `kept` were kept. -/
structure Responded (t : CascadingTrigger) (a : Answers) (frame : Option Frame) (allow : Bool)
    (t' : CascadingTrigger) (actions : List Action) (kept : PreRecord Frame) : Prop where
  keeps : t.keep a frame = .ok kept
  left : t' =
    { t with
      recording := (t.recording || t.starts a frame allow) && a.upstream
      prerecord := if t.starts a frame allow then .empty else kept }
  done : essentials actions =
    (if t.wakened frame then [.takeSignal] else []) ++
      (if t.starts a frame allow then t.opening kept.toList else []) ++
      (if t.stops a frame allow then t.closing else [])

@[simp] theorem essentials_say {level : Level} {text : String} {l : List Action} :
    essentials (t.say level text :: l) = essentials l := rfl

theorem wakeUp_fst :
    (t.wakeUp a allow).1 =
      { t with
        recording := t.recording || t.wakes a allow
        prerecord := if t.wakes a allow then .empty else t.prerecord } := by
  unfold wakeUp
  split
  · next h => simp [start, PreRecord.take, h]
  · next h => simp [h]

theorem essentials_wakeUp_snd :
    essentials (t.wakeUp a allow).2 =
      .takeSignal :: if t.wakes a allow then t.opening t.prerecord.toList else [] := by
  unfold wakeUp
  split
  · simp [start, PreRecord.take, opening]
  · rfl

theorem stopWhenQuiet_fst :
    (t.stopWhenQuiet a).1 = { t with recording := t.recording && a.upstream } := by
  obtain ⟨id, source, targets, keepsFrames, recording, prerecord, lastTs⟩ := t
  unfold stopWhenQuiet
  cases recording <;> cases a.upstream <;> rfl

theorem essentials_stopWhenQuiet_snd :
    essentials (t.stopWhenQuiet a).2 = if t.recording && !a.upstream then t.closing else [] := by
  unfold stopWhenQuiet
  split
  · simp [closing]
  · rfl

theorem wakes_eq (h : t.wakened frame = true) : t.wakes a allow = t.starts a frame allow := by
  rw [starts, h, Bool.true_and]

/-- What becomes of the notification in a round. -/
theorem listen_cases {r : CascadingTrigger × List Action} (h : t.listen a frame allow = .ok r) :
    ∃ kept, t.keep a frame = .ok kept ∧
      r.1 = { t with
        recording := t.recording || t.starts a frame allow
        prerecord := if t.starts a frame allow then .empty else kept } ∧
      essentials r.2 = (if t.wakened frame then [.takeSignal] else []) ++
        if t.starts a frame allow then t.opening kept.toList else [] := by
  unfold listen at h
  by_cases hk : t.keepsFrames = true
  · rw [if_pos hk] at h
    cases frame with
    | none =>
      -- Nothing is looked at, so the notification is still there in the next round.
      obtain rfl := Except.ok.inj h
      have hwakened : t.wakened none = false := by simp [wakened, hk]
      have hstarts : t.starts a none allow = false := by rw [starts, hwakened, Bool.false_and]
      refine ⟨t.prerecord, ?_, ?_, ?_⟩
      · unfold keep
        split
        · next hf => cases hf
        · rfl
      · rw [hstarts, Bool.or_false]
        rfl
      · rw [hstarts, hwakened]
        rfl
    | some f =>
      have hwakened : t.wakened (some f) = true := by simp [wakened]
      cases hc : a.params.getInt ParameterName.preRecordDuration with
      | error e => simp [hc, bind, Except.bind] at h
      | ok duration =>
        simp only [hc, bind, Except.bind] at h
        obtain rfl := Except.ok.inj h
        have hwakes : ({ t with prerecord := t.prerecord.push f duration.toNat } :
            CascadingTrigger).wakes a allow = t.starts a (some f) allow := wakes_eq hwakened
        refine ⟨t.prerecord.push f duration.toNat, ?_, ?_, ?_⟩
        · simp [keep, hk, hc, bind, Except.bind, pure, Except.pure]
        · rw [wakeUp_fst, hwakes]
        · rw [essentials_wakeUp_snd, hwakes, hwakened]
          rfl
  · rw [if_neg hk] at h
    obtain rfl := Except.ok.inj h
    have hwakened : t.wakened frame = true := by simp [wakened, hk]
    refine ⟨t.prerecord, ?_, ?_, ?_⟩
    · unfold keep
      split
      · next ht => exact absurd ht hk
      · rfl
    · rw [wakeUp_fst, wakes_eq hwakened]
    · rw [essentials_wakeUp_snd, wakes_eq hwakened, hwakened]
      rfl

/-- **A round that returns has done what it had to.** -/
theorem responded (h : t.respond a frame allow = .ok (t', actions)) :
    ∃ kept, t.Responded a frame allow t' actions kept := by
  unfold respond at h
  cases hl : t.listen a frame allow with
  | error e => simp [hl, bind, Except.bind] at h
  | ok r =>
    obtain ⟨kept, hkeep, hfst, hsnd⟩ := listen_cases hl
    obtain ⟨t₁, started⟩ := r
    simp only [hl, bind, Except.bind] at h
    obtain ⟨rfl, rfl⟩ := Prod.mk.inj (Except.ok.inj h)
    change t₁ = _ at hfst
    subst hfst
    refine ⟨kept, hkeep, ?_, ?_⟩
    · rw [stopWhenQuiet_fst]
    · rw [essentials_append, hsnd, essentials_stopWhenQuiet_snd]
      rfl

/-- A round returns if it can look up how many frames to keep. -/
theorem respond_isOk {duration : Int}
    (h : a.params.getInt ParameterName.preRecordDuration = .ok duration) :
    ∃ r, t.respond a frame allow = .ok r := by
  have hlisten : ∃ r, t.listen a frame allow = .ok r := by
    unfold listen
    split
    · cases frame with
      | none => exact ⟨_, rfl⟩
      | some f =>
        simp only [h, bind, Except.bind]
        exact ⟨_, rfl⟩
    · exact ⟨_, rfl⟩
  obtain ⟨r, hr⟩ := hlisten
  unfold respond
  rw [hr]
  exact ⟨_, rfl⟩

/-! ## The end -/

/-- What the end of all has done. -/
theorem essentials_shutdown_snd :
    essentials t.shutdown.2 = (if t.recording then t.closing else []) ++ [.stopSource] := by
  unfold shutdown
  split
  · simp [closing]
  · rfl

end MotionWatch.CascadingTrigger
