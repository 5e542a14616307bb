import MotionWatch.Detection.Detector
import MotionWatch.Proofs.Except
import MotionWatch.Proofs.Frame.Grey

/-!
# What a detector does with a frame

* `MotionDetector.look`: what is seen in a frame of the right size that could be converted.
* `compareWith_resized`, `compareWith_unconverted`, `compareWith_unexamined`, `compareWith_eq`: a
  frame is of another size, or it cannot be converted, or a plugin fails on it, or it is looked at.
* `Compared`: a comparison that succeeded, with all that it used; `compared_of_compareWith`.
* `prime_eq_ok_iff`: what it takes to become the reference.
* `process_of_lt`, `process_of_none`, `process_of_reference`: a frame is too large, or the first
  one, or a later one. `process_first`, `process_later`: calls that succeed.
* `Remembers`: a frame is the reference. `remembers_of_prime`, `remembers_of_process`: that is the
  latest one for which a call succeeded. `Knows.process`: all of them have the same size.
-/

namespace MotionWatch

/-- What is remembered of a frame that can be converted. -/
def Frame.referenceOf (f : Frame) (rgb : List UInt8) : Reference :=
  ⟨f.width, f.height, lumasOfRgb rgb, rgb⟩

namespace Reference

variable {decode : Decoder} {f : Frame} {r : Reference}

/-- The size of what is remembered. -/
def dim (r : Reference) : Nat × Nat := (r.width, r.height)

theorem ofFrame_eq_ok_iff :
    ofFrame decode f = .ok r ↔ ∃ rgb, f.toRgb decode = .ok rgb ∧ r = f.referenceOf rgb := by
  unfold ofFrame
  cases f.toRgb decode with
  | error e => simp [Except.map]
  | ok rgb => simp [Except.map, Frame.referenceOf, eq_comm]

theorem ofFrame_eq_error_iff {e : FrameError} :
    ofFrame decode f = .error e ↔ f.toRgb decode = .error e := by
  unfold ofFrame
  cases f.toRgb decode <;> simp [Except.map]

end Reference

namespace MotionDetector

variable {d d' : MotionDetector} {params : ParameterSet} {f : Frame} {prev cur : Reference}
  {seen : Detection} {writes : List MetaWrite} {panTilt : Bool}

@[simp] theorem backend_maskFor (width height : Nat) :
    (d.maskFor width height).2.backend = d.backend := by
  unfold maskFor
  cases d.mask <;> rfl

@[simp] theorem decoder_maskFor (width height : Nat) :
    (d.maskFor width height).2.decoder = d.decoder := by
  unfold maskFor
  cases d.mask <;> rfl

/-- What is seen in a frame that could be converted. -/
def look (d : MotionDetector) (params : ParameterSet) (panTilt : Bool) (f : Frame)
    (cur prev : Reference) : Except (Fault DetectionError) Detection :=
  match d.backend with
  | .builtin => detectBuiltin params panTilt (d.maskFor f.width f.height).1 cur prev
  | .external e => detectExternal e f.ts (d.maskFor f.width f.height).1 cur prev

theorem compareWith_resized (h : f.dim ≠ prev.dim) :
    d.compareWith params f prev =
      .error (.failed (.resized prev.width prev.height f.width f.height)) := by
  have hne : (prev.width, prev.height) ≠ f.dim := Ne.symm h
  unfold compareWith
  simp only [if_pos hne]
  rfl

theorem compareWith_unconverted {e : FrameError} (h : f.dim = prev.dim)
    (hf : f.toRgb d.decoder = .error e) :
    d.compareWith params f prev = .error (.failed (.frame e)) := by
  have heq : ¬(prev.width, prev.height) ≠ f.dim := not_not_intro h.symm
  unfold compareWith
  simp only [if_neg heq, Reference.ofFrame_eq_error_iff.mpr hf]
  rfl

theorem compareWith_eq (h : f.dim = prev.dim) (hf : Reference.ofFrame d.decoder f = .ok cur)
    (hp : params.getBool ParameterName.panTilt = .ok panTilt) :
    d.compareWith params f prev = (d.look params panTilt f cur prev).map fun seen =>
      ({ (d.maskFor f.width f.height).2 with reference := some cur }, seen, seen.writes) := by
  have heq : ¬(prev.width, prev.height) ≠ f.dim := not_not_intro h.symm
  unfold compareWith look
  simp only [if_neg heq, hf, hp, Fault.ofRead, mapError_ok, backend_maskFor, bind,
    Except.bind]
  cases d.backend with
  | builtin =>
    dsimp only
    cases detectBuiltin params panTilt (d.maskFor f.width f.height).1 cur prev <;> rfl
  | external e =>
    dsimp only
    cases detectExternal e f.ts (d.maskFor f.width f.height).1 cur prev <;> rfl

theorem compareWith_misuse {rgb : List UInt8} {m : Misuse} (h : f.dim = prev.dim)
    (hf : f.toRgb d.decoder = .ok rgb) (hp : params.getBool ParameterName.panTilt = .error m) :
    d.compareWith params f prev = .error (.crashed (some m)) := by
  have heq : ¬(prev.width, prev.height) ≠ f.dim := not_not_intro h.symm
  have hcur : Reference.ofFrame d.decoder f = .ok (f.referenceOf rgb) :=
    Reference.ofFrame_eq_ok_iff.mpr ⟨rgb, hf, rfl⟩
  unfold compareWith
  simp only [if_neg heq, hcur, hp]
  rfl

theorem compareWith_unexamined {x : Plugin.ExternalDetector} {rgb : List UInt8}
    {e : Plugin.PluginError} (h : f.dim = prev.dim) (hb : d.backend = .external x)
    (hf : f.toRgb d.decoder = .ok rgb) (hp : params.getBool ParameterName.panTilt = .ok panTilt)
    (hx : x.detect f.ts f.width f.height prev.rgb rgb
      ((d.maskFor f.width f.height).1.map Array.toList) = .error (.failed e)) :
    d.compareWith params f prev = .error (.failed (.plugin e)) := by
  have hcur : Reference.ofFrame d.decoder f = .ok (f.referenceOf rgb) :=
    Reference.ofFrame_eq_ok_iff.mpr ⟨rgb, hf, rfl⟩
  have hlook : d.look params panTilt f (f.referenceOf rgb) prev =
      .error (.failed (.plugin e)) := by
    unfold look
    rw [hb]
    dsimp only [detectExternal, Frame.referenceOf]
    rw [hx]
  rw [compareWith_eq h hcur hp, hlook]
  rfl

/-- A frame was compared with `prev`: it has the same size, and `seen` is what was seen in it. -/
structure Compared (d : MotionDetector) (params : ParameterSet) (f : Frame) (prev : Reference)
    (d' : MotionDetector) (seen : Detection) : Prop where
  sized : f.dim = prev.dim
  saw : ∃ rgb panTilt, f.toRgb d.decoder = .ok rgb ∧
    params.getBool ParameterName.panTilt = .ok panTilt ∧
    d.look params panTilt f (f.referenceOf rgb) prev = .ok seen ∧
    d' = { (d.maskFor f.width f.height).2 with reference := some (f.referenceOf rgb) }

theorem compared_of_compareWith (h : d.compareWith params f prev = .ok (d', seen, writes)) :
    d.Compared params f prev d' seen ∧ writes = seen.writes := by
  by_cases hdim : f.dim = prev.dim
  · cases hf : Reference.ofFrame d.decoder f with
    | error e =>
      rw [compareWith_unconverted hdim (Reference.ofFrame_eq_error_iff.mp hf)] at h
      cases h
    | ok cur =>
      cases hp : params.getBool ParameterName.panTilt with
      | error m =>
        obtain ⟨rgb, hrgb, -⟩ := Reference.ofFrame_eq_ok_iff.mp hf
        rw [compareWith_misuse hdim hrgb hp] at h
        cases h
      | ok panTilt =>
        rw [compareWith_eq hdim hf hp] at h
        obtain ⟨rgb, hrgb, rfl⟩ := Reference.ofFrame_eq_ok_iff.mp hf
        cases hl : d.look params panTilt f (f.referenceOf rgb) prev with
        | error e =>
          rw [hl] at h
          cases h
        | ok seen' =>
          rw [hl] at h
          cases h
          exact ⟨⟨hdim, rgb, panTilt, hrgb, hp, hl, rfl⟩, rfl⟩
  · rw [compareWith_resized hdim] at h
    cases h

theorem dim_of_reference (h : d.reference = some prev) : d.dim = some prev.dim := by
  rw [dim, h]
  rfl

/-! ## Calls -/

theorem prime_eq_ok_iff : d.prime f = .ok d' ↔
    ∃ rgb, f.toRgb d.decoder = .ok rgb ∧ d' = { d with reference := some (f.referenceOf rgb) } := by
  unfold prime
  cases hr : Reference.ofFrame d.decoder f with
  | error e => simp [Except.map, Reference.ofFrame_eq_error_iff.mp hr]
  | ok r =>
    obtain ⟨rgb, hrgb, rfl⟩ := Reference.ofFrame_eq_ok_iff.mp hr
    simp [Except.map, hrgb, eq_comm]

theorem prime_eq_error_iff {e : FrameError} :
    d.prime f = .error e ↔ f.toRgb d.decoder = .error e := by
  unfold prime
  rw [← Reference.ofFrame_eq_error_iff]
  cases Reference.ofFrame d.decoder f <;> simp [Except.map]

/-- The pixels of a frame are counted before anything else. -/
theorem process_of_lt (h : maxCount < f.area) : d.process params f = .error (.crashed none) :=
  if_pos h

theorem process_of_none (h : d.reference = none) (hcount : f.area ≤ maxCount) :
    d.process params f = match d.prime f with
      | .ok d => .ok (d, .idle f.area, [])
      | .error e => .error (.failed (.frame e)) := by
  have hfew : ¬maxCount < f.area := Nat.not_lt.mpr hcount
  cases hprime : d.prime f <;> simp only [process, if_neg hfew, h, hprime]

theorem process_of_reference (h : d.reference = some prev) (hcount : f.area ≤ maxCount) :
    d.process params f = d.compareWith params f prev := by
  unfold process
  rw [if_neg (Nat.not_lt.mpr hcount), h]

/-- The pixels of a frame on which a detector did not stop could be counted. -/
theorem area_le_of_process {r : MotionDetector × Detection × List MetaWrite}
    (h : d.process params f = .ok r) : f.area ≤ maxCount := by
  refine Nat.not_lt.mp fun hlarge => ?_
  rw [process_of_lt hlarge] at h
  cases h

/-- A call that is the first one to succeed only sets the reference. -/
theorem process_first (h : d.reference = none) (hp : d.process params f = .ok (d', seen, writes)) :
    d.prime f = .ok d' ∧ seen = .idle f.area ∧ writes = [] := by
  rw [process_of_none h (area_le_of_process hp)] at hp
  cases hprime : d.prime f with
  | error e =>
    rw [hprime] at hp
    cases hp
  | ok d'' =>
    rw [hprime] at hp
    cases hp
    exact ⟨rfl, rfl, rfl⟩

/-- A later call that succeeds compares the frame. -/
theorem process_later (h : d.reference = some prev)
    (hp : d.process params f = .ok (d', seen, writes)) :
    d.Compared params f prev d' seen ∧ writes = seen.writes := by
  rw [process_of_reference h (area_le_of_process hp)] at hp
  exact compared_of_compareWith hp

/-! ## Frames that are remembered -/

/-- The reference is what is remembered of a frame. -/
def Remembers (d : MotionDetector) (f : Frame) : Prop :=
  ∃ rgb, f.toRgb d.decoder = .ok rgb ∧ d.reference = some (f.referenceOf rgb)

theorem remembers_of_prime (h : d.prime f = .ok d') : d'.Remembers f := by
  obtain ⟨rgb, hrgb, rfl⟩ := prime_eq_ok_iff.mp h
  exact ⟨rgb, hrgb, rfl⟩

theorem remembers_of_process (h : d.process params f = .ok (d', seen, writes)) :
    d'.Remembers f := by
  cases hreference : d.reference with
  | none => exact remembers_of_prime (process_first hreference h).1
  | some prev =>
    obtain ⟨⟨-, rgb, panTilt, hrgb, -, -, rfl⟩, -⟩ := process_later hreference h
    exact ⟨rgb, (decoder_maskFor ..).symm ▸ hrgb, rfl⟩

/-- The pixels of a frame that is remembered can be counted, and so can those of any frame of the
same size. -/
theorem Remembers.area_le {g : Frame} (h : d.Remembers g) (hdim : f.dim = g.dim) :
    f.area ≤ maxCount := by
  obtain ⟨rgb, hrgb, -⟩ := h
  obtain ⟨hwidth, hheight⟩ : f.width = g.width ∧ f.height = g.height := Prod.mk.inj hdim
  have hcount := Frame.area_le_of_toRgb hrgb
  unfold Frame.area at hcount ⊢
  rwa [hwidth, hheight]

/-- A frame of the given size is remembered. -/
def Knows (d : MotionDetector) (size : Nat × Nat) : Prop := ∃ g, g.dim = size ∧ d.Remembers g

theorem Knows.dim {size : Nat × Nat} (h : d.Knows size) : d.dim = some size := by
  obtain ⟨g, rfl, rgb, -, hreference⟩ := h
  exact dim_of_reference hreference

/-- Only a frame of the same size becomes the next reference. -/
theorem Knows.process {size : Nat × Nat} (h : d.Knows size)
    (hp : d.process params f = .ok (d', seen, writes)) : d'.Knows size := by
  refine ⟨f, ?_, remembers_of_process hp⟩
  obtain ⟨g, rfl, rgb, -, hreference⟩ := h
  exact (process_later hreference hp).1.sized

/-- What is remembered, if anything is, is a frame. -/
def Genuine (d : MotionDetector) : Prop := ∀ prev, d.reference = some prev → ∃ g, d.Remembers g

theorem genuine_of_process (h : d.process params f = .ok (d', seen, writes)) : d'.Genuine :=
  fun _ _ => ⟨f, remembers_of_process h⟩

end MotionDetector

end MotionWatch
