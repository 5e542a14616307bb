import MotionWatch.Despeckle
import MotionWatch.Detection.Statistics
import MotionWatch.Fault
import MotionWatch.Frame.Convert
import MotionWatch.Mask.Basic
import MotionWatch.Parameter.Presets
import MotionWatch.Plugin.External
import MotionWatch.Record.MetaBoard

/-!
# Motion detection

A detector compares each frame with the one before it, either by counting the pixels whose grey
value changed or by asking a plugin. The first frame only becomes the reference. A frame that
cannot be compared leaves everything as it was. Compressed frames are decoded by a decoder that the
detector brings along.

* `MotionDetector.prime`: makes a frame the reference.
* `MotionDetector.process`: compares a frame, and makes it the reference.
* `Detection`: the outcome; `Detection.writes` is what is published of it.
-/

namespace MotionWatch

/-- Why a frame could not be compared. -/
inductive DetectionError where
  | frame (cause : FrameError)
  | resized (width height newWidth newHeight : Nat)
  | plugin (cause : Plugin.PluginError)
  deriving DecidableEq, Repr

/-- What is said about a frame that could not be compared. -/
def DetectionError.message : DetectionError → String
  | frame cause => cause.message
  | resized w h w₁ h₁ => s!"resolution changed from {w}x{h} to {w₁}x{h₁}"
  | plugin cause => cause.message

/-- The outcome of a comparison. -/
structure Detection where
  triggered : Bool
  stats : ChangeStatistics
  /-- The part of the way to turn a camera, for pan and tilt. -/
  factors : Float × Float
  /-- The text of an external detector. -/
  text : Option String

namespace Detection

/-- An outcome after which a camera would be turned all the way. -/
def plain (triggered : Bool) (stats : ChangeStatistics) : Detection :=
  ⟨triggered, stats, (1.0, 1.0), none⟩

/-- The outcome of a first frame. -/
def idle (pixels : Nat) : Detection := plain false (.ofCount 0 pixels)

/-- What is published: the text, the percentage, and for a second the centre of motion. -/
def writes (d : Detection) : List MetaWrite :=
  (d.text.toList.map fun t => ⟨MetaKey.motionText, .unlimited, .string t⟩) ++
    [⟨MetaKey.pixelsChanged, .unlimited, .double d.stats.percent⟩] ++
    match d.stats.centroid with
    | some c =>
      [⟨MetaKey.centerX, .micros 1000000, .int c.x.toUInt64.toNat⟩,
        ⟨MetaKey.centerY, .micros 1000000, .int c.y.toUInt64.toNat⟩]
    | none => []

end Detection

/-- Who compares the frames. -/
inductive Backend where
  | builtin
  | external (detector : Plugin.ExternalDetector)

/-- The frame that the next one is compared with. -/
structure Reference where
  width : Nat
  height : Nat
  luma : List UInt8
  rgb : List UInt8
  deriving DecidableEq, Repr

/-- What is remembered of a frame. -/
def Reference.ofFrame (decode : Decoder) (f : Frame) : Except FrameError Reference :=
  (f.toRgb decode).map fun rgb => ⟨f.width, f.height, lumasOfRgb rgb, rgb⟩

/-- A detector and what it remembers. -/
structure MotionDetector where
  decoder : Decoder
  backend : Backend
  mask : Option SelectionMask
  reference : Option Reference

namespace MotionDetector

/-- A detector that counts changed pixels. -/
def builtin (decoder : Decoder) : MotionDetector := ⟨decoder, .builtin, none, none⟩

/-- A detector that asks a plugin. -/
def external (decoder : Decoder) (detector : Plugin.ExternalDetector) : MotionDetector :=
  ⟨decoder, .external detector, none, none⟩

/-- Restricts a detector to the pixels of a mask. -/
def withMask (d : MotionDetector) (mask : SelectionMask) : MotionDetector :=
  { d with mask := some mask }

/-- Whether a plugin is asked. -/
def isExternal (d : MotionDetector) : Bool :=
  match d.backend with
  | .builtin => false
  | .external _ => true

/-- The resolution of the reference. -/
def dim (d : MotionDetector) : Option (Nat × Nat) := d.reference.map fun r => (r.width, r.height)

/-- Makes a frame the reference. -/
def prime (d : MotionDetector) (f : Frame) : Except FrameError MotionDetector :=
  (Reference.ofFrame d.decoder f).map fun r => { d with reference := some r }

/-- The mask at the resolution of the frames, and the detector with a copy kept. -/
def maskFor (d : MotionDetector) (width height : Nat) : Option (Array Bool) × MotionDetector :=
  match d.mask with
  | none => (none, d)
  | some m =>
    let (bits, m) := m.get width height
    (some bits, { d with mask := some m })

/-- The differences that are counted: of the grey values, after despeckling. -/
def differences (width height : Nat) (pattern : String) (cur prev : List UInt8) :
    Option (List UInt8) :=
  let distances := lumaDistances cur prev
  if pattern.isEmpty then some distances else despeckleValues width height distances pattern

/-- The statistics of two frames. Positions are only looked for where they are needed. -/
def statistics (width height : Nat) (noise : Int) (pattern : String) (panTilt : Bool)
    (mask : Option (Array Bool)) (cur prev : List UInt8) : Option ChangeStatistics :=
  if mask.isSome || panTilt || !pattern.isEmpty then
    (differences width height pattern cur prev).map (.ofDistances width noise mask)
  else some (.ofCount ((lumaDistances cur prev).countP fun d => noise ≤ d.toNat) (width * height))

/-- How far a camera is to be turned: all the way, unless it is known where the motion is. -/
def dampingFactors (width height : Nat) (stats : ChangeStatistics) : Float × Float :=
  match stats.centroid, stats.spread with
  | some c, some s => (damping c.x s.x width, damping c.y s.y height)
  | _, _ => (1.0, 1.0)

/-- Compares a frame by counting changed pixels. -/
def detectBuiltin (params : ParameterSet) (panTilt : Bool) (mask : Option (Array Bool))
    (cur prev : Reference) : Except (Fault DetectionError) Detection := do
  let noise ← Fault.ofRead (params.getInt ParameterName.noiseFactor)
  let pattern ← Fault.ofRead (params.getString ParameterName.despeckleFilter)
  let stats ← (statistics cur.width cur.height noise pattern panTilt mask cur.luma prev.luma).elim
    (.error (.crashed none)) .ok
  let low ← Fault.ofRead (params.getDouble ParameterName.minPixelsChanged)
  let triggered ←
    if low < stats.percent then do
      let high ← Fault.ofRead (params.getDouble ParameterName.maxPixelsChanged)
      pure (decide (stats.percent < high))
    else pure false
  let factors :=
    if triggered && panTilt then dampingFactors cur.width cur.height stats else (1.0, 1.0)
  return { Detection.plain triggered stats with factors }

/-- Compares a frame by asking a plugin. -/
def detectExternal (e : Plugin.ExternalDetector) (ts : Nat) (mask : Option (Array Bool))
    (cur prev : Reference) : Except (Fault DetectionError) Detection :=
  match e.detect ts cur.width cur.height prev.rgb cur.rgb (mask.map Array.toList) with
  | .error (.failed cause) => .error (.failed (.plugin cause))
  | .error (.crashed cause) => .error (.crashed cause)
  | .ok (triggered, text) =>
    .ok { Detection.plain triggered (.ofCount 0 (cur.width * cur.height)) with text }

/-- Compares a frame with the reference, and makes it the reference. -/
def compareWith (d : MotionDetector) (params : ParameterSet) (f : Frame) (prev : Reference) :
    Except (Fault DetectionError) (MotionDetector × Detection × List MetaWrite) := do
  if (prev.width, prev.height) ≠ f.dim then
    throw (.failed (.resized prev.width prev.height f.width f.height))
  let cur ← (Reference.ofFrame d.decoder f).mapError fun e => .failed (.frame e)
  let panTilt ← Fault.ofRead (params.getBool ParameterName.panTilt)
  let (mask, d) := d.maskFor f.width f.height
  let detection ← match d.backend with
    | .builtin => detectBuiltin params panTilt mask cur prev
    | .external e => detectExternal e f.ts mask cur prev
  return ({ d with reference := some cur }, detection, detection.writes)

/-- Handles a frame: the first one becomes the reference, any other one is compared with it. Before
anything else its pixels are counted. -/
def process (d : MotionDetector) (params : ParameterSet) (f : Frame) :
    Except (Fault DetectionError) (MotionDetector × Detection × List MetaWrite) :=
  if maxCount < f.area then .error (.crashed none)
  else
    match d.reference with
    | some prev => d.compareWith params f prev
    | none =>
      match d.prime f with
      | .ok d => .ok (d, .idle f.area, [])
      | .error e => .error (.failed (.frame e))

end MotionDetector

end MotionWatch
