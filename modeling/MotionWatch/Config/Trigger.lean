import MotionWatch.Json.Decode
import MotionWatch.Mask.File
import MotionWatch.Parameter.Presets
import MotionWatch.Trigger.Audio
import MotionWatch.Trigger.Cascade
import MotionWatch.Trigger.Motion

/-!
# Configured triggers

A trigger can be described by a configuration, in which everything has a default. What the
configuration says is checked when the trigger is built from it.

* `TriggerConfig`, `CascadeConfig`, `AudioConfig`: the descriptions.
* `TriggerConfig.ofJson?` and its like: reading them.
* `TriggerConfig.buildParameters`, `build` and their like: building the triggers, or a
  `ConfigError`.
-/

namespace MotionWatch

/-- The files that a configuration can name, as they are read. -/
structure Files where
  picture : String → Option Picture
  plugin : String → Plugin.PluginFile

/-- Why a trigger cannot be built. -/
inductive ConfigError where
  | parameters (id : String) (cause : ParameterError)
  | parameter (cause : ParameterError)
  | zeroRate (id : String)
  | pattern (id : String) (cause : PatternError)
  | plugin (cause : Plugin.PluginError)
  | mask (cause : MaskError)
  | noUpstream (id : String)
  /-- The program is wrong. -/
  | misuse (cause : Misuse)
  deriving DecidableEq, Repr

/-- What is said about a trigger that cannot be built, outermost cause first. -/
def ConfigError.causes : ConfigError → List String
  | parameters id cause => s!"invalid parameters for trigger {id}" :: cause.causes
  | parameter cause => cause.causes
  | zeroRate id => [s!"{id}: max-fps must not be 0 (use -1 for unlimited)"]
  | pattern id cause => [s!"invalid despeckle filter for trigger {id}", cause.message]
  | plugin cause => [cause.message]
  | mask cause => [cause.message]
  | noUpstream id => [s!"{id}: cascading trigger without upstream triggers"]
  | misuse cause => [cause.message]

/-- Reads a kind of parameters. -/
def Kind.ofJson? : JsonValue → Option Kind :=
  JsonValue.toUnitVariant? ([bool, int, double, string].map fun k => (k.name, k))

/-- Reads a kind of events. -/
def EventKind.ofJson? : JsonValue → Option EventKind :=
  JsonValue.toUnitVariant? ([motion, audio].map fun k => (k.name, k))

/-! ## Motion triggers -/

/-- A detector in a plugin file. -/
structure PluginConfig where
  file : String
  parameter : String
  deriving DecidableEq, Repr

/-- A motion trigger. -/
structure TriggerConfig where
  id : String
  description : String
  warmUp : Nat
  execStart : String
  execEnd : String
  selectionBitmap : Option String
  plugin : Option PluginConfig
  /-- Overrides of parameters. -/
  parameters : Table Value

namespace PluginConfig

/-- No file. -/
def standard : PluginConfig := ⟨"", ""⟩

/-- Reads a configuration. -/
def ofJson? (v : JsonValue) : Option PluginConfig := do
  match ← v.fields? ["file", "parameter"] with
  | [file, parameter] =>
    return {
      file := ← JsonValue.withDefault "" JsonValue.toText? file
      parameter := ← JsonValue.withDefault "" JsonValue.toText? parameter }
  | _ => none

/-- Writes a configuration. -/
def toJson (c : PluginConfig) : JsonValue :=
  .ofFields [("file", .ofText c.file), ("parameter", .ofText c.parameter)]

end PluginConfig

namespace TriggerConfig

/-- The trigger that an empty configuration describes. -/
def standard : TriggerConfig := ⟨"motion", "", 10, "", "", none, none, .empty⟩

/-- The names of the fields, in order. -/
def fieldNames : List String :=
  ["id", "descr", "warm_up", "exec_start", "exec_end", "selection_bitmap", "plugin", "parameters"]

/-- Reads a configuration. -/
def ofJson? (v : JsonValue) : Option TriggerConfig := do
  match ← v.fields? fieldNames with
  | [id, descr, warmUp, execStart, execEnd, bitmap, plugin, parameters] =>
    return {
      id := ← JsonValue.withDefault standard.id JsonValue.toText? id
      description := ← JsonValue.withDefault "" JsonValue.toText? descr
      warmUp := ← JsonValue.withDefault standard.warmUp (JsonValue.toNat? JsonValue.maxNat) warmUp
      execStart := ← JsonValue.withDefault "" JsonValue.toText? execStart
      execEnd := ← JsonValue.withDefault "" JsonValue.toText? execEnd
      selectionBitmap :=
        ← JsonValue.withDefault none (JsonValue.toOptional? JsonValue.toText?) bitmap
      plugin := ← JsonValue.withDefault none (JsonValue.toOptional? PluginConfig.ofJson?) plugin
      parameters :=
        ← JsonValue.withDefault .empty (JsonValue.toTable? JsonValue.toParameterValue?) parameters }
  | _ => none

/-- Writes a configuration. -/
def toJson (c : TriggerConfig) : JsonValue :=
  .ofFields [("id", .ofText c.id), ("descr", .ofText c.description), ("warm_up", .ofNat c.warmUp),
    ("exec_start", .ofText c.execStart), ("exec_end", .ofText c.execEnd),
    ("selection_bitmap", .ofOptional .ofText c.selectionBitmap),
    ("plugin", .ofOptional PluginConfig.toJson c.plugin),
    ("parameters", .ofFields (c.parameters.map .ofParameterValue).toList)]

/-- Whether a configuration describes the same trigger as an empty one. -/
def isStandard (c : TriggerConfig) : Bool :=
  c.id = standard.id && c.description.isEmpty && c.warmUp = standard.warmUp &&
    c.execStart.isEmpty && c.execEnd.isEmpty && c.selectionBitmap.isNone && c.plugin.isNone &&
    c.parameters.toList.isEmpty

/-- The parameters with all overrides. The rate must not be zero and the despeckle filter has to
make sense. -/
def buildParameters (c : TriggerConfig) : Except ConfigError ParameterSet := do
  let params ← match motionDefaults.applyOverrides c.parameters.toList with
    | (params, .ok ()) => .ok params
    | (_, .error e) => .error (.parameters c.id e)
  let rate ← (params.getDouble ParameterName.maxFps).mapError .misuse
  if rate == 0.0 then throw (.zeroRate c.id)
  let pattern ← (params.getString ParameterName.despeckleFilter).mapError .misuse
  (validatePattern pattern).mapError (.pattern c.id)
  return params

/-- The mask of a detector, if a picture is named. -/
def buildMask (c : TriggerConfig) (files : Files) : Except ConfigError (Option SelectionMask) :=
  match c.selectionBitmap with
  | none => .ok none
  | some path =>
    match SelectionMask.load path (files.picture path) with
    | .ok m => .ok (some m)
    | .error e => .error (.mask e)

/-- The detector, with a plugin and a mask if they are named. -/
def buildDetector (c : TriggerConfig) (files : Files) (decoder : Decoder) :
    Except ConfigError MotionDetector := do
  let detector ← match c.plugin with
    | none => .ok (.builtin decoder)
    | some p =>
      match Plugin.ExternalDetector.load p.file (files.plugin p.file) p.parameter with
      | .ok e => .ok (.external decoder e)
      | .error e => .error (.plugin e)
  match ← c.buildMask files with
  | some m => return detector.withMask m
  | none => return detector

/-- The trigger for a camera, and its parameters. -/
def build (c : TriggerConfig) (files : Files) (decoder : Decoder) (source : String) :
    Except ConfigError (MotionTrigger × ParameterSet) := do
  let params ← c.buildParameters
  let detector ← c.buildDetector files decoder
  return ({ MotionTrigger.create c.id source detector with
    warmUp := c.warmUp
    onStart := .ofPath c.execStart
    onStop := .ofPath c.execEnd }, params)

end TriggerConfig

/-! ## Cascading triggers -/

/-- A cascading trigger. -/
structure CascadeConfig where
  id : String
  description : String
  preRecordDuration : Int
  deriving DecidableEq, Repr

namespace CascadeConfig

/-- The trigger that an empty configuration describes. -/
def standard : CascadeConfig := ⟨"cascade", "", 0⟩

/-- Reads a configuration. -/
def ofJson? (v : JsonValue) : Option CascadeConfig := do
  match ← v.fields? ["id", "descr", "pre_motion_record_duration"] with
  | [id, descr, duration] =>
    return {
      id := ← JsonValue.withDefault standard.id JsonValue.toText? id
      description := ← JsonValue.withDefault "" JsonValue.toText? descr
      preRecordDuration := ← JsonValue.withDefault 0 JsonValue.toInt? duration }
  | _ => none

/-- Writes a configuration. -/
def toJson (c : CascadeConfig) : JsonValue :=
  .ofFields [("id", .ofText c.id), ("descr", .ofText c.description),
    ("pre_motion_record_duration", .ofInt c.preRecordDuration)]

/-- The parameters with the configured duration. -/
def buildParameters (c : CascadeConfig) : Except ConfigError ParameterSet :=
  (cascadeDefaults.set ParameterName.preRecordDuration (.int (.ofInt c.preRecordDuration))).mapError
    .parameter

/-- The trigger for a camera, and its parameters. It has to follow at least one trigger. -/
def build (c : CascadeConfig) (source : String) (upstream : Nat) :
    Except ConfigError (CascadingTrigger × ParameterSet) := do
  if upstream = 0 then throw (.noUpstream c.id)
  let params ← c.buildParameters
  let trigger ← (CascadingTrigger.create c.id source params).mapError .misuse
  return (trigger, params)

end CascadeConfig

/-! ## Audio triggers -/

/-- An audio trigger. -/
structure AudioConfig where
  id : String
  description : String
  threshold : Nat
  minLoud : Nat
  deriving DecidableEq, Repr

namespace AudioConfig

/-- The trigger that an empty configuration describes. -/
def standard : AudioConfig := ⟨"audio", "", 1000, 5⟩

/-- The greatest threshold. -/
def maxThreshold : Nat := 65535

/-- Reads a configuration. -/
def ofJson? (v : JsonValue) : Option AudioConfig := do
  match ← v.fields? ["id", "descr", "threshold", "min_n_triggers"] with
  | [id, descr, threshold, minLoud] =>
    return {
      id := ← JsonValue.withDefault standard.id JsonValue.toText? id
      description := ← JsonValue.withDefault "" JsonValue.toText? descr
      threshold :=
        ← JsonValue.withDefault standard.threshold (JsonValue.toNat? maxThreshold) threshold
      minLoud :=
        ← JsonValue.withDefault standard.minLoud (JsonValue.toNat? JsonValue.maxNat) minLoud }
  | _ => none

/-- Writes a configuration. -/
def toJson (c : AudioConfig) : JsonValue :=
  .ofFields [("id", .ofText c.id), ("descr", .ofText c.description),
    ("threshold", .ofNat c.threshold), ("min_n_triggers", .ofNat c.minLoud)]

/-- The trigger for a microphone with so many samples per second. -/
def build (c : AudioConfig) (rate : Nat) : AudioTrigger := ⟨c.id, c.threshold, c.minLoud, rate⟩

end AudioConfig

end MotionWatch
