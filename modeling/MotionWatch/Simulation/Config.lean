import MotionWatch.Config.Trigger

/-!
# Configured simulations

A simulation can be described by a configuration, in which everything has a default.

* `SimulationConfig.standard`: all defaults.
* `SimulationConfig.ofJson?`: reading a configuration.
-/

namespace MotionWatch

/-- A simulation. All times are in seconds. -/
structure SimulationConfig where
  /-- How long it lasts. -/
  seconds : Float
  /-- Frames per second. -/
  fps : Float
  /-- Size of the camera that is watched. -/
  lores : Nat × Nat
  /-- Size of the camera that is recorded. -/
  hires : Nat × Nat
  /-- Length of a cycle of the scene. -/
  period : Float
  /-- How long something moves in each cycle. -/
  active : Float
  motion : TriggerConfig
  cascade : CascadeConfig
  audio : Option AudioConfig

namespace SimulationConfig

/-- The motion trigger of a simulation that says nothing about it. -/
def standardMotion : TriggerConfig :=
  { TriggerConfig.standard with
    id := "lores"
    warmUp := 5
    parameters :=
      .ofList [(ParameterName.minFrames, .int 2), (ParameterName.minPixelsChanged, .double 0.5)] }

/-- The simulation that an empty configuration describes. -/
def standard : SimulationConfig where
  seconds := 12.0
  fps := 15.0
  lores := (160, 120)
  hires := (640, 480)
  period := 5.0
  active := 2.0
  motion := standardMotion
  cascade := { CascadeConfig.standard with id := "hires", preRecordDuration := 15 }
  audio := none

/-- The names of the fields, in order. -/
def fieldNames : List String :=
  ["seconds", "fps", "lores", "hires", "period", "active", "motion", "cascade", "audio"]

/-- Reads a size. -/
def size? : JsonValue → Option (Nat × Nat) :=
  JsonValue.toPair? (JsonValue.toNat? JsonValue.maxNat) (JsonValue.toNat? JsonValue.maxNat)

/-- Reads a configuration. -/
def ofJson? (v : JsonValue) : Option SimulationConfig := do
  match ← v.fields? fieldNames with
  | [seconds, fps, lores, hires, period, active, motion, cascade, audio] =>
    return {
      seconds := ← JsonValue.withDefault standard.seconds JsonValue.toDouble? seconds
      fps := ← JsonValue.withDefault standard.fps JsonValue.toDouble? fps
      lores := ← JsonValue.withDefault standard.lores size? lores
      hires := ← JsonValue.withDefault standard.hires size? hires
      period := ← JsonValue.withDefault standard.period JsonValue.toDouble? period
      active := ← JsonValue.withDefault standard.active JsonValue.toDouble? active
      motion := ← JsonValue.withDefault standard.motion TriggerConfig.ofJson? motion
      cascade := ← JsonValue.withDefault standard.cascade CascadeConfig.ofJson? cascade
      audio := ← JsonValue.withDefault none (JsonValue.toOptional? AudioConfig.ofJson?) audio }
  | _ => none

end SimulationConfig

end MotionWatch
