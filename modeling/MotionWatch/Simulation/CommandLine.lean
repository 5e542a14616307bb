import MotionWatch.Simulation.Report

/-!
# The command line of the simulation

The only argument is the path of a configuration file, and it can be left out.

* `Ending`: the code, the output and the complaint that the program ends with.
* `simulation`: the ending for a configuration.
-/

namespace MotionWatch

/-- How a program ends. -/
structure Ending where
  code : Nat
  /-- What it writes. -/
  output : String
  /-- What it writes about what went wrong. -/
  complaint : String
  deriving DecidableEq, Repr

/-- What was found at the path of the configuration. -/
inductive Found where
  | nothing
  /-- A file that holds no text. -/
  | garbage
  | text (content : String)
  deriving DecidableEq, Repr

/-- The lines below the first one of a complaint. They are numbered if there are several. -/
def causeLines : List String → List String
  | [] => []
  | [cause] => ["", "Caused by:", s!"    {cause}"]
  | causes => ["", "Caused by:"] ++ causes.mapIdx fun i cause => s!"    {i}: {cause}"

/-- A complaint about causes, the outermost first. -/
def complaintOf (causes : List String) : String :=
  match causes with
  | [] => ""
  | cause :: deeper => "\n".intercalate (s!"Error: {cause}" :: causeLines deeper) ++ "\n"

/-- The code of a program that failed. -/
def failureCode : Nat := 1

/-- The code of a program that crashed. -/
def crashCode : Nat := 101

/-- The ending of a simulation that cannot be done. -/
def Ending.ofError : SimulationError → Ending
  | .crashed => ⟨crashCode, "", ""⟩
  | e => ⟨failureCode, "", complaintOf e.causes⟩

/-- The ending of a simulation that was done. -/
def Ending.ofStudio (s : Studio) : Ending :=
  ⟨0, String.join (s.report.map (· ++ "\n")),
    String.join ((s.log.filter fun r => r.level = .error).map fun r => r.render ++ "\n")⟩

/-- The configuration at a path. -/
def configAt (path : String) : Found → Except SimulationError SimulationConfig
  | .nothing => .error (.cannotOpen path)
  | .garbage => .error (.cannotParse path)
  | .text content =>
    match JsonValue.parse? content >>= SimulationConfig.ofJson? with
    | some c => .ok c
    | none => .error (.cannotParse path)

/-- The configuration of a simulation: what was found at a path, or the standard one. -/
def chosenConfig : Option (String × Found) → Except SimulationError SimulationConfig
  | some (path, found) => configAt path found
  | none => .ok .standard

/-- The ending of a simulation. -/
def simulation (config : Option (String × Found)) (files : Files) (decoder : Decoder) : Ending :=
  match chosenConfig config >>= fun c => c.simulate files decoder with
  | .ok s => .ofStudio s
  | .error e => .ofError e

/-- The paths of the files that a configuration names: those of pictures, and those of plugins. -/
def SimulationConfig.namedFiles (c : SimulationConfig) : List String × List String :=
  (c.motion.selectionBitmap.toList, c.motion.plugin.toList.map PluginConfig.file)

end MotionWatch
