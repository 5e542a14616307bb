import MotionWatch.Fault
import MotionWatch.Plugin.Border
import MotionWatch.Plugin.Elf

/-!
# External detectors

A detector in a plugin file. The file is inspected before it is loaded, because a library without
the right functions could do anything; the sizes of all buffers are checked before each call.

* `PluginFile`: a file as it is seen by whoever inspects it.
* `ExternalDetector.load`: the detector in a file, or a `PluginError`.
* `ExternalDetector.detect`: calls it.
-/

namespace MotionWatch.Plugin

/-- Why there is no detector, or no detection. -/
inductive PluginError where
  | uninspectable (path : String)
  | missingExports (path : String) (names : List String)
  | unloadable (path : String)
  | zeroInParameter
  | refused (path : String)
  | dataMismatch (width height : Nat)
  | maskMismatch (width height : Nat)
  | tooLarge
  deriving DecidableEq, Repr

/-- What is said about a missing detector or detection. -/
def PluginError.message : PluginError → String
  | uninspectable path => s!"cannot inspect plugin {path}"
  | missingExports path names => s!"plugin {path} does not export " ++ ", ".intercalate names
  | unloadable path => s!"cannot load plugin {path}"
  | zeroInParameter => "plugin parameter contains a nul byte"
  | refused path => s!"plugin {path} failed to initialize"
  | dataMismatch w h => s!"frame data does not match {w}x{h}"
  | maskMismatch w h => s!"selection mask does not match {w}x{h}"
  | tooLarge => "number too large to fit in target type"

/-- What is found at the path of a plugin. -/
inductive PluginFile where
  | absent
  /-- Some file, which is no library that can be loaded, with its symbol tables if it has any. -/
  | other (tables : Option Elf)
  /-- The library with the block detector. -/
  | blockLibrary
  deriving DecidableEq, Repr

/-- The functions that every plugin has to offer. -/
def entryPoints : List String := ["init_motion_trigger", "detect_motion", "uninit_motion_trigger"]

/-- The names in a file that start with the given characters, if it is a library. -/
def PluginFile.exportsWithPrefix (start : String) : PluginFile → Option (List String)
  | absent => none
  | other tables => tables.map (·.exportsWithPrefix start)
  | blockLibrary =>
    some (sortNames (entryPoints.filter fun name => start.toList.isPrefixOf name.toList))

/-- Refuses a file that lacks one of the wanted functions. -/
def checkEntryPoints (path : String) (file : PluginFile) (wanted : List String) :
    Except PluginError Unit :=
  match file.exportsWithPrefix "" with
  | none => .error (.uninspectable path)
  | some names =>
    let missing := wanted.filter fun name => !names.contains name
    if missing.isEmpty then .ok () else .error (.missingExports path missing)

/-- A detector in a loaded library. -/
structure ExternalDetector where
  detector : Instance

namespace ExternalDetector

/-- Makes the detector of a loaded library. -/
def instantiate (path parameter : String) : Except PluginError ExternalDetector :=
  if parameter.toList.contains '\x00' then .error .zeroInParameter
  else
    match Border.start (some parameter) with
    | (some d, _) => .ok ⟨Border.instanceOf d⟩
    | (none, _) => .error (.refused path)

/-- Inspects and loads a plugin, and makes its detector. -/
def load (path : String) (file : PluginFile) (parameter : String) :
    Except PluginError ExternalDetector := do
  checkEntryPoints path file entryPoints
  match file with
  | .blockLibrary => instantiate path parameter
  | _ => .error (.unloadable path)

/-- What is logged when a plugin was loaded. -/
def loadedRecord (path : String) : LogRecord := ⟨.info, s!"loaded detector plugin {path}"⟩

/-- The greatest width or height that can be passed to a library. -/
def maxDimension : Nat := 2147483647

/-- Calls the detector. The data and the mask have to be of the right length. The program stops if
the bytes cannot be counted, and if the library does. -/
def detect (e : ExternalDetector) (ts width height : Nat) (prev cur : List UInt8)
    (mask : Option (List Bool)) : Except (Fault PluginError) (Bool × Option String) :=
  let n := width * height
  if maxCount < n * 3 then .error (.crashed none)
  else if prev.length ≠ n * 3 ∨ cur.length ≠ n * 3 then
    .error (.failed (.dataMismatch width height))
  else if mask.any fun m => m.length ≠ n then .error (.failed (.maskMismatch width height))
  else if maxDimension < width ∨ maxDimension < height then .error (.failed .tooLarge)
  else
    (e.detector.detect
      { ts, width, height, prev, cur
        mask := mask.map fun m => m.map fun b => if b then 1 else 0 }).elim
      (.error (.crashed none)) .ok

end ExternalDetector

end MotionWatch.Plugin
