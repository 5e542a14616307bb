import MotionWatch.Image.File
import MotionWatch.Plugin.ElfFile
import MotionWatch.Simulation.CommandLine

/-!
# The program

It reads the configuration and the files that are named there, and writes what the simulation says.
-/

open MotionWatch

/-- The bytes of a file, if it can be read. -/
def readBytes? (path : String) : IO (Option (List UInt8)) := do
  match ← (IO.FS.readBinFile path).toBaseIO with
  | .ok content => return some content.toList
  | .error _ => return none

/-- What is found at a path. -/
def look (path : String) : IO Found := do
  match ← (IO.FS.Handle.mk path .read).toBaseIO with
  | .error _ => return .nothing
  | .ok _ =>
    match ← (IO.FS.readFile path).toBaseIO with
    | .ok content => return .text content
    | .error _ => return .garbage

/-- The files that a configuration names. -/
def readFiles (config : Option (String × Found)) : IO Files := do
  let (pictures, plugins) := match chosenConfig config with
    | .ok c => c.namedFiles
    | .error _ => ([], [])
  let pictures ← pictures.mapM fun path => return (path, ← readBytes? path)
  let plugins ← plugins.mapM fun path => return (path, ← readBytes? path)
  return {
    picture path := readPicture path (pictures.lookup path).join
    plugin path := (plugins.lookup path).join.elim .absent fun content =>
      .other (Plugin.Elf.ofBytes? content) }

/-- Runs the simulation. -/
def main (args : List String) : IO UInt32 := do
  let config ← match args with
    | [] => pure none
    | path :: _ => do pure (some (path, ← look path))
  let ending := simulation config (← readFiles config) decodeJpeg
  IO.print ending.output
  IO.eprint ending.complaint
  return .ofNat ending.code
