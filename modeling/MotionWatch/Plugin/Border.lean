import MotionWatch.Block.Detector
import MotionWatch.Plugin.TerminatedText

/-!
# The border to a plugin

A plugin library offers functions on plain numbers and buffers. A detector inside of one is made
from a zero-terminated line of settings and called with two pictures and perhaps a mask; any of
the buffers may be missing, and then nothing is detected.

* `Comparison`: the arguments of a detector.
* `Instance`: a detector as it is seen from outside.
* `Border.start`, `Border.detect`: the functions of a library with a block detector.
-/

namespace MotionWatch.Plugin

/-- What a detector is called with. -/
structure Comparison where
  ts : Nat
  width : Nat
  height : Nat
  prev : List UInt8
  cur : List UInt8
  mask : Option (List UInt8)
  deriving DecidableEq, Repr

/-- A detector as it is seen from outside of its library: whether there is motion, and a text,
unless the library stops the program. -/
structure Instance where
  detect : Comparison → Option (Bool × Option String)

namespace Border

/-- Makes a detector from a zero-terminated line, or says why not. Without a line the standard
settings apply. -/
def start (parameter : Option String) : Option BlockDetector × LogRecord :=
  let line := fromTerminated (terminated (parameter.getD ""))
  match BlockDetector.ofText line with
  | .ok d => (some d, d.announcement)
  | .error e => (none, ⟨.error, s!"init_motion_trigger({line}): {e.message}"⟩)

/-- Calls a detector with buffers of three bytes per pixel, and a mask of one byte per pixel. -/
def compare (d : BlockDetector) (width height : Nat) (prev cur : List UInt8)
    (mask : Option (List UInt8)) : Option BlockDetector.Report :=
  let n := width * height
  d.detect? width height (prev.take (3 * n)) (cur.take (3 * n)) (mask.map (·.take n))

/-- The detection function: nothing is detected without an instance, without a picture or in an
empty picture. A detector that stops, stops the program. -/
def detect (instance? : Option BlockDetector) (width height : Int) (prev cur : Option (List UInt8))
    (mask : Option (List UInt8)) : Option (Option BlockDetector.Report) :=
  match instance?, prev, cur with
  | some d, some prev, some cur =>
    if width ≤ 0 ∨ height ≤ 0 then some none
    else (compare d width.toNat height.toNat prev cur mask).map some
  | _, _, _ => some none

/-- The answer of a detection function: a flag, and the text if it is wanted. -/
def answer (report : Option BlockDetector.Report) (wantsText : Bool) : Bool × Option String :=
  match report with
  | some r => (r.triggered, if wantsText then acrossBorder (some r.text) else none)
  | none => (false, none)

/-- A block detector as it is seen from outside of its library. -/
def instanceOf (d : BlockDetector) : Instance where
  detect c :=
    (detect (some d) c.width c.height (some c.prev) (some c.cur) c.mask).map (answer · true)

end Border

end MotionWatch.Plugin
