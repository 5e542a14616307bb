import MotionWatch.Block.Area
import MotionWatch.Count
import MotionWatch.Decimal.Layout
import MotionWatch.Decimal.Number
import MotionWatch.Frame.Pixel
import MotionWatch.Log
import MotionWatch.Text.KeyValue

/-!
# Motion in blocks

This detector divides the picture into a square grid of blocks. A block is changed if its pixels
changed enough on average, and there is motion if the biggest connected area of changed blocks
covers enough of the picture. It computes in single precision.

* `BlockDetector.ofText`: the detector with the settings of a line.
* `BlockDetector.gridSide`: how finely the picture is divided.
* `BlockDetector.detect?`: compares two pictures; nothing if one of them is too short, or a block
  has more pixels than can be counted in 32 bits.
-/

namespace MotionWatch

open Block

/-- Why a line of settings is refused. -/
inductive BlockSettingError where
  | integer (cause : Decimal.IntegerError)
  | number (cause : Decimal.NumberError)
  | unknown (key : String)
  | minSize
  | subdivide
  deriving DecidableEq, Repr

/-- What is said about refused settings. -/
def BlockSettingError.message : BlockSettingError → String
  | integer cause => cause.message
  | number cause => cause.message
  | unknown key => s!"unknown parameter {key}"
  | minSize => "min_size must be in (0, 1]"
  | subdivide => "subdivide must be positive"

/-- The settings of a detector. -/
structure BlockDetector where
  /-- The part of the picture that the moving area has to cover. -/
  minSize : Float32
  /-- The number of blocks along the side of the smallest moving area. -/
  subdivide : Nat
  /-- The average change of brightness at which a block counts as changed. -/
  threshold : Float32

/-- The least natural number that is not below a number, at most the greatest count. -/
def ceilNat (x : Float32) : Nat :=
  let n := x.toUInt64.toNat
  min maxCount (if Float32.ofNat n < x then n + 1 else n)

namespace BlockDetector

/-- The settings that apply where a line is silent. -/
def standard : BlockDetector := ⟨0.1, 4, 16.0⟩

/-- Changes one setting. -/
def assign (d : BlockDetector) (key value : String) : Except BlockSettingError BlockDetector :=
  if key = "min_size" then
    match Decimal.readFloat32 value.toList with
    | .ok x => .ok { d with minSize := x }
    | .error e => .error (.number e)
  else if key = "subdivide" then
    match Decimal.readNat maxCount value.toList with
    | .ok n => .ok { d with subdivide := n }
    | .error e => .error (.integer e)
  else if key = "threshold" then
    match Decimal.readFloat32 value.toList with
    | .ok x => .ok { d with threshold := x }
    | .error e => .error (.number e)
  else .error (.unknown key)

/-- The detector with the settings of a line, which are checked when all are read. -/
def ofText (line : String) : Except BlockSettingError BlockDetector := do
  let d ← (Text.KeyValue.parse line).foldlM (fun d (k, v) => d.assign k v) standard
  if ¬ (0.0 < d.minSize ∧ d.minSize ≤ 1.0) then .error .minSize
  else if d.subdivide = 0 then .error .subdivide
  else .ok d

/-- The number of blocks along each side of a picture that is large enough. -/
def gridSide (d : BlockDetector) : Nat :=
  ceilNat (1.0 / (d.minSize.sqrt / Float32.ofNat d.subdivide))

/-- The settings as they are shown to a programmer. -/
def describe (d : BlockDetector) : String :=
  s!"BlockMotion \x7b min_size: {Decimal.detailedFloat32 d.minSize}, subdivide: {d.subdivide}, " ++
    s!"threshold: {Decimal.detailedFloat32 d.threshold} \x7d"

/-- What a new detector tells. -/
def announcement (d : BlockDetector) : LogRecord :=
  ⟨.info, s!"block detector: {d.gridSide}x{d.gridSide} blocks, " ++
    s!"min_size={Decimal.plainFloat32 d.minSize}, threshold={Decimal.plainFloat32 d.threshold}"⟩

/-! ## The blocks of a picture -/

/-- The number of blocks along each side of a picture. Blocks are never smaller than a pixel. -/
def sideFor (d : BlockDetector) (width height : Nat) : Nat :=
  max 1 (min (min d.gridSide width) height)

/-- The block of pixel `i`, as column and row of the grid. -/
def blockOf (side width height i : Nat) : Cell :=
  (i % width * side / width, i / width * side / height)

/-- Whether a pixel is looked at: without a mask all are, else those with a byte that is not
zero. -/
def isSelected (mask : Option (Array UInt8)) (i : Nat) : Bool :=
  match mask with
  | none => true
  | some m => m.getD i 0 != 0

/-- Whether the data holds everything that a comparison of so many pixels looks at. -/
def reaches (pixels : Nat) (prev cur : Array UInt8) (mask : Option (Array UInt8)) : Bool :=
  match mask with
  | none => pixels ≤ prev.size && pixels ≤ cur.size
  | some m =>
    pixels ≤ m.size &&
      (List.range pixels).all fun i => !isSelected mask i || (i < prev.size && i < cur.size)

/-- What is known of a block: the sum of its changes and the number of its pixels. -/
structure Tally where
  sum : Float32
  count : Nat

/-- The greatest number of pixels that a tally can count. -/
def maxTally : Nat := 4294967295

/-- No pixels. -/
def Tally.zero : Tally := ⟨0.0, 0⟩

/-- One more pixel, with its change. -/
def Tally.add (t : Tally) (change : Nat) : Tally := ⟨t.sum + Float32.ofNat change, t.count + 1⟩

/-- The absolute difference of two bytes. -/
def distance (a b : UInt8) : Nat := max a.toNat b.toNat - min a.toNat b.toNat

/-- The tallies of all blocks, in rows. -/
def tallies (side width height : Nat) (prev cur : Array UInt8) (mask : Option (Array UInt8)) :
    Array Tally :=
  (List.range (width * height)).foldl
    (fun ts i =>
      if isSelected mask i then
        let (x, y) := blockOf side width height i
        ts.modify (y * side + x) (·.add (distance (cur.getD i 0) (prev.getD i 0)))
      else ts)
    (.replicate (side * side) .zero)

/-- Whether the pixels of a block changed enough on average. -/
def isChanged (d : BlockDetector) (t : Tally) : Bool :=
  0 < t.count && d.threshold ≤ t.sum / Float32.ofNat t.count

/-- The changed blocks. -/
def changedBlocks (d : BlockDetector) (side : Nat) (ts : Array Tally) : List Cell :=
  (List.range (side * side)).filterMap fun i =>
    if d.isChanged (ts.getD i .zero) then some (i % side, i / side) else none

/-! ## Detection -/

/-- The outcome of a comparison. -/
structure Report where
  triggered : Bool
  /-- Blocks in the biggest changed area. -/
  area : Nat
  /-- All blocks. -/
  total : Nat
  deriving DecidableEq, Repr

/-- The outcome as it is published. -/
def Report.text (r : Report) : String := s!"area={r.area}/{r.total}"

/-- The outcome as it is logged. -/
def Report.record (r : Report) : LogRecord :=
  ⟨.trace, s!"block detector: biggest area {r.area}/{r.total}"⟩

/-- The outcome for the tallies of all blocks. -/
def report (d : BlockDetector) (side : Nat) (ts : Array Tally) : Report :=
  let area := biggestArea (d.changedBlocks side ts)
  { triggered := d.minSize ≤ Float32.ofNat area / Float32.ofNat (side * side)
    area
    total := side * side }

/-- Compares the grey values of two pictures. Counting stops the program if a block has too many
pixels. -/
def compare (d : BlockDetector) (width height : Nat) (prev cur : Array UInt8)
    (mask : Option (Array UInt8)) : Option Report :=
  let side := d.sideFor width height
  let ts := tallies side width height prev cur mask
  if ts.all (·.count ≤ maxTally) then some (d.report side ts) else none

/-- Compares two pictures of three bytes per pixel, of which those with a non-zero mask byte are
looked at. -/
def detect? (d : BlockDetector) (width height : Nat) (prev cur : List UInt8)
    (mask : Option (List UInt8)) : Option Report :=
  let prev := (lumasOfRgb prev).toArray
  let cur := (lumasOfRgb cur).toArray
  let mask := mask.map List.toArray
  if reaches (width * height) prev cur mask then d.compare width height prev cur mask else none

end BlockDetector

end MotionWatch
