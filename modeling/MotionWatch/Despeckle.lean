import MotionWatch.Count
import MotionWatch.Raster

/-!
# Despeckling

A map of changes is full of single pixels that only sensor noise has changed. They are removed by
a sequence of passes over the map, each of which takes the greatest or the least value in a square
window around every pixel. Windows are clipped at the edges of the map. A pass over squares is a
pass over rows and one over columns.

* `Pass`: a pass; `Pass.ofChar?` reads the pattern letters `d`, `e`, `D` and `E`.
* `despeckle`: all passes of a pattern, and the border cleared.
* `despeckleValues`: the same for a map that comes as its values in rows.
* `validatePattern`: refuses unknown letters.
-/

namespace MotionWatch

/-- A pass over a map. -/
inductive Pass where
  /-- Takes the greatest value within the radius. -/
  | dilate (radius : Nat)
  /-- Takes the least value within the radius. -/
  | erode (radius : Nat)
  deriving DecidableEq, Repr

namespace Pass

/-- The pass of a pattern letter. -/
def ofChar? : Char → Option Pass
  | 'd' => some (dilate 2)
  | 'e' => some (erode 2)
  | 'D' => some (dilate 4)
  | 'E' => some (erode 4)
  | _ => none

/-- How far a pass looks. -/
def radius : Pass → Nat
  | dilate r => r
  | erode r => r

/-- Which of two values a pass prefers. -/
def choose : Pass → UInt8 → UInt8 → UInt8
  | dilate _ => max
  | erode _ => min

/-- The positions below `n` that are at most `r` away from `i`. -/
def window (r n i : Nat) : List Nat := List.range' (i - r) (min n (i + r + 1) - (i - r))

/-- The preferred value on a line of `n` values within the radius of position `i`. -/
def best (p : Pass) (n : Nat) (f : Nat → UInt8) (i : Nat) : UInt8 :=
  (window p.radius n i).foldl (fun v j => p.choose v (f j)) (f i)

/-- The pass along the rows. -/
def alongRows (p : Pass) (m : Raster UInt8) : Raster UInt8 :=
  .ofFn m.width m.height fun x y => p.best m.width (fun i => m.get i y) x

/-- The pass along the columns. -/
def alongColumns (p : Pass) (m : Raster UInt8) : Raster UInt8 :=
  .ofFn m.width m.height fun x y => p.best m.height (fun i => m.get x i) y

/-- The pass over squares. -/
def apply (p : Pass) (m : Raster UInt8) : Raster UInt8 := p.alongColumns (p.alongRows m)

end Pass

/-- The width of the border that is cleared: the radius of the largest window. -/
def borderWidth : Nat := 4

/-- Whether a pixel is at least the border width away from all edges. -/
def isInner (width height x y : Nat) : Bool :=
  borderWidth ≤ x && x + borderWidth < width && borderWidth ≤ y && y + borderWidth < height

/-- The map with zeros on its border. -/
def clearBorder (m : Raster UInt8) : Raster UInt8 :=
  .ofFn m.width m.height fun x y => if isInner m.width m.height x y then m.get x y else 0

/-- The passes of a pattern; unknown letters stand for none. -/
def passes (pattern : String) : List Pass := pattern.toList.filterMap Pass.ofChar?

/-- The map after all passes of a pattern. A pattern that is not empty also clears the border,
where the windows were clipped. -/
def despeckle (m : Raster UInt8) (pattern : String) : Raster UInt8 :=
  if pattern.isEmpty then m
  else clearBorder ((passes pattern).foldl (fun m p => p.apply m) m)

/-! ## Values in rows -/

/-- The map that the passes are made over. Its sides are measured anew, and it has no more values
than they make room for. -/
def passMap (width height : Nat) (values : List UInt8) : Raster UInt8 :=
  let width := Count.wrapSide width
  let height := Count.wrapSide height
  ⟨width, height, (values.take (width * height)).toArray⟩

/-- The values after some passes. -/
def passValues (width height : Nat) (values : List UInt8) (ps : List Pass) : List UInt8 :=
  if ps.isEmpty then values
  else (ps.foldl (fun m p => p.apply m) (passMap width height values)).toList

/-- Row `y` of a map, with zeros where it belongs to the border. -/
def clearRow (width height y : Nat) (row : List UInt8) : List UInt8 :=
  row.mapIdx fun x v => if isInner width height x y then v else 0

/-- The values of the last `rows` rows, with zeros on the border of the map. There are none if a row
is not complete. -/
def clearRows (width height : Nat) : Nat → List UInt8 → Option (List UInt8)
  | 0, rest => some rest
  | rows + 1, values =>
    let row := values.take width
    if row.length = width then
      (clearRow width height (height - (rows + 1)) row ++ ·) <$>
        clearRows width height rows (values.drop width)
    else none

/-- The values of a map after all passes of a pattern, which have to be as many as it has pixels.
Where the passes leave fewer, there is no border to be cleared, and the program stops. -/
def despeckleValues (width height : Nat) (values : List UInt8) (pattern : String) :
    Option (List UInt8) :=
  if values.length ≠ width * height then none
  else if pattern.isEmpty then some values
  else clearRows width height height (passValues width height values (passes pattern))

/-! ## Patterns -/

/-- A pattern with an unknown letter. -/
structure PatternError where
  letter : Char
  pattern : String
  deriving DecidableEq, Repr

/-- What is said about a pattern with an unknown letter. -/
def PatternError.message (e : PatternError) : String :=
  s!"unknown despeckle operation '{e.letter}' in \"{e.pattern}\""

/-- Refuses a pattern with an unknown letter, and names the first one. -/
def validatePattern (pattern : String) : Except PatternError Unit :=
  match pattern.toList.find? fun c => (Pass.ofChar? c).isNone with
  | some c => .error ⟨c, pattern⟩
  | none => .ok ()

end MotionWatch
