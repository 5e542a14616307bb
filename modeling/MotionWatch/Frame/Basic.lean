import MotionWatch.Count
import MotionWatch.Frame.Pixel

/-!
# Frames

A frame is what a camera delivers: a time, a size, and pixels in one of three encodings. A frame
is checked once, when it is made, so that everybody who gets one can rely on its size.

* `IsFrame`: what the data of a frame of some size is like.
* `Frame.create`: a frame from raw data, or a `FrameError`.
* `Frame.paint`: a frame from a function on its pixels.
-/

namespace MotionWatch

/-- How the data of a frame holds its pixels. -/
inductive Encoding where
  /-- Three channels per pixel. -/
  | rgb
  /-- Four bytes for two pixels, which share their colour. -/
  | yuyv
  /-- A compressed stream. -/
  | jpeg
  deriving DecidableEq, Repr

/-- The name of an encoding. -/
def Encoding.name : Encoding → String
  | rgb => "Rgb"
  | yuyv => "Yuyv"
  | jpeg => "Jpeg"

/-- The number of bytes that an encoding needs; streams may have any. -/
def neededLength (encoding : Encoding) (width height : Nat) : Option Nat :=
  match encoding with
  | .rgb => some (width * height * 3)
  | .yuyv => some (width * height * 2)
  | .jpeg => none

/-- What the data of a frame is like: the sides are positive, pairs of pixels are whole, and there
are as many bytes as needed, for so many pixels as can be held in memory as three bytes each. -/
structure IsFrame (width height : Nat) (encoding : Encoding) (data : List UInt8) : Prop where
  width_pos : 0 < width
  height_pos : 0 < height
  even : encoding = .yuyv → width % 2 = 0
  length : ∀ n ∈ neededLength encoding width height, data.length = n
  countable : encoding ≠ .jpeg → width * height * 3 ≤ maxCount
  ne_nil : data ≠ []

instance (width height : Nat) (encoding : Encoding) (data : List UInt8) :
    Decidable (IsFrame width height encoding data) :=
  decidable_of_iff
    (0 < width ∧ 0 < height ∧ (encoding = .yuyv → width % 2 = 0) ∧
      (∀ n ∈ neededLength encoding width height, data.length = n) ∧
      (encoding ≠ .jpeg → width * height * 3 ≤ maxCount) ∧ data ≠ [])
    ⟨fun ⟨h₁, h₂, h₃, h₄, h₅, h₆⟩ => ⟨h₁, h₂, h₃, h₄, h₅, h₆⟩,
      fun ⟨h₁, h₂, h₃, h₄, h₅, h₆⟩ => ⟨h₁, h₂, h₃, h₄, h₅, h₆⟩⟩

/-- Why there is no frame, or no pixels of a frame. -/
inductive FrameError where
  | zeroDimension (width height : Nat)
  | oddWidth (width : Nat)
  | wrongLength (encoding : Encoding) (width height needed got : Nat)
  | empty
  | undecodable
  | sizeMismatch (width height claimedWidth claimedHeight : Nat)
  /-- The bytes cannot be counted. The program stops at the product. -/
  | overflow
  deriving DecidableEq, Repr

/-- What is said about a missing frame. -/
def FrameError.message : FrameError → String
  | zeroDimension w h => s!"frame dimensions must be non-zero ({w}x{h})"
  | oddWidth w => s!"YUYV frames must have an even width (got {w})"
  | wrongLength e w h needed got => s!"{e.name} frame of {w}x{h} needs {needed} bytes, got {got}"
  | empty => "empty frame data"
  | undecodable => "undecodable JPEG data"
  | sizeMismatch w h w₁ h₁ => s!"JPEG is {w}x{h}, frame claims {w₁}x{h₁}"
  | overflow => "attempt to multiply with overflow"

/-- A frame of a camera. -/
structure Frame where
  /-- Time of the capture in microseconds. -/
  ts : Nat
  width : Nat
  height : Nat
  encoding : Encoding
  data : List UInt8
  checked : IsFrame width height encoding data
  deriving DecidableEq, Repr

namespace Frame

/-- Makes a frame, if the data can be one of that size and encoding. -/
def create (ts width height : Nat) (encoding : Encoding) (data : List UInt8) :
    Except FrameError Frame :=
  if width = 0 ∨ height = 0 then .error (.zeroDimension width height)
  else if encoding = .yuyv ∧ width % 2 ≠ 0 then .error (.oddWidth width)
  else
    let needed := neededLength encoding width height
    if needed.any (maxCount < ·) then .error .overflow
    else
      match needed.filter (· ≠ data.length) with
      | some n => .error (.wrongLength encoding width height n data.length)
      | none =>
        if data.isEmpty then .error .empty
        -- only packed pairs can fail here, with more bytes than any memory has
        else if h : IsFrame width height encoding data then
          .ok ⟨ts, width, height, encoding, data, h⟩
        else .error .overflow

/-- Makes a frame whose pixel at column `x` and row `y` is `f x y`. -/
def paint (ts width height : Nat) (f : Nat → Nat → Rgb) : Except FrameError Frame :=
  create ts width height .rgb <| bytesOfPixels <|
    (List.range height).flatMap fun y => (List.range width).map fun x => f x y

/-- Width and height. -/
def dim (f : Frame) : Nat × Nat := (f.width, f.height)

/-- The number of pixels. -/
def area (f : Frame) : Nat := f.width * f.height

/-- The pixels, if they are stored as they are. -/
def pixels? (f : Frame) : Option (List Rgb) :=
  if f.encoding = .rgb then some (pixelsOfRgb f.data) else none

end Frame

end MotionWatch
