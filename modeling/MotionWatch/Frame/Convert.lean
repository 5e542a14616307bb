import MotionWatch.Frame.Basic
import MotionWatch.Image.Picture

/-!
# The pixels of a frame

Compressed streams are left to a decoder.

* `Decoder`: a decoder of compressed streams.
* `Frame.toRgb`: three bytes per pixel, whatever the encoding.
* `Frame.intoRgb`: the frame with that encoding.
* `Frame.luma`: the grey value of every pixel.
-/

namespace MotionWatch

/-- A decoder of compressed streams: the picture of a stream, or nothing. -/
abbrev Decoder := List UInt8 → Option Picture

namespace Frame

/-- The pixels as three bytes each. Only a compressed stream can fail: it may be no picture, or
one of another size. -/
def toRgb (decode : Decoder) (f : Frame) : Except FrameError (List UInt8) :=
  match f.encoding with
  | .rgb => .ok f.data
  | .yuyv => .ok (bytesOfPixels (pixelsOfYuyv f.data))
  | .jpeg =>
    match decode f.data with
    | none => .error .undecodable
    | some picture =>
      if (picture.width, picture.height) = f.dim then .ok (bytesOfPixels picture.pixels)
      else .error (.sizeMismatch picture.width picture.height f.width f.height)

/-- The same frame with its pixels stored as they are. -/
def intoRgb (decode : Decoder) (f : Frame) : Except FrameError Frame :=
  if f.encoding = .rgb then .ok f
  else do create f.ts f.width f.height .rgb (← f.toRgb decode)

/-- The grey value of every pixel. -/
def luma (decode : Decoder) (f : Frame) : Except FrameError (List UInt8) :=
  (f.toRgb decode).map lumasOfRgb

end Frame

end MotionWatch
