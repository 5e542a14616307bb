/-!
# Pixels

Pixels are three bytes, red, green and blue. Cameras also deliver packed pairs of pixels that
share their colour, which are converted with the integer coefficients of BT.601.

* `Rgb.luma`: the grey value, the truncated average of the channels.
* `pixelsOfRgb`, `pixelsOfYuyv`: the pixels in raw bytes; an incomplete last group is dropped.
* `lumasOfRgb`: the grey values in raw bytes.
-/

namespace MotionWatch

/-- A pixel with its three channels. -/
structure Rgb where
  r : UInt8
  g : UInt8
  b : UInt8
  deriving DecidableEq, Repr, Inhabited

namespace Rgb

/-- The pixel with equal channels. -/
def grey (v : UInt8) : Rgb := ⟨v, v, v⟩

/-- The truncated average of the channels. -/
def luma (p : Rgb) : UInt8 := .ofNat ((p.r.toNat + p.g.toNat + p.b.toNat) / 3)

/-- The channels in the order in which they are stored. -/
def bytes (p : Rgb) : List UInt8 := [p.r, p.g, p.b]

end Rgb

/-- The pixels in bytes that hold three channels each. -/
def pixelsOfRgb : List UInt8 → List Rgb
  | r :: g :: b :: rest => ⟨r, g, b⟩ :: pixelsOfRgb rest
  | _ => []

/-- The grey values of the pixels in bytes that hold three channels each. -/
def lumasOfRgb (bytes : List UInt8) : List UInt8 := (pixelsOfRgb bytes).map Rgb.luma

/-- The bytes of a row of pixels. -/
def bytesOfPixels (ps : List Rgb) : List UInt8 := ps.flatMap Rgb.bytes

/-- An integer as a byte, the nearest one if it is none. -/
def clampByte (v : Int) : UInt8 := .ofNat (min 255 v.toNat)

/-- The pixel of a brightness and two colour differences, by BT.601. -/
def yuvPixel (y u v : UInt8) : Rgb :=
  let c : Int := (y.toNat : Int) - 16
  let d : Int := (u.toNat : Int) - 128
  let e : Int := (v.toNat : Int) - 128
  { r := clampByte ((298 * c + 409 * e + 128) / 256)
    g := clampByte ((298 * c - 100 * d - 208 * e + 128) / 256)
    b := clampByte ((298 * c + 516 * d + 128) / 256) }

/-- The pixels in bytes that hold two brightnesses with a shared colour between them. -/
def pixelsOfYuyv : List UInt8 → List Rgb
  | y₀ :: u :: y₁ :: v :: rest => yuvPixel y₀ u v :: yuvPixel y₁ u v :: pixelsOfYuyv rest
  | _ => []

theorem length_pixelsOfRgb (bytes : List UInt8) :
    (pixelsOfRgb bytes).length = bytes.length / 3 := by
  fun_induction pixelsOfRgb bytes with
  | case1 r g b rest ih => simp only [List.length_cons, ih]; omega
  | case2 l h =>
    match l, h with
    | [], _ | [_], _ | [_, _], _ => simp
    | r :: g :: b :: rest, h => exact (h r g b rest rfl).elim

end MotionWatch
