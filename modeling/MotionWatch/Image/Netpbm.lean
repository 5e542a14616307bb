import MotionWatch.Decimal.Integer
import MotionWatch.Image.Picture

/-!
# Netpbm pictures

The plain and the raw forms of bitmaps, grey maps and pixel maps (`P1` to `P6`) with values up
to 255. The magic number alone tells the form.

* `decodeNetpbm`: the picture of a file, or nothing.
-/

namespace MotionWatch.Netpbm

/-- The blanks of the format. -/
def isSpace (b : UInt8) : Bool := b = 0x20 || (0x09 ≤ b && b ≤ 0x0D)

/-- Reads the bytes of a header word up to the blank behind it. A comment runs from a `#` to the
end of its line and belongs to no word. -/
def headerWord (inComment : Bool) (word : List UInt8) :
    List UInt8 → Option (List UInt8 × List UInt8)
  | [] => if word.isEmpty then none else some (word.reverse, [])
  | b :: rest =>
    if inComment ∨ b = 0x23 then headerWord (b ≠ 0x0A ∧ b ≠ 0x0D) word rest
    else if isSpace b then
      if word.isEmpty then headerWord false word rest else some (word.reverse, rest)
    else if 128 ≤ b then none
    else headerWord false (b :: word) rest

/-- The characters of bytes that are all ASCII. -/
def asciiChars (bytes : List UInt8) : List Char := bytes.map fun b => .ofNat b.toNat

/-- Reads a number of the header. -/
def headerNumber (bytes : List UInt8) : Option (Nat × List UInt8) := do
  let (word, rest) ← headerWord false [] bytes
  let n ← (Decimal.readNat 4294967295 (asciiChars word)).toOption
  some (n, rest)

/-- Reads `n` plain sample values. -/
def plainSamples : Nat → List UInt8 → Option (List UInt8)
  | 0, _ => some []
  | n + 1, bytes => do
    let bytes := bytes.dropWhile isSpace
    let token := bytes.takeWhile fun b => !isSpace b
    let v ← (Decimal.readNat 255 (asciiChars token)).toOption
    let rest ← plainSamples n ((bytes.dropWhile fun b => !isSpace b).drop 1)
    some (.ofNat v :: rest)

/-- Reads `n` plain bits, of which 1 is black. -/
def plainBits : Nat → List UInt8 → Option (List UInt8)
  | 0, _ => some []
  | _, [] => none
  | n + 1, b :: rest =>
    if isSpace b then plainBits (n + 1) rest
    else if b = 0x30 then (255 :: ·) <$> plainBits n rest
    else if b = 0x31 then (0 :: ·) <$> plainBits n rest
    else none

/-- Reads rows of packed bits, of which 1 is black. -/
def rawBits (width : Nat) : Nat → List UInt8 → Option (List UInt8)
  | 0, _ => some []
  | rows + 1, bytes => do
    let (row, rest) ← splitBytes ((width + 7) / 8) bytes
    let greys := (List.range width).map fun x =>
      if (row.getD (x / 8) 0).toNat.testBit (7 - x % 8) then 0 else 255
    (greys ++ ·) <$> rawBits width rows rest

/-- A picture of grey values. -/
def greyPicture (width height : Nat) (greys : List UInt8) : Option Picture :=
  Picture.ofPixels? width height (greys.map Rgb.grey)

/-- A picture of coloured pixels. -/
def colourPicture (width height : Nat) (bytes : List UInt8) : Option Picture :=
  Picture.ofPixels? width height (pixelsOfRgb bytes)

/-- Reads the greatest value, which has to be 255, and the samples in their form. -/
def readSamples (plain : Bool) (count : Nat) (bytes : List UInt8) : Option (List UInt8) := do
  let (greatest, bytes) ← headerNumber bytes
  if greatest ≠ 255 then none
  else if plain then plainSamples count bytes
  else Prod.fst <$> splitBytes count bytes

end MotionWatch.Netpbm

namespace MotionWatch

open Netpbm in
/-- The picture of a Netpbm file. -/
def decodeNetpbm : List UInt8 → Option Picture
  | 0x50 :: form :: bytes => do
    let (width, bytes) ← headerNumber bytes
    let (height, bytes) ← headerNumber bytes
    match form with
    | 0x31 => plainBits (width * height) bytes >>= greyPicture width height
    | 0x32 => readSamples true (width * height) bytes >>= greyPicture width height
    | 0x33 => readSamples true (width * height * 3) bytes >>= colourPicture width height
    | 0x34 => rawBits width height bytes >>= greyPicture width height
    | 0x35 => readSamples false (width * height) bytes >>= greyPicture width height
    | 0x36 => readSamples false (width * height * 3) bytes >>= colourPicture width height
    | _ => none
  | _ => none

end MotionWatch
