import MotionWatch.Image.Picture

/-!
# Uncompressed PNG pictures

PNG files with eight bits per channel, no interlacing, unfiltered rows and stored blocks, as
drawing programs write them at compression level zero. An alpha channel is ignored.

* `crc32`: the check sum of a chunk.
* `decodePng`: the picture of a file, or nothing.
-/

namespace MotionWatch.Png

/-- The check sum over a bit that leaves the register. -/
def crcStep (c : Nat) : Nat := if c % 2 = 1 then (c / 2) ^^^ 0xEDB88320 else c / 2

/-- The cyclic check sum of bytes. -/
def crc32 (bytes : List UInt8) : Nat :=
  (bytes.foldl (fun c b => (List.range 8).foldl (fun c _ => crcStep c) (c ^^^ b.toNat))
    0xFFFFFFFF) ^^^ 0xFFFFFFFF

/-- A chunk of a file. -/
structure Chunk where
  name : List UInt8
  data : List UInt8

/-- Reads a chunk, whose check sum has to be right. -/
def readChunk (bytes : List UInt8) : Option (Chunk × List UInt8) := do
  let (length, bytes) ← splitBytes 4 bytes
  let (name, bytes) ← splitBytes 4 bytes
  let (data, bytes) ← splitBytes (bigEndian length) bytes
  let (check, bytes) ← splitBytes 4 bytes
  if crc32 (name ++ data) = bigEndian check then some (⟨name, data⟩, bytes) else none

/-- The name of the header chunk. -/
def headerName : List UInt8 := [0x49, 0x48, 0x44, 0x52]

/-- The name of the chunks with the pixels. -/
def dataName : List UInt8 := [0x49, 0x44, 0x41, 0x54]

/-- The name of the last chunk. -/
def endName : List UInt8 := [0x49, 0x45, 0x4E, 0x44]

/-- The data of the chunks with the pixels, which follow one another. Some other chunk has to
begin behind them. -/
def readData : Nat → List UInt8 → Option (List UInt8)
  | 0, _ => none
  | fuel + 1, bytes =>
    if (bytes.drop 4).take 4 = dataName then do
      let (chunk, rest) ← readChunk bytes
      (chunk.data ++ ·) <$> readData fuel rest
    else if 8 ≤ bytes.length then some []
    else none

/-- Skips the chunks before those with the pixels. -/
def skipToData : Nat → List UInt8 → Option (List UInt8)
  | 0, _ => none
  | fuel + 1, bytes =>
    if (bytes.drop 4).take 4 = dataName then some bytes
    else do
      let (chunk, rest) ← readChunk bytes
      if chunk.name = endName then none else skipToData fuel rest

/-- The contents of stored blocks, up to the block that is marked as the last. -/
def storedBlocks : Nat → List UInt8 → Option (List UInt8)
  | fuel + 1, kind :: l₀ :: l₁ :: n₀ :: n₁ :: rest => do
    let length := bigEndian [l₁, l₀]
    if kind.toNat / 2 % 4 ≠ 0 ∨ length + bigEndian [n₁, n₀] ≠ 65535 then none
    else
      let (block, rest) ← splitBytes length rest
      if kind.toNat % 2 = 1 then some block else (block ++ ·) <$> storedBlocks fuel rest
  | _, _ => none

/-- The pixels of a row, by the number of channels: grey, grey and alpha, colours, colours and
alpha. -/
def rowPixels (colour : Nat) (row : List UInt8) : List Rgb :=
  match colour with
  | 0 => row.map Rgb.grey
  | 2 => pixelsOfRgb row
  | 4 => pairs row
  | _ => quadruples row
where
  pairs : List UInt8 → List Rgb
    | v :: _ :: rest => Rgb.grey v :: pairs rest
    | _ => []
  quadruples : List UInt8 → List Rgb
    | r :: g :: b :: _ :: rest => ⟨r, g, b⟩ :: quadruples rest
    | _ => []

/-- The number of channels of a colour type. -/
def channels : Nat → Option Nat
  | 0 => some 1
  | 2 => some 3
  | 4 => some 2
  | 6 => some 4
  | _ => none

/-- Reads unfiltered rows. -/
def readRows (colour rowLength : Nat) : Nat → List UInt8 → Option (List Rgb)
  | 0, _ => some []
  | rows + 1, filter :: bytes => do
    let (row, rest) ← splitBytes rowLength bytes
    if filter = 0 then (rowPixels colour row ++ ·) <$> readRows colour rowLength rows rest else none
  | _, [] => none

/-- The eight bytes at the start of every file. -/
def signature : List UInt8 := [0x89, 0x50, 0x4E, 0x47, 0x0D, 0x0A, 0x1A, 0x0A]

end MotionWatch.Png

namespace MotionWatch

open Png in
/-- The picture of a PNG file. -/
def decodePng (bytes : List UInt8) : Option Picture := do
  let (start, bytes) ← splitBytes 8 bytes
  let (header, bytes) ← readChunk bytes
  if start ≠ signature ∨ header.name ≠ headerName then none
  else
    match header.data with
    | [w₃, w₂, w₁, w₀, h₃, h₂, h₁, h₀, 8, colour, 0, 0, 0] =>
      let (width, height) := (bigEndian [w₃, w₂, w₁, w₀], bigEndian [h₃, h₂, h₁, h₀])
      let count ← channels colour.toNat
      let packed ← readData bytes.length (← skipToData bytes.length bytes)
      let rows ← storedBlocks packed.length (packed.drop 2)
      if width = 0 ∨ height = 0 ∨ packed.length < 2 then none
      else readRows colour.toNat (width * count) height rows >>= Picture.ofPixels? width height
    | _ => none

end MotionWatch
