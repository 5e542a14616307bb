import MotionWatch.Image.Picture

/-!
# Flat JPEG pictures

A decoder for the simplest compressed streams: baseline JPEG of one component, in which every
block of 8 by 8 pixels is flat. Such a stream is a sequence of marked segments, which bring a
quantiser, the size of the picture and two Huffman codes, and one scan with a brightness difference
per block. Whoever decodes frames takes a decoder as an argument; this one is for trying things out.

* `HuffmanCode`: canonical codes; `HuffmanCode.next` reads a symbol.
* `decodeJpeg`: the picture of a stream, or nothing.
-/

namespace MotionWatch.Jpeg

/-! ## Bits and codes -/

/-- The code words of a canonical code: width, word and symbol. -/
structure HuffmanCode where
  words : List (Nat × Nat × Nat)

/-- Assigns consecutive words to the symbols of each width, which grows by one bit at a time. -/
def assignWords : Nat → Nat → List Nat → List Nat → List (Nat × Nat × Nat)
  | _, _, [], _ => []
  | width, word, count :: counts, symbols =>
    (symbols.take count).zipIdx.map (fun (s, i) => (width, word + i, s))
      ++ assignWords (width + 1) (2 * (word + count)) counts (symbols.drop count)

/-- The code with the given number of symbols of each width from one bit on. -/
def HuffmanCode.ofCounts (counts symbols : List Nat) : HuffmanCode :=
  ⟨assignWords 1 0 counts symbols⟩

/-- Extends a word bit by bit until it is one of the code. -/
def HuffmanCode.extend (c : HuffmanCode) : Nat → Nat → List Bool → Option (Nat × List Bool)
  | _, _, [] => none
  | width, word, bit :: bits =>
    let word := 2 * word + bit.toNat
    match c.words.find? fun (w, v, _) => w == width + 1 && v == word with
    | some (_, _, symbol) => some (symbol, bits)
    | none => c.extend (width + 1) word bits

/-- Reads one symbol. -/
def HuffmanCode.next (c : HuffmanCode) (bits : List Bool) : Option (Nat × List Bool) :=
  c.extend 0 0 bits

/-- Reads a number of `n` bits. -/
def takeNumber (n : Nat) (bits : List Bool) : Option (Nat × List Bool) :=
  if n ≤ bits.length then
    some ((bits.take n).foldl (fun v b => 2 * v + b.toNat) 0, bits.drop n)
  else none

/-- The bits of a byte, the most significant one first. -/
def byteBits (b : UInt8) : List Bool := (List.range 8).map fun i => b.toNat.testBit (7 - i)

/-- The bits of a scan, which ends at the next marker; a zero byte after `FF` is filling. -/
def scanBits : List UInt8 → List Bool
  | 0xFF :: 0x00 :: rest => byteBits 0xFF ++ scanBits rest
  | 0xFF :: _ => []
  | b :: rest => byteBits b ++ scanBits rest
  | [] => []

/-! ## Segments -/

/-- What the segments before the scan have told. -/
structure Header where
  /-- Quantisers of the constant coefficient, by table number. -/
  quantisers : List (Nat × Nat)
  /-- Codes by table class and number. -/
  codes : List (Nat × HuffmanCode)
  /-- Width, height and quantiser number of the picture. -/
  size : Option (Nat × Nat × Nat)

/-- Before the first segment. -/
def Header.empty : Header := ⟨[], [], none⟩

/-- Quantiser tables of 64 bytes each; only the first byte matters to flat blocks. -/
def addQuantisers : Nat → List UInt8 → Header → Option Header
  | _, [], h => some h
  | 0, _, _ => none
  | fuel + 1, number :: rest, h => do
    let (table, rest) ← splitBytes 64 rest
    if number.toNat < 16 then
      addQuantisers fuel rest
        { h with quantisers := (number.toNat, bigEndian (table.take 1)) :: h.quantisers }
    else none

/-- Huffman tables: the number of symbols of each width, and the symbols. -/
def addCodes : Nat → List UInt8 → Header → Option Header
  | _, [], h => some h
  | 0, _, _ => none
  | fuel + 1, number :: rest, h => do
    let (counts, rest) ← splitBytes 16 rest
    let counts := counts.map UInt8.toNat
    let (symbols, rest) ← splitBytes counts.sum rest
    addCodes fuel rest
      { h with codes :=
          (number.toNat, HuffmanCode.ofCounts counts (symbols.map UInt8.toNat)) :: h.codes }

/-- The frame header of a picture with eight bits of one component. -/
def addSize : List UInt8 → Header → Option Header
  | [8, h₁, h₀, w₁, w₀, 1, _, _, q], h =>
    let (height, width) := (bigEndian [h₁, h₀], bigEndian [w₁, w₀])
    if width = 0 ∨ height = 0 then none
    else some { h with size := some (width, height, q.toNat) }
  | _, _ => none

/-! ## The scan -/

/-- The signed difference that is coded in a category by `n` bits with value `v`. -/
def difference (n v : Nat) : Int :=
  if v < Nat.pow 2 (n - 1) then (v : Int) - (Nat.pow 2 n - 1 : Nat) else v

/-- Reads the constant coefficients of a row of flat blocks, each as a difference to the one
before and the mark for the end of the block. -/
def readBlocks (dc ac : HuffmanCode) : Nat → Int → List Bool → Option (List Int)
  | 0, _, _ => some []
  | n + 1, previous, bits => do
    let (category, bits) ← dc.next bits
    let (value, bits) ← takeNumber category bits
    let level := previous + (if category = 0 then 0 else difference category value)
    let (mark, bits) ← ac.next bits
    if mark = 0 then (← readBlocks dc ac n level bits) |> (level :: ·) |> some else none

/-- The grey value of a flat block. -/
def blockGrey (quantiser : Nat) (level : Int) : UInt8 :=
  clampByte (128 + (level * quantiser + 4) / 8)

/-- The scan: its header names the codes, then the blocks follow. -/
def readScan (h : Header) (selector : UInt8) (data : List UInt8) : Option Picture := do
  let (width, height, q) ← h.size
  let quantiser ← h.quantisers.lookup q
  let dc ← h.codes.lookup (selector.toNat / 16)
  let ac ← h.codes.lookup (16 + selector.toNat % 16)
  let across := (width + 7) / 8
  let levels ← readBlocks dc ac (across * ((height + 7) / 8)) 0 (scanBits data)
  let greys := (levels.map (blockGrey quantiser)).toArray
  let pixels := (List.range (width * height)).map fun i =>
    Rgb.grey (greys.getD (i / width / 8 * across + i % width / 8) 0)
  Picture.ofPixels? width height pixels

/-- Reads segments up to the scan. -/
def readSegments : Nat → Header → List UInt8 → Option Picture
  | fuel + 1, h, 0xFF :: marker :: l₁ :: l₀ :: rest => do
    let length := bigEndian [l₁, l₀]
    if length < 2 then none
    else
      let (body, rest) ← splitBytes (length - 2) rest
      if marker = 0xDB then readSegments fuel (← addQuantisers 16 body h) rest
      else if marker = 0xC4 then readSegments fuel (← addCodes 16 body h) rest
      else if marker = 0xC0 then readSegments fuel (← addSize body h) rest
      else if marker = 0xDA then
        match body with
        | [1, _, selector, 0, 63, 0] => readScan h selector rest
        | _ => none
      else if 0xE0 ≤ marker then readSegments fuel h rest
      else none
  | _, _, _ => none

end MotionWatch.Jpeg

namespace MotionWatch

/-- The picture of a stream of flat grey blocks. -/
def decodeJpeg : List UInt8 → Option Picture
  | 0xFF :: 0xD8 :: rest => Jpeg.readSegments rest.length .empty rest
  | _ => none

end MotionWatch
