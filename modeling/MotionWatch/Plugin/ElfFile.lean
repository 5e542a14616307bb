import MotionWatch.Plugin.Elf

/-!
# Reading ELF files

A reader for the simplest libraries: 64-bit little-endian files, whose dynamic table is found
through the program headers and has as many symbols as its hash table says, and whose full table is
a section. Whoever looks for names takes the tables as they are; this reader is for trying things
out.

* `Elf.ofBytes?`: the symbol tables of a file, or nothing if it is no such file.
-/

namespace MotionWatch.Plugin

/-! ## Fields -/

/-- The little-endian number in `n` bytes from an offset on. -/
def word? (file : Array UInt8) (n offset : Nat) : Option Nat :=
  if offset + n ≤ file.size then
    some ((List.range n).foldr (fun i v => 256 * v + (file.getD (offset + i) 0).toNat) 0)
  else none

/-! ## Names -/

/-- Cuts bytes at the zeros; every piece has to be a text. -/
def readStrings : Nat → Nat → List UInt8 → Option (List (Nat × String))
  | _, _, [] => some []
  | 0, _, _ => none
  | fuel + 1, offset, bytes => do
    let piece := bytes.takeWhile (· ≠ 0)
    let name ← Text.utf8? piece
    let rest ← readStrings fuel (offset + piece.length + 1) (bytes.drop (piece.length + 1))
    some ((offset, name) :: rest)

/-- The string table in a part of a file. -/
def StringTable.read? (file : Array UInt8) (offset length : Nat) : Option StringTable :=
  if offset + length ≤ file.size then
    StringTable.mk <$> readStrings length 0 (file.extract offset (offset + length)).toList
  else none

/-! ## Symbols -/

/-- Reads `count` symbols. -/
def readSymbols (file : Array UInt8) (offset count : Nat) : Option (List Symbol) :=
  if count = 0 then some []
  else if file.size < offset + 24 * count then none
  else
    (List.range count).mapM fun i => do
      some ⟨← word? file 4 (offset + 24 * i), ← word? file 2 (offset + 24 * i + 6)⟩

/-! ## Headers -/

/-- A program header: what part of the file appears where in memory. -/
structure Segment where
  kind : Nat
  offset : Nat
  address : Nat
  fileSize : Nat
  memorySize : Nat
  deriving DecidableEq, Repr

/-- A section header. -/
structure Section where
  kind : Nat
  address : Nat
  offset : Nat
  size : Nat
  link : Nat
  entrySize : Nat
  deriving DecidableEq, Repr

/-- Reads a program header. -/
def readSegment (file : Array UInt8) (base : Nat) : Option Segment := do
  let _ ← word? file 8 (base + 48)
  some
    { kind := ← word? file 4 base
      offset := ← word? file 8 (base + 8)
      address := ← word? file 8 (base + 16)
      fileSize := ← word? file 8 (base + 32)
      memorySize := ← word? file 8 (base + 40) }

/-- Reads a section header. -/
def readSection (file : Array UInt8) (base : Nat) : Option Section := do
  some
    { kind := ← word? file 4 (base + 4)
      address := ← word? file 8 (base + 16)
      offset := ← word? file 8 (base + 24)
      size := ← word? file 8 (base + 32)
      link := ← word? file 4 (base + 40)
      entrySize := ← word? file 8 (base + 56) }

/-- Reads `count` program headers. -/
def readSegments (file : Array UInt8) (offset count : Nat) : Option (List Segment) :=
  if file.size / 56 < count then none
  else (List.range count).mapM fun i => readSegment file (offset + 56 * i)

/-- Reads the section headers. Offset 0 means that there are none; count 0 means that the first
header holds the count. -/
def readSections (file : Array UInt8) (offset count : Nat) : Option (List Section) :=
  if offset = 0 then some []
  else do
    let first ← readSection file offset
    let count := if count = 0 then first.size else count
    if file.size / 64 < count then none
    else
      let others ← (List.range (count - 1)).mapM fun i => readSection file (offset + 64 * (i + 1))
      some (first :: others)

/-! ## Tables -/

/-- The kind of a section without data in the file. -/
def noBits : Nat := 8

/-- The string table in a section, or the empty one if there is no such section. -/
def sectionStrings (file : Array UInt8) (sections : List Section) (index : Nat) :
    Option StringTable :=
  let index? := if index = 0xFFFF then sections.head?.map Section.link else some index
  match index?.bind fun i => sections[i]? with
  | none => some .empty
  | some s =>
    if s.kind ≠ noBits ∧ s.size ≠ 0 ∧
        (file.size < s.offset + s.size ∨ Nat.pow 2 64 ≤ s.address + s.size) then none
    else StringTable.read? file s.offset s.size

/-- The full symbol table, from the last section of its kind. -/
def staticTable (file : Array UInt8) (sections : List Section) : Option SymbolTable :=
  match sections.reverse.find? fun s => s.kind == 2 with
  | none => some .empty
  | some s => do
    let count := if s.entrySize = 0 then 0 else s.size / s.entrySize
    some ⟨← readSymbols file s.offset count, ← sectionStrings file sections s.link⟩

/-- Where in the file a memory address is found. -/
def fileOffset (segments : List Segment) (address : Nat) : Option Nat :=
  match segments.find? fun s => s.address ≤ address && address - s.address < s.memorySize with
  | some s =>
    let offset := s.offset + (address - s.address)
    if offset < Nat.pow 2 64 then some offset else none
  | none => none

/-- Reads the tagged entries of the dynamic segment, up to the one with tag 0. -/
def readDynamic (file : Array UInt8) : Nat → Nat → Option (List (Nat × Nat))
  | _, 0 => some []
  | offset, count + 1 => do
    let tag ← word? file 8 offset
    let value ← word? file 8 (offset + 8)
    if tag = 0 then some [] else ((tag, value) :: ·) <$> readDynamic file (offset + 16) count

/-- The value of the last entry with a tag. -/
def lastTagged (entries : List (Nat × Nat)) (tag : Nat) : Option Nat :=
  entries.reverse.lookup tag

/-- The dynamic symbol table. Its length is the number of chains of the hash table. -/
def dynamicTable (file : Array UInt8) (segments : List Segment) : Option SymbolTable :=
  match segments.find? fun s => s.kind == 2 with
  | none => some .empty
  | some s =>
    if file.size < s.offset + s.fileSize then none
    else do
      let entries ← readDynamic file s.offset (s.fileSize / 16)
      let located (tag : Nat) : Nat :=
        ((lastTagged entries tag).bind (fileOffset segments)).getD 0
      let strings ← StringTable.read? file (located 5) ((lastTagged entries 10).getD 0)
      let count ← match (lastTagged entries 4).bind (fileOffset segments) with
        | some hash => word? file 4 (hash + 4)
        | none => some 0
      some ⟨← readSymbols file (located 6) count, strings⟩

/-- The first bytes of a 64-bit little-endian file. -/
def magic : List UInt8 := [0x7F, 0x45, 0x4C, 0x46, 2, 1]

/-- Reads the symbol tables of a file. -/
def Elf.ofBytes? (bytes : List UInt8) : Option Elf := do
  let file := bytes.toArray
  if bytes.take 6 ≠ magic ∨ bytes.length < 64 then none
  else
    let segments ← readSegments file (← word? file 8 32) (← word? file 2 56)
    let sections ← readSections file (← word? file 8 40) (← word? file 2 60)
    let _ ← sectionStrings file sections (← word? file 2 62)
    let static ← staticTable file sections
    let dynamic ← dynamicTable file segments
    some { dynamic, static }

end MotionWatch.Plugin
