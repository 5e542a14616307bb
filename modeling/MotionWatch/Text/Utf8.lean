/-!
# UTF-8

Text crosses the border to a plugin as bytes that end at the first zero, and comes back in the
same way. Bytes that are no UTF-8 are read as replacement characters, one for every part that
cannot go on.

* `utf8`: the bytes of a text.
* `utf8?`: the text of bytes that are well-formed.
* `decodeLossy`: the characters of any bytes.
-/

namespace MotionWatch.Text

/-- The bytes of a text. -/
def utf8 (s : String) : List UInt8 := s.toUTF8.data.toList

/-- The text of well-formed bytes. -/
def utf8? (bytes : List UInt8) : Option String := String.fromUTF8? ⟨bytes.toArray⟩

/-- A character of which the first bytes have been read. -/
structure Pending where
  /-- The bits read so far. -/
  value : Nat
  /-- The number of bytes that follow. -/
  owed : Nat
  /-- The least and the greatest value of the next byte. -/
  least : Nat
  greatest : Nat
  deriving DecidableEq, Repr

/-- The character that stands for bytes that are none. -/
def replacement : Char := '\uFFFD'

/-- The effect of the first byte of a character: the characters that are complete, and the one
that has begun. -/
def beginChar (b : UInt8) : List Char × Option Pending :=
  let n := b.toNat
  if n < 0x80 then ([.ofNat n], none)
  else if n < 0xC2 then ([replacement], none)
  else if n < 0xE0 then ([], some ⟨n - 0xC0, 1, 0x80, 0xBF⟩)
  else if n < 0xF0 then
    ([], some ⟨n - 0xE0, 2, if n = 0xE0 then 0xA0 else 0x80, if n = 0xED then 0x9F else 0xBF⟩)
  else if n < 0xF5 then
    ([], some ⟨n - 0xF0, 3, if n = 0xF0 then 0x90 else 0x80, if n = 0xF4 then 0x8F else 0xBF⟩)
  else ([replacement], none)

/-- The effect of a byte. One that cannot continue a character ends it and begins another. -/
def feedByte (pending : Option Pending) (b : UInt8) : List Char × Option Pending :=
  match pending with
  | none => beginChar b
  | some p =>
    let n := b.toNat
    if p.least ≤ n ∧ n ≤ p.greatest then
      let value := 64 * p.value + (n - 0x80)
      if p.owed ≤ 1 then ([.ofNat value], none)
      else ([], some ⟨value, p.owed - 1, 0x80, 0xBF⟩)
    else
      let (cs, next) := beginChar b
      (replacement :: cs, next)

/-- The characters of bytes, after those of a pending character. -/
def decodeFrom : Option Pending → List UInt8 → List Char
  | none, [] => []
  | some _, [] => [replacement]
  | pending, b :: bytes =>
    let (cs, next) := feedByte pending b
    cs ++ decodeFrom next bytes

/-- The characters of bytes. -/
def decodeLossy (bytes : List UInt8) : List Char := decodeFrom none bytes

end MotionWatch.Text
