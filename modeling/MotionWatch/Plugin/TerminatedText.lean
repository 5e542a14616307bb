import MotionWatch.Text.Utf8

/-!
# Text across the border

Text goes to and from a plugin as bytes that end at the first zero byte. Whatever follows a zero
character in the text is lost.

* `terminated`: the bytes of a text up to its first zero.
* `fromTerminated`: the text of such bytes.
* `acrossBorder`: a text as it arrives on the other side.
-/

namespace MotionWatch.Plugin

/-- The bytes of a text before its first zero byte. -/
def terminated (s : String) : List UInt8 := (Text.utf8 s).takeWhile (· ≠ 0)

/-- The text of bytes before a zero byte. -/
def fromTerminated (bytes : List UInt8) : String := .ofList (Text.decodeLossy bytes)

/-- An optional text as it arrives on the other side. -/
def acrossBorder (s : Option String) : Option String := s.map fun s => fromTerminated (terminated s)

end MotionWatch.Plugin
