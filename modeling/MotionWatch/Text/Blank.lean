/-!
# White space

Settings are typed by people, so every reader strips white space in the sense of the Unicode
`White_Space` property, not only the ASCII blanks.

* `isBlank`: the `White_Space` characters.
* `strip`, `trim`: a text without the blanks at its two ends.
-/

namespace MotionWatch.Text

/-- The characters with the Unicode property `White_Space`. -/
def isBlank (c : Char) : Bool :=
  let n := c.toNat
  (0x09 ≤ n && n ≤ 0x0D) || n == 0x20 || n == 0x85 || n == 0xA0 || n == 0x1680
    || (0x2000 ≤ n && n ≤ 0x200A) || n == 0x2028 || n == 0x2029 || n == 0x202F
    || n == 0x205F || n == 0x3000

/-- The characters without the blanks before the first and after the last of the others. -/
def strip (cs : List Char) : List Char :=
  ((cs.dropWhile isBlank).reverse.dropWhile isBlank).reverse

/-- The text without the blanks at its two ends. -/
def trim (s : String) : String := .ofList (strip s.toList)

end MotionWatch.Text
