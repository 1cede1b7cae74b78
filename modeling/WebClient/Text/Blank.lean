import WebClient.Text.Ascii

/-!
# White space

The characters with the Unicode property `White_Space`, and the two uses this
library has for them: trimming a text and removing every blank from it.
-/

namespace WebClient.Text

/-- The character has the Unicode property `White_Space`. -/
def isBlank (c : Char) : Bool :=
  let n := c.toNat
  (0x09 ≤ n && n ≤ 0x0d) || n == 0x20 || n == 0x85 || n == 0xa0 || n == 0x1680 ||
    (0x2000 ≤ n && n ≤ 0x200a) || n == 0x2028 || n == 0x2029 || n == 0x202f ||
    n == 0x205f || n == 0x3000

/-- Remove the blanks at both ends of a text. -/
def trim (s : String) : String := String.ofList (trimBoth isBlank s.toList)

/-- Remove every blank of a text. -/
def withoutBlanks (s : String) : String :=
  String.ofList (s.toList.filter fun c => !isBlank c)

end WebClient.Text
