import Pursuit.Text.CodeRanges

/-! # Blank characters

The white space of the Unicode tables together with the four information separators `U+001C` to
`U+001F`.
-/

namespace Pursuit.Text

/-- Code points that count as white space around a value. -/
def blanks : CodeRanges := [
  (0x9, 0xd), (0x1c, 0x20), (0x85, 0x85), (0xa0, 0xa0), (0x1680, 0x1680), (0x2000, 0x200a),
  (0x2028, 0x2029), (0x202f, 0x202f), (0x205f, 0x205f), (0x3000, 0x3000)
]

/-- A character that is stripped from the ends of a value. -/
def isBlank (c : Char) : Bool :=
  blanks.contains c.toNat

/-- The characters of a text without the blanks at both ends. -/
def stripChars (cs : List Char) : List Char :=
  ((cs.dropWhile isBlank).reverse.dropWhile isBlank).reverse

/-- A text without the blanks at both ends. -/
def strip (s : String) : String :=
  String.ofList (stripChars s.toList)

end Pursuit.Text
