import Formula.Text.Ranges

/-!
# Blank characters

The characters with the Unicode property White_Space. They separate tokens and surround text that
is read as a number, a date-time or a duration.
-/

namespace Formula.Text

/-- The code points with the property White_Space, as ranges. -/
def blankRanges : Ranges :=
  [(0x09, 0x0D), (0x20, 0x20), (0x85, 0x85), (0xA0, 0xA0), (0x1680, 0x1680), (0x2000, 0x200A),
    (0x2028, 0x2029), (0x202F, 0x202F), (0x205F, 0x205F), (0x3000, 0x3000)]

/-- Whether a character is blank. -/
def isBlank (c : Char) : Bool :=
  blankRanges.contains c.toNat

/-- A text without the blanks that it starts with. -/
def trimStart (text : List Char) : List Char :=
  text.dropWhile isBlank

/-- A text without the blanks around it. -/
def trim (text : List Char) : List Char :=
  (trimStart (trimStart text).reverse).reverse

end Formula.Text
