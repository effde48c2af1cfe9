import SunLint.Text.Ranges

/-!
# Blank and control characters

`isBlank` is the White_Space property of Unicode, which holds of the line feed,
of the ideographic space and of the no-break spaces, but of no zero-width
character. `isControl` is the general category Cc. `isInvisible` adds to the
control characters the zero-width ones that editors insert unseen.
-/

namespace SunLint.Text

/-- The characters with the White_Space property. -/
def blankRanges : Ranges :=
   [(0x9, 0xD), (0x20, 0x20), (0x85, 0x85), (0xA0, 0xA0), (0x1680, 0x1680), (0x2000, 0x200A),
    (0x2028, 0x2029), (0x202F, 0x202F), (0x205F, 0x205F), (0x3000, 0x3000)]

/-- White space, line ends included. -/
def isBlank (c : Char) : Bool := blankRanges.contains c.toNat

/-- The control characters: below the space, and from DEL to the end of the
    second control block. -/
def isControl (c : Char) : Bool := Ranges.contains [(0x0, 0x1F), (0x7F, 0x9F)] c.toNat

/-- Joiners and marks without a width: the zero-width space, non-joiner and
    joiner, the word joiner and the byte-order mark. -/
def isZeroWidth (c : Char) : Bool :=
  c = '\u200b' || c = '\u200c' || c = '\u200d' || c = '\u2060' || c = '\ufeff'

/-- Characters that leave no trace on the screen. -/
def isInvisible (c : Char) : Bool := isControl c || isZeroWidth c

/-- Drops the blank characters at the end. -/
def trimRight (cs : List Char) : List Char :=
  (cs.reverse.dropWhile isBlank).reverse

/-- Drops the blank characters at both ends. -/
def trim (cs : List Char) : List Char :=
  trimRight (cs.dropWhile isBlank)

end SunLint.Text
