import DialectSql.Text.RangeTable

/-!
# Blank Text

Two classes of invisible characters.  White space is the Unicode property; a number may be
surrounded by it.  Blanks are white space together with the four information separators; names,
rules and directions are stripped of them, and a text of blanks alone counts as missing.
-/

namespace DialectSql.Text

/-- The characters with the Unicode property `White_Space`. -/
def whiteSpaceRanges : RangeTable :=
  [(0x09, 0x0D), (0x20, 0x20), (0x85, 0x85), (0xA0, 0xA0), (0x1680, 0x1680), (0x2000, 0x200A),
   (0x2028, 0x2029), (0x202F, 0x202F), (0x205F, 0x205F), (0x3000, 0x3000)]

/-- White space in the sense of Unicode. -/
def isWhiteSpace (point : CodePoint) : Bool :=
  whiteSpaceRanges.has point

/-- White space, or one of the information separators U+001C to U+001F. -/
def isBlank (point : CodePoint) : Bool :=
  isWhiteSpace point || (0x1C ≤ point.code && point.code ≤ 0x1F)

/-- Removes the code points of a class from both ends. -/
def trim (drop : CodePoint → Bool) (text : Text) : Text :=
  ((text.dropWhile drop).reverse.dropWhile drop).reverse

/-- A text without the blanks at its ends. -/
def strip (text : Text) : Text :=
  trim isBlank text

/-- A text is blank when it holds blanks only; the empty text is blank. -/
def isBlankText (text : Text) : Bool :=
  text.all isBlank

end DialectSql.Text
