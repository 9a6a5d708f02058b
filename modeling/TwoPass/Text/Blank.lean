import TwoPass.Text.Range

/-!
# Blanks

A blank is a character of Unicode white space or one of the four separator controls U+001C to
U+001F.  The zero-width space and the byte order mark are no blanks.  `trim` drops blanks at both
ends, and `words` lists the maximal runs without blanks.
-/

namespace TwoPass.Text

/-- The code points that count as blank. -/
def blanks : CodeRanges :=
  [(0x9, 0xD), (0x1C, 0x20), (0x85, 0x85), (0xA0, 0xA0), (0x1680, 0x1680), (0x2000, 0x200A),
   (0x2028, 0x2029), (0x202F, 0x202F), (0x205F, 0x205F), (0x3000, 0x3000)]

/-- Whether a character is blank. -/
def isBlank (c : Char) : Bool := blanks.holds c

/-- The text without its leading blanks. -/
def trimLeft (text : List Char) : List Char := text.dropWhile isBlank

/-- The text without its trailing blanks. -/
def trimRight (text : List Char) : List Char := (text.reverse.dropWhile isBlank).reverse

/-- The text without the blanks at either end. -/
def trim (text : List Char) : List Char := trimRight (trimLeft text)

/-- The number of blanks in front of the text. -/
def indentation (text : List Char) : Nat := (text.takeWhile isBlank).length

/-- The maximal runs of the text without a blank, in order. -/
def words (text : List Char) : List (List Char) :=
  (text.splitOnP isBlank).filter fun word => !word.isEmpty

/-- The indentation and the text behind it make up the whole length. -/
theorem indentation_add_length_trimLeft (text : List Char) :
    indentation text + (trimLeft text).length = text.length := by
  rw [indentation, trimLeft, ← List.length_append, List.takeWhile_append_dropWhile]

end TwoPass.Text
