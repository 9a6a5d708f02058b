/-!
# Hexadecimal

Numbers are written with upper-case digits.  `padded` fills a number with zeros on the left up to a
width; a sign stands in front and counts, and a wider number is written in full.
-/

namespace TwoPass.Text.Hex

/-- The digit of a value below sixteen. -/
def digit (value : Nat) : Char :=
  if value < 10 then Char.ofNat (48 + value) else Char.ofNat (55 + value)

/-- The digits of a number, most significant first; zero has one digit. -/
def digits (number : Nat) : List Char :=
  if number < 16 then [digit number] else digits (number / 16) ++ [digit (number % 16)]
termination_by number
decreasing_by omega

/-- The text with zeros in front of it, up to a width. -/
def fill (width : Nat) (text : List Char) : List Char :=
  List.replicate (width - text.length) '0' ++ text

/-- The text of an integer, filled with zeros up to a width. -/
def paddedChars (width : Nat) (number : Int) : List Char :=
  if number < 0 then '-' :: fill (width - 1) (digits number.natAbs)
  else fill width (digits number.natAbs)

/-- The text of an integer, filled with zeros up to a width. -/
def padded (width : Nat) (number : Int) : String := String.ofList (paddedChars width number)

/-- The lower-case digits of a number, filled with zeros up to a width. -/
def paddedLower (width number : Nat) : List Char := (fill width (digits number)).map Char.toLower

/-- Whether a character is an ASCII hexadecimal digit, in either case. -/
def isDigit (c : Char) : Bool :=
  ('0' ≤ c && c ≤ '9') || ('a' ≤ c && c ≤ 'f') || ('A' ≤ c && c ≤ 'F')

/-- A filled text is at least as long as the width, and never shorter than the text. -/
@[simp]
theorem length_fill (width : Nat) (text : List Char) :
    (fill width text).length = max width text.length := by
  simp only [fill, List.length_append, List.length_replicate]
  omega

end TwoPass.Text.Hex
