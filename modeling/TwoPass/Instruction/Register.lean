import TwoPass.Failure
import TwoPass.Text.Blank
import TwoPass.Text.Numeral
import TwoPass.Text.Upper

/-!
# Registers

A register operand is the name of a register or its number in decimal.
-/

namespace TwoPass.Register

/-- The numbers of the named registers. -/
def numbers : List (String × Nat) :=
  [("A", 0), ("X", 1), ("L", 2), ("B", 3), ("S", 4), ("T", 5), ("F", 6), ("PC", 8), ("SW", 9)]

/-- The number of a register operand, if it is one.  A text of digit signs is read as a decimal
number, which fails if it begins with too many decimal digits or if one of the signs has no decimal
value. -/
def number (name : String) : Except Failure (Option Nat) :=
  let text := Text.upper (Text.trim name.toList)
  if !text.isEmpty && text.all Text.isDigitSign then
    let digits := (text.takeWhile Text.isDecimalDigit).length
    if Text.digitLimit < digits then .error (.numeralTooLong digits)
    else match Text.decimal? text with
      | some value => .ok (some value)
      | none => .error (.notANumber (String.ofList text))
  else .ok (numbers.lookup (String.ofList text))

end TwoPass.Register
