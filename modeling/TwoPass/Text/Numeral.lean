import TwoPass.Text.Blank
import TwoPass.Text.Digit

/-!
# Numerals

Two readings of numbers.  `decimal?` reads a nonempty run of decimal digits and nothing else; it is
what an operand may hold.  `integer?` is the lenient reading of tables and settings: blanks around
the number, one sign, single underscores between digits, and in base sixteen an optional `0x`, the
zero of which may be of any script, as every digit may.

Numbers in base ten are read and written only up to `digitLimit` digits; leading zeros count.  Base
sixteen has no limit.
-/

namespace TwoPass.Text

/-- The largest number of digits with which a number is read or written in base ten. -/
def digitLimit : Nat := 4300

/-- Whether a number has few enough digits to be written in base ten. -/
def isWritable (value : Int) : Bool := value.natAbs < Nat.pow 10 digitLimit

/-- The value of a nonempty run of decimal digits. -/
def decimal? : List Char → Option Nat
  | [] => none
  | text => text.foldl (fun value c => value.bind fun high =>
      (decimalDigit? c).map fun digit => high * 10 + digit) (some 0)

/-- The value of a digit in a base of at most sixteen; letters are ASCII, in either case. -/
def digitIn? (base : Nat) (c : Char) : Option Nat :=
  let value := match decimalDigit? c with
    | some digit => some digit
    | none =>
      if 'a' ≤ c ∧ c ≤ 'f' then some (c.toNat - 'a'.toNat + 10)
      else if 'A' ≤ c ∧ c ≤ 'F' then some (c.toNat - 'A'.toNat + 10)
      else none
  value.filter fun digit => digit < base

/-- The value of a numeral whose digits so far make up `value`: an underscore may stand in front of
any further digit. -/
def digitsBehind? (base value : Nat) : List Char → Option Nat
  | [] => some value
  | '_' :: c :: rest =>
    (digitIn? base c).bind fun digit => digitsBehind? base (value * base + digit) rest
  | c :: rest =>
    (digitIn? base c).bind fun digit => digitsBehind? base (value * base + digit) rest

/-- The value of a nonempty numeral without sign. -/
def unsigned? (base : Nat) : List Char → Option Nat
  | [] => none
  | c :: rest => (digitIn? base c).bind fun digit => digitsBehind? base digit rest

/-- Whether two characters are the mark of base sixteen: a zero of any script and an ASCII `x`, in
either case. -/
def isBaseMark (zero letter : Char) : Bool :=
  decimalDigit? zero = some 0 && (letter = 'x' || letter = 'X')

/-- A text without the mark of base sixteen, and without one underscore behind the mark. -/
def dropBaseMark : List Char → List Char
  | zero :: letter :: rest =>
    if isBaseMark zero letter then
      match rest with
      | '_' :: digits => digits
      | digits => digits
    else zero :: letter :: rest
  | text => text

/-- Whether a character may surround a number: any blank but the four separator controls. -/
def surroundsNumber (c : Char) : Bool := isBlank c && !(0x1C ≤ c.toNat && c.toNat ≤ 0x1F)

/-- The text without what may surround a number. -/
def bareNumber (text : List Char) : List Char :=
  ((text.dropWhile surroundsNumber).reverse.dropWhile surroundsNumber).reverse

/-- The value of a numeral without sign in base ten, unless it has too many digits, or in base
sixteen, with or without the mark of that base. -/
def magnitude? (base : Nat) (digits : List Char) : Option Nat :=
  if base = 16 then unsigned? 16 (dropBaseMark digits)
  else if digitLimit < digits.countP (fun c => c ≠ '_') then none
  else unsigned? base digits

/-- The integer that a text denotes in base ten or sixteen. -/
def integer? (base : Nat) (text : List Char) : Option Int :=
  match bareNumber text with
  | '-' :: digits => (magnitude? base digits).map fun value => -(value : Int)
  | '+' :: digits => (magnitude? base digits).map fun value => (value : Int)
  | digits => (magnitude? base digits).map fun value => (value : Int)

end TwoPass.Text
