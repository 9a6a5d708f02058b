import TwoPass.Location
import TwoPass.Operand.Operator
import TwoPass.Instruction.Directive
import TwoPass.Text.Hex
import TwoPass.Text.Line
import TwoPass.Text.Quoted

/-!
# Diagnostics

What can be wrong with a source text.  A `Cause` says what was found; `Cause.notice` words it.  A
`Diagnostic` joins a cause to the place where it was found, and `Notice.render` lays the message out
under its location, with the source line, a caret under the offending column, and a hint.
-/

namespace TwoPass

/-- The kinds of diagnostic. -/
inductive NoticeKind where
  /-- A complaint about the assembly as a whole. -/
  | general
  /-- A malformed line or parameter. -/
  | malformed
  /-- A name that is neither defined nor imported. -/
  | undefinedSymbol
  /-- A label that is defined twice. -/
  | duplicateSymbol
  /-- A literal that was never placed. -/
  | missingLiteral
  /-- Data that does not fit its space. -/
  | sizeOverflow
  /-- An expression without a value. -/
  | expression
  deriving DecidableEq, Repr

/-- The wording of a diagnostic. -/
structure Notice where
  /-- The kind of the diagnostic. -/
  kind : NoticeKind
  /-- The description. -/
  text : String
  /-- A suggestion for mending the source. -/
  hint : Option String
  deriving DecidableEq, Repr

namespace Notice

/-- An undefined symbol, with a standing hint unless a nonempty one is given. -/
def undefinedSymbol (name : String) (hint : Option String) : Notice :=
  { kind := .undefinedSymbol
    text := "undefined symbol '" ++ name ++ "'"
    hint := some <| match hint with
      | none | some "" =>
        "'" ++ name ++ "' is neither defined in this section nor listed in EXTREF"
      | some given => given }

/-- A duplicate symbol, with its first value if that is known. -/
def duplicateSymbol (name : String) (first : Option Int) : Notice :=
  { kind := .duplicateSymbol
    text := "duplicate symbol '" ++ name ++ "'"
    hint := first.map fun value =>
      "'" ++ name ++ "' was first defined at " ++ Text.Hex.padded 6 value }

/-- A literal operand that has no place in the pool. -/
def missingLiteral (literal : String) : Notice :=
  { kind := .missingLiteral
    text := "literal '" ++ literal ++ "' not found in literal pool"
    hint := some "literals are placed at the next LTORG or END directive" }

/-- Data that is larger than its space. -/
def sizeOverflow (subject : String) (capacity actual : Int) : Notice :=
  { kind := .sizeOverflow
    text := subject ++ " (capacity " ++ toString capacity ++ ", got " ++ toString actual ++ ")"
    hint := none }

/-- A malformed line or parameter, without a hint. -/
def malformed (text : String) : Notice := { kind := .malformed, text, hint := none }

/-- A malformed line or parameter, with a hint. -/
def malformedWith (text hint : String) : Notice := { kind := .malformed, text, hint := some hint }

/-- The line that points at a column of the source line above it: columns count characters of the
line as written, and the caret follows the line with its tabs expanded. -/
def caretLine (line : String) (column : Int) : String :=
  let before := Text.expandTabs (line.toList.take (column - 1).toNat)
  String.ofList (List.replicate (4 + before.length) ' ') ++ "^"

/-- The source line and the caret below it; a column below one has no caret. -/
def excerpt (line : String) (column : Int) : List String :=
  ("    " ++ String.ofList (Text.expandTabs line.toList)) ::
    (if 0 < column then [caretLine line column] else [])

/-- The message of a notice: description, excerpt and hint, one below the other. -/
def render (notice : Notice) (location : Option Location) (line : Option String) : String :=
  let heading := match location with
    | some place => place.text ++ ": error: " ++ notice.text
    | none => "error: " ++ notice.text
  let shown := match location, line with
    | some place, some source => excerpt source place.column
    | _, _ => []
  let advice := match notice.hint with
    | none | some "" => []
    | some given => ["hint: " ++ given]
  "\n".intercalate (heading :: (shown ++ advice))

end Notice

/-- What was found to be wrong. -/
inductive Cause where
  /-- A line without an operator. -/
  | operatorMissing
  /-- A line with more operands than are allowed. -/
  | tooManyOperands (count : Nat)
  /-- An operator that the directory does not know. -/
  | unknownOperator (operator : String)
  /-- Fewer operands than the operator needs. -/
  | tooFewOperands (mnemonic : String) (needed : Int) (given : Nat)
  /-- A text that is no data form. -/
  | invalidForm (text : String)
  /-- A character that does not fit in a byte. -/
  | wideCharacter (character : Char) (text : String)
  /-- A hexadecimal form with other characters in it. -/
  | invalidHexDigits (text : String)
  /-- A name that is neither defined nor imported. -/
  | undefinedSymbol (name : String)
  /-- An exported name that is never defined. -/
  | undefinedExport (name : String)
  /-- A label that is defined twice. -/
  | duplicateSymbol (name : String) (first : Int)
  /-- A quotient with divisor zero. -/
  | divisionByZero
  /-- An imported name behind an operator that cannot be relocated. -/
  | unrelocatable (name : String) (operator : Operator)
  /-- An instruction entry with missing fields. -/
  | shortEntry
  /-- An instruction entry with a field that is no number. -/
  | entryNumber (mnemonic : String)
  /-- An instruction entry with a format that cannot be declared. -/
  | entryFormat (format : Int)
  /-- A section without a name. -/
  | labelMissing (directive : Directive)
  /-- A parameter that is no decimal number. -/
  | countExpected (mnemonic : String) (operand : Option String)
  /-- An operand that gives no value to a label. -/
  | invalidEquate (operand : Option String)
  /-- A literal operand that has no place in the pool. -/
  | missingLiteral (literal : String)
  /-- An operand that is no register. -/
  | invalidRegister (name : Option String)
  /-- A shift count that is no decimal number. -/
  | shiftCountExpected (mnemonic : String) (operand : Option String)
  /-- A register number or shift count above fifteen. -/
  | fieldOverflow (value : Nat)
  /-- An operand that gives no displacement. -/
  | invalidOperand (operand : String)
  /-- A data form that is longer than its directive. -/
  | dataOverflow (mnemonic : String) (capacity actual : Nat)
  /-- A number that is larger than its directive. -/
  | valueOverflow (mnemonic : String) (capacity actual : Nat)
  /-- An operand that gives no data. -/
  | invalidData (mnemonic : String) (operand : Option String)
  /-- An instruction that was not encoded. -/
  | codeMissing (operator : String)
  deriving DecidableEq, Repr

namespace Cause

/-- An operand between the quotes of a message. -/
def shown (operand : Option String) : String := "'" ++ operand.getD "None" ++ "'"

/-- The wording of a cause. -/
def notice : Cause → Notice
  | .operatorMissing =>
    .malformedWith "operator is required"
      "fields are separated by tabs: LABEL<TAB>OPERATOR<TAB>OPERANDS"
  | .tooManyOperands count =>
    .malformed ("at most 3 operands are allowed, got " ++ toString count)
  | .unknownOperator operator => .malformed ("unknown operator '" ++ operator ++ "'")
  | .tooFewOperands mnemonic needed given =>
    .malformed ("'" ++ mnemonic ++ "' needs at least " ++ toString needed ++
      " operand(s), got " ++ toString given)
  | .invalidForm text => .malformed ("invalid data form '" ++ text ++ "'")
  | .wideCharacter character text =>
    .malformed ("character '" ++ String.ofList [character] ++ "' in '" ++ text ++
      "' does not fit in a byte")
  | .invalidHexDigits text => .malformed ("invalid hex digits in '" ++ text ++ "'")
  | .undefinedSymbol name => .undefinedSymbol name none
  | .undefinedExport name =>
    .undefinedSymbol name (some ("'" ++ name ++ "' is listed in EXTDEF but never defined"))
  | .duplicateSymbol name first => .duplicateSymbol name (some first)
  | .divisionByZero => { kind := .expression, text := "division by zero", hint := none }
  | .unrelocatable name operator =>
    { kind := .expression
      text := "external symbol '" ++ name ++ "' cannot follow '" ++ operator.text ++ "'"
      hint := some "only '+' and '-' can be applied to external references" }
  | .shortEntry => .malformed "instruction entry needs MNEMONIC FORMAT OPCODE MIN_OPERANDS"
  | .entryNumber mnemonic =>
    .malformed ("invalid number in instruction entry for '" ++ mnemonic ++ "'")
  | .entryFormat format =>
    .malformedWith ("instruction format must be 1, 2 or 3, got " ++ toString format)
      "format 4 is written with a '+' prefix in source"
  | .labelMissing directive =>
    .malformedWith (directive.name ++ " requires a label") "the label becomes the program name"
  | .countExpected mnemonic operand =>
    .malformed (mnemonic ++ " requires a decimal number, got " ++ Text.quotedOr operand)
  | .invalidEquate operand => .malformed ("invalid EQU operand " ++ shown operand)
  | .missingLiteral literal => .missingLiteral literal
  | .invalidRegister name =>
    .malformedWith ("invalid register " ++ shown name)
      "registers are A, X, L, B, S, T, F, PC, SW"
  | .shiftCountExpected mnemonic operand =>
    .malformed (mnemonic ++ " requires a decimal shift count, got " ++ Text.quotedOr operand)
  | .fieldOverflow value => .sizeOverflow "format 2 field does not fit in 4 bits" 15 value
  | .invalidOperand operand => .malformed ("invalid operand '" ++ operand ++ "'")
  | .dataOverflow mnemonic capacity actual =>
    .sizeOverflow (mnemonic ++ " data is too large") capacity actual
  | .valueOverflow mnemonic capacity actual =>
    .sizeOverflow (mnemonic ++ " value is too large") capacity actual
  | .invalidData mnemonic operand =>
    .malformed ("invalid " ++ mnemonic ++ " operand " ++ shown operand)
  | .codeMissing operator =>
    { kind := .general
      text := "no object code for '" ++ operator ++ "'"
      hint := some "run both assembler passes before writing the object program" }

end Cause

/-- A cause and the place where it was found. -/
structure Diagnostic where
  /-- What was found to be wrong. -/
  cause : Cause
  /-- Where it was found. -/
  location : Option Location := none
  /-- The source line of the location. -/
  line : Option String := none
  deriving DecidableEq, Repr

namespace Diagnostic

/-- Whether the location of a diagnostic can be written. -/
def isWritable (diagnostic : Diagnostic) : Bool := diagnostic.location.all Location.isWritable

/-- The complete message of a diagnostic. -/
def message (diagnostic : Diagnostic) : String :=
  diagnostic.cause.notice.render diagnostic.location diagnostic.line

end Diagnostic

end TwoPass
