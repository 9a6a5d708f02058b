import TwoPass.Failure
import TwoPass.Instruction.Basic
import TwoPass.Position
import TwoPass.Text.Blank
import TwoPass.Text.Upper

/-!
# Statements

A source line has up to four fields with tabs between them: label, operator, operands and comment.
The operands are separated by commas; a comma between single quotes separates nothing.  A statement
remembers where its operator and its operands stand, for diagnostics.
-/

namespace TwoPass

/-- Cuts a text at its first tabs, as often as `limit` says; later tabs stay. -/
def fields (limit : Nat) : List Char → List (List Char)
  | [] => [[]]
  | c :: rest => match limit with
    | 0 => [c :: rest]
    | remaining + 1 =>
      if c = '\t' then [] :: fields remaining rest
      else Text.pushFront c (fields (remaining + 1) rest)

/-- A line without the line ends at its end. -/
def withoutLineEnd (line : List Char) : List Char :=
  (line.reverse.dropWhile fun c => c = '\r' ∨ c = '\n').reverse

/-- Cuts a text at the commas outside single quotes; `quoted` says whether a quote is open. -/
def cutAtCommas (quoted : Bool) : List Char → List (List Char)
  | [] => [[]]
  | c :: rest =>
    if c = ',' ∧ quoted = false then [] :: cutAtCommas false rest
    else Text.pushFront c (cutAtCommas (if c = '\'' then !quoted else quoted) rest)

/-- The operands of an operand field, without the blanks around them. -/
def operandsIn (text : String) : List String :=
  (cutAtCommas false text.toList).map fun operand => String.ofList (Text.trim operand)

/-- Whether a line is blank or a comment, which begins with a full stop. -/
def holdsNoStatement (line : String) : Bool :=
  match Text.trim line.toList with
  | [] | '.' :: _ => true
  | _ => false

/-- A source line that holds an operator. -/
structure Statement where
  /-- The label. -/
  label : Option String
  /-- The operator, in upper case. -/
  operator : String
  /-- The operands; a blank field has none. -/
  operands : List String
  /-- The comment field, as it is written. -/
  comment : Option String
  /-- Where the operands stand, or the operator if there are none. -/
  location : Option Location
  /-- Where the operator stands. -/
  operatorLocation : Option Location
  /-- The line as it is written. -/
  line : String
  deriving DecidableEq, Repr

namespace Statement

/-- The largest number of operands. -/
def operandLimit : Nat := 3

/-- The statement that a line holds; `location` is where the line begins. -/
def parse (line : String) (location : Option Location) : Except Diagnostic Statement :=
  match fields 3 (withoutLineEnd line.toList) with
  | labelField :: operatorField :: further =>
    let operator := Text.upper (Text.trim operatorField)
    if operator.isEmpty then
      .error { cause := .operatorMissing, location, line := some line }
    else
      let label := Text.trim labelField
      let operandField := further.headD []
      let operandText := Text.trim operandField
      let operatorStart := labelField.length + 1
      let operandStart := operatorStart + operatorField.length + 1
      let operatorLocation :=
        location.map fun place => place.shifted (operatorStart + Text.indentation operatorField)
      let operandLocation :=
        if operandText.isEmpty then operatorLocation
        else location.map fun place => place.shifted (operandStart + Text.indentation operandField)
      let operands :=
        if operandText.isEmpty then [] else operandsIn (String.ofList operandText)
      if operandLimit < operands.length then
        .error
          { cause := .tooManyOperands operands.length
            location := operandLocation
            line := some line }
      else
        .ok { label := if label.isEmpty then none else some (String.ofList label)
              operator := String.ofList operator
              operands
              comment := further[1]?.map String.ofList
              location := operandLocation
              operatorLocation
              line }
  | _ => .error { cause := .operatorMissing, location, line := some line }

/-- A diagnostic about the operands of a statement. -/
def complaint (statement : Statement) (cause : Cause) : Diagnostic :=
  { cause, location := statement.location, line := some statement.line }

/-- A failure at the operands of a statement. -/
def failure (statement : Statement) (cause : Cause) : Failure :=
  .ofDiagnostic (statement.complaint cause)

/-- Accepts the instruction that the operator was found to name, if there is one and the statement
has operands enough for it. -/
def resolve (statement : Statement) : Option Instruction → Except Diagnostic Instruction
  | none =>
    .error
      { cause := .unknownOperator statement.operator
        location := statement.operatorLocation
        line := some statement.line }
  | some instruction =>
    if (statement.operands.length : Int) < instruction.neededOperands then
      .error (statement.complaint
        (.tooFewOperands instruction.mnemonic instruction.neededOperands statement.operands.length))
    else .ok instruction

/-- The operand at a position; a negative position counts from the end.  A position behind the last
operand has none, and one in front of the first is a failure. -/
def operandAt (statement : Statement) (index : Int) : Except Failure (Option String) :=
  if statement.operands.isEmpty ∨ (statement.operands.length : Int) ≤ index then .ok none
  else (position statement.operands.length index).map fun place => statement.operands[place]?

/-- The first operand. -/
def first? (statement : Statement) : Option String := statement.operands[0]?

/-- The second operand. -/
def second? (statement : Statement) : Option String := statement.operands[1]?

/-- A validated instruction is the one that was looked up. -/
theorem eq_of_resolve {statement : Statement} {found : Option Instruction}
    {instruction : Instruction} (h : statement.resolve found = .ok instruction) :
    found = some instruction := by
  cases found with
  | none => cases h
  | some candidate =>
    simp only [resolve] at h
    split at h
    · cases h
    · cases h
      rfl

end Statement

end TwoPass
