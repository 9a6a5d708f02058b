import TwoPass.Operand.Form
import TwoPass.Failure
import TwoPass.Text.Numeral

/-!
# Expressions

An expression is a row of terms with operators between them.  It is evaluated from left to right,
all operators alike.  Of several operators in a row the last one counts, and operators behind the
last term count for nothing.
-/

namespace TwoPass

namespace Operand

/-- The number that a text spells in decimal digits. -/
def number? (text : String) : Option Nat := Text.decimal? text.toList

/-- The number that a text spells in decimal digits, if it spells one; a numeral with too many
digits is a failure. -/
def numeral? (text : String) : Option (Except Failure Nat) :=
  (number? text).map fun value =>
    if Text.digitLimit < text.length then .error (.numeralTooLong text.length) else .ok value

/-- Whether a text is a decimal number. -/
def isNumber (text : String) : Bool := (number? text).isSome

/-- Whether a character may begin a symbol: an ASCII letter or an underscore. -/
def beginsSymbol (c : Char) : Bool := c.isAlpha || c == '_'

/-- Whether a character may continue a symbol. -/
def continuesSymbol (c : Char) : Bool := c.isAlphanum || c == '_'

/-- Whether a text is a symbol. -/
def isSymbol (text : String) : Bool :=
  match text.toList with
  | [] => false
  | first :: rest => beginsSymbol first && rest.all continuesSymbol

end Operand

/-- A term of an expression and the operator in front of it. -/
structure Term where
  /-- The operator in front of the term. -/
  operator : Option Operator
  /-- The spelling of the term. -/
  name : String
  deriving DecidableEq, Repr

namespace Expression

/-- A piece of an expression. -/
inductive Piece where
  /-- An operator. -/
  | operator (operator : Operator)
  /-- A nonempty run of characters that are no operators. -/
  | term (characters : List Char)
  deriving DecidableEq, Repr

/-- Puts a character that is no operator in front of the pieces behind it. -/
def Piece.pushFront (c : Char) : List Piece → List Piece
  | .term characters :: rest => .term (c :: characters) :: rest
  | pieces => .term [c] :: pieces

/-- The pieces of an expression: its operators and the runs between them. -/
def pieces : List Char → List Piece
  | [] => []
  | c :: rest =>
    match Operator.ofChar? c with
    | some operator => .operator operator :: pieces rest
    | none => Piece.pushFront c (pieces rest)

/-- The terms of a row of pieces; `pending` is the operator read last, if no term followed it. -/
def termsFrom (pending : Option Operator) : List Piece → List Term
  | [] => []
  | .operator operator :: rest => termsFrom (some operator) rest
  | .term characters :: rest => ⟨pending, String.ofList characters⟩ :: termsFrom none rest

/-- The terms of an expression, each with the operator in front of it. -/
def split (text : String) : List Term := termsFrom none (pieces text.toList)

/-- The value of a term: a number's own, or what the symbols give it. -/
def termValue (symbols : String → Option Int) (name : String) : Except Failure Int :=
  match Operand.numeral? name with
  | some number => number.map fun value => (value : Int)
  | none => match symbols name with
    | some value => .ok value
    | none => .error (.ofCause (.undefinedSymbol name))

/-- The quotient of two numbers: that of their absolute values, with a minus sign if only one of the
two numbers is negative. -/
def quotient (left right : Int) : Int :=
  let size : Int := (left.natAbs / right.natAbs : Nat)
  if decide (left < 0) = decide (right < 0) then size else -size

/-- The value of an operator. -/
def apply (operator : Operator) (left right : Int) : Except Failure Int :=
  match operator with
  | .add => .ok (left + right)
  | .subtract => .ok (left - right)
  | .multiply => .ok (left * right)
  | .divide => if right = 0 then .error (.ofCause .divisionByZero) else .ok (quotient left right)

/-- Takes one more term into the value so far; a term without operator replaces the value. -/
def step (symbols : String → Option Int) (value : Int) (term : Term) : Except Failure Int :=
  match termValue symbols term.name with
  | .error failure => .error failure
  | .ok right => match term.operator with
    | none => .ok right
    | some operator => apply operator value right

/-- The value of a row of terms, taken in from left to right. -/
def valueFrom (symbols : String → Option Int) (value : Int) : List Term → Except Failure Int
  | [] => .ok value
  | term :: rest => match step symbols value term with
    | .error failure => .error failure
    | .ok next => valueFrom symbols next rest

/-- The value of an expression; its failures have no place yet. -/
def value (symbols : String → Option Int) (text : String) : Except Failure Int :=
  valueFrom symbols 0 (split text)

/-- A failure of an expression, placed at a source line.  A division by zero is placed without the
text of the line. -/
def placed (location : Option Location) (line : Option String) : Failure → Failure
  | .diagnostic found =>
    .ofDiagnostic
      { cause := found.cause
        location
        line := if found.cause = .divisionByZero then none else line }
  | failure => failure

/-- The value of an expression, its failures placed at a source line. -/
def evaluate (symbols : String → Option Int) (text : String) (location : Option Location)
    (line : Option String) : Except Failure Int :=
  match value symbols text with
  | .ok result => .ok result
  | .error failure => .error (placed location line failure)

end Expression

end TwoPass
