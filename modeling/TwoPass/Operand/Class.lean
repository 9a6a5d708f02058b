import TwoPass.Operand.Expression

/-!
# Operand classes

The shapes that an operand can have: a decimal number, a symbol, a data form, a literal, or an
expression over symbols and numbers.
-/

namespace TwoPass.Operand

/-- Whether a text is a data form. -/
def isForm (text : String) : Bool := (Form.parse? text.toList).isSome

/-- Whether a text is a data form behind an equals sign. -/
def isLiteral (text : String) : Bool :=
  match text.toList with
  | '=' :: form => (Form.parse? form).isSome
  | _ => false

/-- Whether a text is an expression of at least two terms, each a symbol or a number.  The text that
stands for the current location and the data forms are none. -/
def isExpression (text : String) : Bool :=
  if text = "*" || isForm text || isLiteral text then false
  else
    let terms := Expression.split text
    decide (1 < terms.length) && terms.all fun term => isSymbol term.name || isNumber term.name

/-- How an instruction uses the value of its operand. -/
inductive Addressing where
  /-- The value is the address of the datum. -/
  | simple
  /-- The value is the datum: the operand is marked `#`. -/
  | immediate
  /-- The value is the address of the address: the operand is marked `@`. -/
  | indirect
  deriving DecidableEq, Repr

/-- The addressing that the first character of an operand marks. -/
def addressing (operand : String) : Addressing :=
  match operand.toList with
  | '#' :: _ => .immediate
  | '@' :: _ => .indirect
  | _ => .simple

/-- The character that marks an addressing, as a text. -/
def Addressing.mark : Addressing → String
  | .simple => ""
  | .immediate => "#"
  | .indirect => "@"

end TwoPass.Operand
