/-!
# Arithmetic operators

The four operators of an operand expression and the characters that write them.
-/

namespace TwoPass

/-- An operator between two terms of an expression. -/
inductive Operator where
  /-- Addition. -/
  | add
  /-- Subtraction. -/
  | subtract
  /-- Multiplication. -/
  | multiply
  /-- Division toward zero. -/
  | divide
  deriving DecidableEq, Repr

namespace Operator

/-- The operator that a character writes. -/
def ofChar? : Char → Option Operator
  | '+' => some .add
  | '-' => some .subtract
  | '*' => some .multiply
  | '/' => some .divide
  | _ => none

/-- The character that writes an operator. -/
def toChar : Operator → Char
  | .add => '+'
  | .subtract => '-'
  | .multiply => '*'
  | .divide => '/'

/-- An operator as a text of one character. -/
def text (operator : Operator) : String := String.ofList [operator.toChar]

/-- A character writes an operator exactly when it is that operator's character. -/
theorem ofChar?_eq_some_iff {c : Char} {operator : Operator} :
    ofChar? c = some operator ↔ c = operator.toChar := by
  constructor
  · intro h
    unfold ofChar? at h
    split at h <;> cases h <;> rfl
  · rintro rfl
    cases operator <;> rfl

end Operator

end TwoPass
