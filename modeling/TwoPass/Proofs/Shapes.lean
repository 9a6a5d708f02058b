import TwoPass.Proofs.FormBytes
import TwoPass.Proofs.Grammar

/-!
# Shapes of operands

The six shapes of an operand exclude each other.  `Shape.candidate` is the one shape that a text may
have: a quote in it tells data forms and literals from the others, and the others are told apart by
the number of their terms.  `Shape.eq_of_describes` follows, and `Shape.addressing_of_describes` says
that no text with a shape begins with the mark of an addressing.
-/

namespace TwoPass.Operand

/-- The shapes of an operand. -/
inductive Shape where
  /-- The text that stands for the current location. -/
  | here
  /-- A decimal number. -/
  | number
  /-- A symbol. -/
  | symbol
  /-- A data form. -/
  | form
  /-- A data form behind an equals sign. -/
  | literal
  /-- Several symbols and numbers with operators between them. -/
  | expression
  deriving DecidableEq, Repr

namespace Shape

/-- Whether a text has a shape. -/
def describes (shape : Shape) (text : String) : Bool :=
  match shape with
  | .here => text = "*"
  | .number => isNumber text
  | .symbol => isSymbol text
  | .form => isForm text
  | .literal => isLiteral text
  | .expression => isExpression text

/-- The only shape that a text may have. -/
def candidate (text : String) : Shape :=
  if '\'' ∈ text.toList then
    if text.toList.head? = some '=' then .literal else .form
  else if (Expression.split text).length = 0 then .here
  else if (Expression.split text).length = 1 then
    if isNumber text then .number else .symbol
  else .expression

/-- Whether a shape has quotes in it. -/
def isQuoted (shape : Shape) : Bool := shape = .form || shape = .literal

variable {shape left right : Shape} {text : String}

/-- A text without quotes consists of characters that may stand in an expression. -/
theorem admits_of_describes (plain : shape.isQuoted = false) (own : shape.describes text = true) :
    ∀ c ∈ text.toList, Expression.admits c = true := by
  cases shape with
  | here =>
    rw [of_decide_eq_true own]
    exact List.all_eq_true.1 (by decide)
  | number => exact Expression.Atom.admits_of_mem ⟨text, .inr own⟩
  | symbol => exact Expression.Atom.admits_of_mem ⟨text, .inl own⟩
  | form => cases plain
  | literal => cases plain
  | expression =>
    obtain ⟨row, _, rfl⟩ := Expression.exists_wideRow_of_isExpression own
    exact row.admits_of_mem

/-- A data form begins with a letter, which may stand in an expression. -/
theorem head_of_isForm (own : isForm text = true) :
    ∃ letter rest, text.toList = letter :: rest ∧ Expression.admits letter = true := by
  obtain ⟨form, parsed⟩ := Option.isSome_iff_exists.1 own
  obtain ⟨_, letter, listed, spelled⟩ := Form.parse?_eq_some_iff.1 parsed
  have letters : form.kind.letters.all Expression.admits = true := by
    cases form.kind <;> decide
  exact ⟨letter, _, spelled, List.all_eq_true.1 letters letter listed⟩

/-- There is a quote in a text exactly if its shape has quotes. -/
theorem quote_mem_iff (own : shape.describes text = true) :
    '\'' ∈ text.toList ↔ shape.isQuoted = true := by
  cases quoted : shape.isQuoted with
  | false =>
    refine iff_of_false (fun quote => ?_) Bool.false_ne_true
    exact absurd (admits_of_describes quoted own _ quote) (by decide)
  | true =>
    refine iff_of_true ?_ rfl
    cases shape with
    | here | number | symbol | expression => cases quoted
    | form => exact Expression.quote_mem_of_parse? own
    | literal =>
      obtain ⟨form, marked, spelled⟩ := Form.isLiteral_eq_true own
      rw [marked]
      exact List.mem_cons_of_mem _ (Expression.quote_mem_of_parse? spelled)

/-- A text has no shape but the one that its quotes, its terms and its first character tell. -/
theorem candidate_of_describes (own : shape.describes text = true) : candidate text = shape := by
  rw [candidate]
  by_cases quote : '\'' ∈ text.toList
  · rw [if_pos quote]
    rw [quote_mem_iff own] at quote
    cases shape with
    | here | number | symbol | expression => cases quote
    | form =>
      obtain ⟨letter, rest, spelled, begins⟩ := head_of_isForm own
      rw [spelled]
      refine if_neg fun mark => ?_
      cases mark
      exact absurd begins (by decide)
    | literal =>
      obtain ⟨form, marked, _⟩ := Form.isLiteral_eq_true own
      rw [marked]
      rfl
  · rw [if_neg quote]
    rw [quote_mem_iff own] at quote
    cases shape with
    | here =>
      rw [of_decide_eq_true own]
      decide
    | number =>
      have alone := Expression.split_of_isNumber own
      have digits : isNumber text = true := own
      simp [alone, digits]
    | symbol =>
      have alone := Expression.split_of_isSymbol own
      have named : isNumber text = false := by
        simpa [isNumber, numeral?] using numeral?_of_isSymbol own
      simp [alone, named]
    | form | literal => exact absurd rfl quote
    | expression =>
      have several := (Expression.terms_of_isExpression own).2.1
      rw [if_neg (by omega), if_neg (by omega)]

/-- A text has at most one shape. -/
theorem eq_of_describes (first : left.describes text = true) (second : right.describes text = true) :
    left = right :=
  (candidate_of_describes first).symm.trans (candidate_of_describes second)

/-- A text that has one shape does not have another. -/
theorem describes_of_ne (own : left.describes text = true) (other : left ≠ right) :
    right.describes text = false :=
  Bool.eq_false_iff.2 fun second => other (eq_of_describes own second)

/-- A text with a shape begins with an equals sign or with a character that may stand in an
expression. -/
theorem head_of_describes (own : shape.describes text = true) :
    ∀ c ∈ text.toList.head?, c = '=' ∨ Expression.admits c = true := by
  intro c head
  cases quoted : shape.isQuoted with
  | false => exact .inr (admits_of_describes quoted own c (List.mem_of_mem_head? head))
  | true =>
    cases shape with
    | here | number | symbol | expression => cases quoted
    | form =>
      obtain ⟨letter, rest, spelled, inside⟩ := head_of_isForm own
      rw [spelled] at head
      cases head
      exact .inr inside
    | literal =>
      obtain ⟨form, marked, _⟩ := Form.isLiteral_eq_true own
      rw [marked] at head
      cases head
      exact .inl rfl

/-- No text with a shape begins with the mark of an addressing. -/
theorem addressing_of_describes (own : shape.describes text = true) :
    addressing text = .simple := by
  have begins := head_of_describes own
  rw [addressing]
  split
  · rename_i rest spelled
    exact absurd (begins '#' (by rw [spelled]; rfl)) (by decide)
  · rename_i rest spelled
    exact absurd (begins '@' (by rw [spelled]; rfl)) (by decide)
  · rfl

end Shape

end TwoPass.Operand
