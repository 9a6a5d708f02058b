import Mathlib.Data.List.Chain
import TwoPass.Operand.Class

/-!
# Terms of operands

A symbol is a term by itself and no number, so every term of a symbol or of an expression is a symbol
or a number.  The value of a row of terms is that of its front, taken on with its back: the first term
that has no value decides how the row fails.  A term has no value if it is a symbol without one or a
numeral with too many digits.
-/

namespace TwoPass

namespace Text

/-- No ASCII letter and no underscore is a decimal digit. -/
theorem decimalDigit?_of_beginsSymbol {c : Char} (begins : Operand.beginsSymbol c = true) :
    decimalDigit? c = none := by
  have letter : 65 ≤ c.toNat ∧ c.toNat ≤ 122 := by
    change ((decide (65 ≤ c.val ∧ c.val ≤ 90) ||
      decide (97 ≤ c.val) && decide (c.val ≤ 122)) || c == '_') = true at begins
    simp only [Bool.or_eq_true, Bool.and_eq_true, decide_eq_true_eq, beq_iff_eq,
      UInt32.le_iff_toNat_le] at begins
    rcases begins with (⟨low, high⟩ | ⟨low, high⟩) | rfl
    · exact ⟨low, Nat.le_trans high (by decide)⟩
    · exact ⟨Nat.le_trans (by decide) low, high⟩
    · decide
  have apart : ∀ base ∈ zeros, base = 48 ∨ 122 < base := by decide
  rw [decimalDigit?, Option.map_eq_none_iff, List.find?_eq_none]
  intro base mem
  have place := apart base mem
  simp only [Bool.and_eq_true, decide_eq_true_eq]
  omega

/-- The numbers are the nonempty runs of decimal digits. -/
theorem isSome_decimal?_iff {text : List Char} :
    (decimal? text).isSome = true ↔ text ≠ [] ∧ ∀ c ∈ text, (decimalDigit? c).isSome = true := by
  have read (text : List Char) (start : Option Nat) :
      (text.foldl (fun value c => value.bind fun high =>
        (decimalDigit? c).map fun digit => high * 10 + digit) start).isSome = true ↔
        start.isSome = true ∧ ∀ c ∈ text, (decimalDigit? c).isSome = true := by
    induction text generalizing start with
    | nil => simp
    | cons c rest ih =>
      rw [List.foldl_cons, ih, List.forall_mem_cons, ← and_assoc]
      cases start <;> simp
  cases text with
  | nil => simp [decimal?]
  | cons c rest => simpa [decimal?] using read (c :: rest) (some 0)

end Text

/-- A decimal digit, once or several times, is a number. -/
theorem Operand.isNumber_replicate {digit : Char} (known : (Text.decimalDigit? digit).isSome = true)
    (count : Nat) : isNumber (String.ofList (List.replicate (count + 1) digit)) = true := by
  rw [isNumber, number?, String.toList_ofList, Text.isSome_decimal?_iff]
  refine ⟨by simp, fun c mem => ?_⟩
  rw [List.eq_of_mem_replicate mem, known]

/-- A symbol is no number. -/
theorem Operand.numeral?_of_isSymbol {name : String} (symbol : isSymbol name = true) :
    numeral? name = none := by
  rw [isSymbol.eq_def] at symbol
  split at symbol
  · cases symbol
  · rename_i first rest spelled
    rw [Bool.and_eq_true] at symbol
    rw [numeral?, Option.map_eq_none_iff, number?, spelled, ← Option.not_isSome_iff_eq_none,
      Text.isSome_decimal?_iff]
    intro read
    have digit := read.2 first List.mem_cons_self
    rw [Text.decimalDigit?_of_beginsSymbol symbol.1] at digit
    cases digit

/-- A numeral that is accepted spells its value. -/
theorem Operand.number?_of_numeral? {text : String} {value : Nat}
    (accepted : numeral? text = some (.ok value)) : number? text = some value := by
  obtain ⟨number, spelled, limited⟩ := Option.map_eq_some_iff.1 accepted
  split at limited
  · cases limited
  · cases limited
    exact spelled

/-- Whether a term is a numeral with too many digits. -/
def Term.isTooLong (term : Term) : Bool :=
  Operand.isNumber term.name && decide (Text.digitLimit < term.name.length)

/-- A digit that is repeated more often than digits are read makes a numeral too long. -/
theorem Term.isTooLong_replicate {digit : Char}
    (known : (Text.decimalDigit? digit).isSome = true) {count : Nat}
    (long : Text.digitLimit ≤ count) (operator : Option Operator) :
    isTooLong ⟨operator, String.ofList (List.replicate (count + 1) digit)⟩ = true := by
  rw [isTooLong, Operand.isNumber_replicate known, String.length_ofList, List.length_replicate,
    Bool.true_and, decide_eq_true_eq]
  omega

namespace Expression

/-- Whether a piece is an operator. -/
def Piece.isOperator : Piece → Bool
  | .operator _ => true
  | .term _ => false

/-- Of two neighbouring pieces one is an operator. -/
theorem isChain_pieces (text : List Char) :
    (pieces text).IsChain fun left right => left.isOperator = true ∨ right.isOperator = true := by
  induction text with
  | nil => exact .nil
  | cons c rest ih =>
    rw [pieces]
    split
    · rename_i operator _
      cases shape : pieces rest with
      | nil => exact .singleton _
      | cons first others =>
        rw [shape] at ih
        exact .cons_cons (.inl rfl) ih
    · -- The character lengthens a run that begins the rest, or is a run in front of an operator.
      cases shape : pieces rest with
      | nil => exact .singleton _
      | cons first others =>
        rw [shape] at ih
        cases first with
        | operator operator => exact .cons_cons (.inr rfl) ih
        | term characters =>
          rw [Piece.pushFront]
          cases others with
          | nil => exact .singleton _
          | cons second further =>
            rw [List.isChain_cons_cons] at ih ⊢
            exact ih

/-- Behind an operator every term has an operator. -/
theorem operator_of_mem_termsFrom {row : List Piece}
    (chain : row.IsChain fun left right => left.isOperator = true ∨ right.isOperator = true)
    {pending : Option Operator}
    (behind : pending.isSome = true ∨ ∀ piece ∈ row.head?, piece.isOperator = true) :
    ∀ term ∈ termsFrom pending row, term.operator.isSome = true := by
  induction row generalizing pending with
  | nil => simp [termsFrom]
  | cons piece rest ih =>
    have later := List.isChain_cons.1 chain
    cases piece with
    | operator operator => exact ih later.2 (.inl rfl)
    | term characters =>
      have own : pending.isSome = true := behind.resolve_right fun all =>
        absurd (all (.term characters) rfl) (by simp [Piece.isOperator])
      rw [termsFrom, List.forall_mem_cons]
      refine ⟨own, ih later.2 (.inr fun next found => ?_)⟩
      exact (later.1 next found).resolve_left (by simp [Piece.isOperator])

/-- Only the first of some terms can stand without an operator. -/
theorem operator_of_mem_tail_termsFrom {row : List Piece}
    (chain : row.IsChain fun left right => left.isOperator = true ∨ right.isOperator = true)
    (pending : Option Operator) :
    ∀ term ∈ (termsFrom pending row).tail, term.operator.isSome = true := by
  induction row generalizing pending with
  | nil => simp [termsFrom]
  | cons piece rest ih =>
    have later := List.isChain_cons.1 chain
    cases piece with
    | operator operator => exact ih later.2 (some operator)
    | term characters =>
      rw [termsFrom, List.tail_cons]
      refine operator_of_mem_termsFrom later.2 (.inr fun next found => ?_)
      exact (later.1 next found).resolve_left (by simp [Piece.isOperator])

/-- No character of a symbol and no decimal digit is an operator. -/
theorem ofChar?_eq_none {c : Char}
    (plain : Operand.continuesSymbol c = true ∨ (Text.decimalDigit? c).isSome = true) :
    Operator.ofChar? c = none := by
  rw [Option.eq_none_iff_forall_ne_some]
  intro operator written
  have other : Operand.continuesSymbol operator.toChar = false ∧
      (Text.decimalDigit? operator.toChar).isSome = false := by cases operator <;> decide
  rw [Operator.ofChar?_eq_some_iff.1 written, other.1, other.2] at plain
  rcases plain with wrong | wrong <;> cases wrong

/-- A run of characters that are no operators is one piece, unless a further such run follows. -/
theorem pieces_append {front back : List Char} (begun : front ≠ [])
    (plain : ∀ c ∈ front, Operator.ofChar? c = none)
    (apart : ∀ characters rest, pieces back ≠ .term characters :: rest) :
    pieces (front ++ back) = .term front :: pieces back := by
  induction front with
  | nil => exact absurd rfl begun
  | cons c rest ih =>
    rw [List.forall_mem_cons] at plain
    rw [List.cons_append, pieces, plain.1]
    cases rest with
    | nil =>
      rw [List.nil_append]
      cases later : pieces back with
      | nil => rfl
      | cons piece others =>
        cases piece with
        | operator operator => rfl
        | term characters => exact absurd later (apart characters others)
    | cons d further =>
      rw [ih (List.cons_ne_nil d further) plain.2]
      rfl

/-- A text without operators is its only term. -/
theorem split_of_plain {operand : String} (begun : operand.toList ≠ [])
    (plain : ∀ c ∈ operand.toList, Operator.ofChar? c = none) :
    split operand = [⟨none, operand⟩] := by
  have whole := @pieces_append operand.toList [] begun plain (by simp [pieces])
  rw [List.append_nil] at whole
  rw [split, whole, pieces, termsFrom, termsFrom, String.ofList_toList]

/-- A symbol has characters, and each of them may continue one. -/
theorem continuesSymbol_of_isSymbol {name : String} (symbol : Operand.isSymbol name = true) :
    name.toList ≠ [] ∧ ∀ c ∈ name.toList, Operand.continuesSymbol c = true := by
  rw [Operand.isSymbol.eq_def] at symbol
  split at symbol
  · cases symbol
  · rename_i first rest spelled
    rw [Bool.and_eq_true, List.all_eq_true] at symbol
    have begins : Operand.continuesSymbol first = true := by
      have letter := symbol.1
      simp only [Operand.beginsSymbol, Operand.continuesSymbol, Char.isAlphanum, Bool.or_eq_true]
        at letter ⊢
      exact letter.imp_left .inl
    rw [spelled, List.forall_mem_cons]
    exact ⟨List.cons_ne_nil first rest, begins, symbol.2⟩

/-- A symbol is a run of characters that are no operators. -/
theorem plain_of_isSymbol {name : String} (symbol : Operand.isSymbol name = true) :
    name.toList ≠ [] ∧ ∀ c ∈ name.toList, Operator.ofChar? c = none := by
  obtain ⟨begun, letters⟩ := continuesSymbol_of_isSymbol symbol
  exact ⟨begun, fun c mem => ofChar?_eq_none (.inl (letters c mem))⟩

/-- A number is a run of characters that are no operators. -/
theorem plain_of_isNumber {name : String} (number : Operand.isNumber name = true) :
    name.toList ≠ [] ∧ ∀ c ∈ name.toList, Operator.ofChar? c = none := by
  obtain ⟨begun, digits⟩ := Text.isSome_decimal?_iff.1 number
  exact ⟨begun, fun c mem => ofChar?_eq_none (.inr (digits c mem))⟩

/-- A symbol is its only term. -/
theorem split_of_isSymbol {operand : String} (symbol : Operand.isSymbol operand = true) :
    split operand = [⟨none, operand⟩] :=
  split_of_plain (plain_of_isSymbol symbol).1 (plain_of_isSymbol symbol).2

/-- A number is its only term. -/
theorem split_of_isNumber {operand : String} (number : Operand.isNumber operand = true) :
    split operand = [⟨none, operand⟩] :=
  split_of_plain (plain_of_isNumber number).1 (plain_of_isNumber number).2

/-- An expression has several terms, which are symbols and numbers. -/
theorem terms_of_isExpression {operand : String} (expression : Operand.isExpression operand = true) :
    operand ≠ "*" ∧ 1 < (split operand).length ∧ ∀ term ∈ split operand,
      Operand.isSymbol term.name = true ∨ Operand.isNumber term.name = true := by
  rw [Operand.isExpression] at expression
  split at expression
  · cases expression
  · rename_i other
    simp only [Bool.or_eq_true, decide_eq_true_eq, not_or] at other
    rw [Bool.and_eq_true, decide_eq_true_eq] at expression
    exact ⟨other.1.1, expression.1, by simpa using expression.2⟩

/-- A symbol or an expression is no number. -/
theorem numeral?_of_shape {operand : String}
    (shape : Operand.isSymbol operand = true ∨ Operand.isExpression operand = true) :
    Operand.numeral? operand = none := by
  rcases shape with symbol | expression
  · exact Operand.numeral?_of_isSymbol symbol
  · cases number : Operand.isNumber operand with
    | false =>
      rw [Operand.numeral?, Option.map_eq_none_iff]
      simpa [Operand.isNumber] using number
    | true =>
      have several := (terms_of_isExpression expression).2.1
      rw [split_of_isNumber number] at several
      exact absurd several (Nat.lt_irrefl 1)

/-- A symbol or an expression does not stand for the current location. -/
theorem ne_star_of_shape {operand : String}
    (shape : Operand.isSymbol operand = true ∨ Operand.isExpression operand = true) :
    operand ≠ "*" := by
  rcases shape with symbol | expression
  · rintro rfl
    exact absurd symbol (by decide)
  · exact (terms_of_isExpression expression).1

/-- The terms of a symbol or an expression are symbols and numbers. -/
theorem isSymbol_or_isNumber {operand : String}
    (shape : Operand.isSymbol operand = true ∨ Operand.isExpression operand = true) :
    ∀ term ∈ split operand,
      Operand.isSymbol term.name = true ∨ Operand.isNumber term.name = true := by
  rcases shape with symbol | expression
  · rw [split_of_isSymbol symbol]
    exact List.forall_mem_singleton.2 (.inl symbol)
  · exact (terms_of_isExpression expression).2.2

variable {symbols : String → Option Int}

/-- The value of two rows of terms is that of the first, taken on with the second. -/
theorem valueFrom_append (symbols : String → Option Int) (value : Int) (front back : List Term) :
    valueFrom symbols value (front ++ back) =
      (valueFrom symbols value front).bind fun next => valueFrom symbols next back := by
  induction front generalizing value with
  | nil => rfl
  | cons term rest ih =>
    rw [List.cons_append, valueFrom, valueFrom]
    cases step symbols value term with
    | error failure => rfl
    | ok next => exact ih next

/-- A numeral with too many digits has no value. -/
theorem termValue_of_isTooLong {term : Term} (long : term.isTooLong = true) :
    termValue symbols term.name = .error (.numeralTooLong term.name.length) := by
  rw [Term.isTooLong, Bool.and_eq_true, Operand.isNumber, decide_eq_true_eq] at long
  obtain ⟨number, found⟩ := Option.isSome_iff_exists.1 long.1
  have refused : Operand.numeral? term.name = some (.error (.numeralTooLong term.name.length)) := by
    simp [Operand.numeral?, found, long.2]
  rw [termValue, refused]
  rfl

/-- A symbol without value has none as a term. -/
theorem termValue_of_isSymbol {name : String} (symbol : Operand.isSymbol name = true)
    (unknown : symbols name = none) :
    termValue symbols name = .error (.ofCause (.undefinedSymbol name)) := by
  rw [termValue, Operand.numeral?_of_isSymbol symbol]
  simp only [unknown]

/-- Every other number and every name with a value has a value as a term. -/
theorem exists_termValue {term : Term} (short : term.isTooLong = false)
    (named : Operand.isNumber term.name = true ∨ (symbols term.name).isSome = true) :
    ∃ value, termValue symbols term.name = .ok value := by
  cases found : Operand.number? term.name with
  | some number =>
    have fits : ¬ Text.digitLimit < term.name.length := by
      simpa [Term.isTooLong, Operand.isNumber, found] using short
    have accepted : Operand.numeral? term.name = some (.ok number) := by
      simp [Operand.numeral?, found, fits]
    exact ⟨number, by rw [termValue, accepted]; rfl⟩
  | none =>
    have known : (symbols term.name).isSome = true := by
      simpa [Operand.isNumber, found] using named
    obtain ⟨value, has⟩ := Option.isSome_iff_exists.1 known
    exact ⟨value, by simp [termValue, Operand.numeral?, found, has]⟩

/-- A row of terms with values has a value, or a division by zero comes in it. -/
theorem valueFrom_of_values {terms : List Term} (short : ∀ term ∈ terms, term.isTooLong = false)
    (named : ∀ term ∈ terms,
      Operand.isNumber term.name = true ∨ (symbols term.name).isSome = true) (value : Int) :
    (∃ result, valueFrom symbols value terms = .ok result) ∨
      valueFrom symbols value terms = .error (.ofCause .divisionByZero) := by
  induction terms generalizing value with
  | nil => exact .inl ⟨value, rfl⟩
  | cons term rest ih =>
    rw [List.forall_mem_cons] at short named
    obtain ⟨right, has⟩ := exists_termValue short.1 named.1
    have taken : (∃ next, step symbols value term = .ok next) ∨
        step symbols value term = .error (.ofCause .divisionByZero) := by
      rw [step, has]
      cases term.operator with
      | none => exact .inl ⟨right, rfl⟩
      | some operator =>
        cases operator with
        | add | subtract | multiply => exact .inl ⟨_, rfl⟩
        | divide =>
          by_cases zero : right = 0
          · exact .inr (by simp [apply, zero])
          · exact .inl ⟨quotient value right, by simp [apply, zero]⟩
    rw [valueFrom]
    rcases taken with ⟨next, taken⟩ | fails
    · rw [taken]
      exact ih short.2 named.2 next
    · rw [fails]
      exact .inr rfl

/-- A row of terms fails as its first term without value does, unless a division by zero comes in
front of it. -/
theorem valueFrom_of_termValue {front back : List Term} {term : Term} {value : Int}
    {failure : Failure} (short : ∀ other ∈ front, other.isTooLong = false)
    (named : ∀ other ∈ front,
      Operand.isNumber other.name = true ∨ (symbols other.name).isSome = true)
    (divides : valueFrom symbols value front ≠ .error (.ofCause .divisionByZero))
    (fails : termValue symbols term.name = .error failure) :
    valueFrom symbols value (front ++ term :: back) = .error failure := by
  rcases valueFrom_of_values short named value with ⟨next, taken⟩ | zero
  · rw [valueFrom_append, taken]
    simp [Except.bind, valueFrom, step, fails]
  · exact absurd zero divides

/-- The first symbol of an operand that has no value, behind terms among which no division by zero
comes. -/
structure FirstUnknown (symbols : String → Option Int) (operand : String) (before : List Term)
    (name : String) : Prop where
  /-- The symbol is a term behind the others. -/
  isTerm : ∃ operator after, split operand = before ++ ⟨operator, name⟩ :: after
  /-- It is a symbol. -/
  symbol : Operand.isSymbol name = true
  /-- It has no value. -/
  unknown : symbols name = none
  /-- The symbols in front of it have values. -/
  known : ∀ other ∈ before, Operand.isSymbol other.name = true → (symbols other.name).isSome = true
  /-- No division by zero comes in front of it. -/
  divides : valueFrom symbols 0 before ≠ .error (.ofCause .divisionByZero)

/-- An operand fails for its first symbol without value, unless a numeral in front of it has too many
digits. -/
theorem FirstUnknown.value_eq {operand : String} {before : List Term} {name : String}
    (first : FirstUnknown symbols operand before name)
    (shape : Operand.isSymbol operand = true ∨ Operand.isExpression operand = true) :
    value symbols operand =
      .error ((before.find? Term.isTooLong).elim (.ofCause (.undefinedSymbol name))
        fun numeral => .numeralTooLong numeral.name.length) := by
  obtain ⟨operator, after, terms⟩ := first.isTerm
  have named : ∀ other ∈ before,
      Operand.isNumber other.name = true ∨ (symbols other.name).isSome = true := by
    intro other mem
    have inside : other ∈ split operand := by
      rw [terms]
      exact List.mem_append_left _ mem
    rcases isSymbol_or_isNumber shape other inside with symbol | number
    · exact .inr (first.known other mem symbol)
    · exact .inl number
  rw [value, terms]
  cases found : before.find? Term.isTooLong with
  | none =>
    have short : ∀ other ∈ before, other.isTooLong = false := by
      simpa using List.find?_eq_none.1 found
    exact valueFrom_of_termValue short named first.divides
      (termValue_of_isSymbol first.symbol first.unknown)
  | some numeral =>
    obtain ⟨long, front, back, rfl, short⟩ := List.find?_eq_some_iff_append.1 found
    have divides : valueFrom symbols 0 front ≠ .error (.ofCause .divisionByZero) := by
      intro zero
      apply first.divides
      rw [valueFrom_append, zero]
      rfl
    rw [List.append_assoc, List.cons_append]
    exact valueFrom_of_termValue (by simpa using short)
      (fun other mem => named other (List.mem_append_left _ mem)) divides
      (termValue_of_isTooLong long)

end Expression

end TwoPass
