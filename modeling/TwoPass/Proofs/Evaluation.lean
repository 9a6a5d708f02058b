import TwoPass.Proofs.Grammar

/-!
# Evaluation from left to right

A row of terms is evaluated strictly from left to right, with quotients rounded toward zero.  Whether
a term stops the evaluation depends on the term and the operator in front of it alone, not on the
value so far.  The main statement, `Expression.evaluate_text`, says that the evaluation fails at the
first such term, and that otherwise it gives the left fold.  Besides a symbol without value and a
divisor zero there is a third kind: a numeral with more digits than are read.
-/

namespace TwoPass

/-- What an operator makes of two values; a quotient is rounded toward zero. -/
def Operator.compute : Operator → Int → Int → Int
  | .add, left, right => left + right
  | .subtract, left, right => left - right
  | .multiply, left, right => left * right
  | .divide, left, right => left.tdiv right

namespace Expression

/-- The value of a term: a number's own, or what the symbols give it. -/
def worth? (symbols : String → Option Int) (name : String) : Option Int :=
  ((Operand.number? name).map fun number => (number : Int)).or (symbols name)

/-- The value of a term, if it has one. -/
def worth (symbols : String → Option Int) (name : String) : Int := (worth? symbols name).getD 0

/-- The value of a row from left to right, all operators alike. -/
def Row.value (row : Row) (symbols : String → Option Int) : Int :=
  row.rest.foldl (fun value link => link.1.compute value (worth symbols link.2.name))
    (worth symbols row.first.name)

/-- Why a term stops the evaluation, if it does: it is a numeral with too many digits, a symbol
without value, or a divisor zero. -/
def fault? (symbols : String → Option Int) (location : Option Location) (line : Option String)
    (term : Term) : Option Failure :=
  if term.isTooLong then some (.numeralTooLong term.name.length)
  else (worth? symbols term.name).elim
    (some (.ofDiagnostic { cause := .undefinedSymbol term.name, location, line })) fun right =>
      if term.operator = some .divide ∧ right = 0 then
        some (.ofDiagnostic { cause := .divisionByZero, location })
      else none

/-- Takes a term into the value so far. -/
def takeIn (symbols : String → Option Int) (value : Int) (term : Term) : Int :=
  term.operator.elim (worth symbols term.name) fun operator =>
    operator.compute value (worth symbols term.name)

section Steps

variable {symbols : String → Option Int} {location : Option Location} {line : Option String}

/-- A term has its value, unless it is a numeral with too many digits or a symbol without value. -/
theorem termValue_eq (term : Term) :
    termValue symbols term.name =
      if term.isTooLong then .error (.numeralTooLong term.name.length)
      else (worth? symbols term.name).elim (.error (.ofCause (.undefinedSymbol term.name))) .ok := by
  by_cases long : term.isTooLong = true
  · rw [if_pos long, termValue_of_isTooLong long]
  · rw [if_neg long]
    cases spelled : Operand.number? term.name with
    | some number =>
      have short : ¬ Text.digitLimit < term.name.length := by
        simpa [Term.isTooLong, Operand.isNumber, spelled] using long
      simp [termValue, Operand.numeral?, worth?, spelled, short, Except.map]
    | none =>
      cases known : symbols term.name with
      | none => simp [termValue, Operand.numeral?, worth?, spelled, known]
      | some value => simp [termValue, Operand.numeral?, worth?, spelled, known]

/-- The quotient of the absolute values, with its sign, is the quotient rounded toward zero. -/
theorem quotient_eq_tdiv (left right : Int) : quotient left right = left.tdiv right := by
  have size : ((left.natAbs / right.natAbs : Nat) : Int) =
      Int.tdiv left.natAbs right.natAbs := Int.ofNat_tdiv _ _
  rw [quotient, size]
  by_cases below : left < 0
  · have first : left = -(left.natAbs : Int) := by omega
    by_cases under : right < 0
    · have second : right = -(right.natAbs : Int) := by omega
      rw [if_pos (by simp [below, under])]
      conv_rhs => rw [first, second, Int.neg_tdiv, Int.tdiv_neg, Int.neg_neg]
    · have second : right = (right.natAbs : Int) := by omega
      rw [if_neg (by simp [below, under])]
      conv_rhs => rw [first, second, Int.neg_tdiv]
  · have first : left = (left.natAbs : Int) := by omega
    by_cases under : right < 0
    · have second : right = -(right.natAbs : Int) := by omega
      rw [if_neg (by simp [below, under])]
      conv_rhs => rw [first, second, Int.tdiv_neg]
    · have second : right = (right.natAbs : Int) := by omega
      rw [if_pos (by simp [below, under])]
      conv_rhs => rw [first, second]

/-- An operator gives what it computes, unless the divisor is zero. -/
theorem apply_eq (operator : Operator) (left right : Int) :
    apply operator left right =
      if operator = .divide ∧ right = 0 then .error (.ofCause .divisionByZero)
      else .ok (operator.compute left right) := by
  cases operator with
  | add | subtract | multiply => simp [apply, Operator.compute]
  | divide => simp [apply, Operator.compute, quotient_eq_tdiv]

/-- A step takes the term in, unless the term stops the evaluation. -/
theorem step_eq (value : Int) (term : Term) :
    (step symbols value term).mapError (placed location line) =
      (fault? symbols location line term).elim (.ok (takeIn symbols value term)) .error := by
  rw [step, termValue_eq, fault?]
  by_cases long : term.isTooLong = true
  · rw [if_pos long, if_pos long]
    rfl
  · rw [if_neg long, if_neg long]
    cases known : worth? symbols term.name with
    | none => rfl
    | some right =>
      have own : worth symbols term.name = right := by rw [worth, known, Option.getD_some]
      cases sign : term.operator with
      | none => simp [takeIn, sign, own, Except.mapError]
      | some operator =>
        simp only [Option.elim_some, takeIn, sign, own, apply_eq, Option.some.injEq]
        split
        · rfl
        · rfl

/-- A row of terms is taken in one by one, up to the first that stops the evaluation. -/
theorem valueFrom_eq (value : Int) (terms : List Term) :
    (valueFrom symbols value terms).mapError (placed location line) =
      (terms.findSome? (fault? symbols location line)).elim
        (.ok (terms.foldl (takeIn symbols) value)) .error := by
  induction terms generalizing value with
  | nil => rfl
  | cons term rest ih =>
    have taken : (step symbols value term).mapError (placed location line) = _ := step_eq value term
    rw [valueFrom, List.findSome?_cons]
    cases stops : fault? symbols location line term with
    | none =>
      cases result : step symbols value term with
      | error failure =>
        rw [stops, result] at taken
        cases taken
      | ok next =>
        rw [stops, result] at taken
        cases taken
        exact ih _
    | some failure =>
      cases result : step symbols value term with
      | error reason =>
        rw [stops, result] at taken
        exact taken
      | ok next =>
        rw [stops, result] at taken
        cases taken

end Steps

/-- A row is evaluated from left to right, up to the first term that stops the evaluation. -/
theorem Row.evaluate_eq (row : Row) (symbols : String → Option Int) (location : Option Location)
    (line : Option String) :
    evaluate symbols row.text location line =
      (row.terms.findSome? (fault? symbols location line)).elim (.ok (row.value symbols)) .error := by
  have fold : row.terms.foldl (takeIn symbols) 0 = row.value symbols := by
    rw [Row.terms, List.foldl_cons, List.foldl_map]
    rfl
  have taken : (valueFrom symbols 0 row.terms).mapError (placed location line) = _ :=
    valueFrom_eq 0 row.terms
  rw [fold] at taken
  rw [evaluate, Expression.value, row.split_text, ← taken]
  cases valueFrom symbols 0 row.terms <;> rfl

/-- A row is split into its terms, and it is evaluated strictly from left to right, whatever symbols
have values.  The evaluation fails at the first term that is a symbol without value, a divisor zero,
or a numeral with too many digits, and for no other reason. -/
theorem evaluate_text (row : Row) (symbols : String → Option Int) (location : Option Location)
    (line : Option String) :
    split row.text = row.terms ∧
      evaluate symbols row.text location line =
        (row.terms.findSome? (fault? symbols location line)).elim (.ok (row.value symbols)) .error :=
  ⟨row.split_text, row.evaluate_eq symbols location line⟩

/-- A single numeral with too many digits has no value. -/
theorem evaluate_nines {count : Nat} (long : Text.digitLimit ≤ count)
    (symbols : String → Option Int) :
    evaluate symbols (Row.text ⟨nines count, []⟩) none none =
      .error (.numeralTooLong (count + 1)) := by
  have digits : (nines count).name.length = count + 1 := by simp [nines]
  rw [Row.evaluate_eq, Row.terms, List.findSome?_cons, fault?, if_pos (isTooLong_nines long), digits]
  rfl

/-- A single numeral with one digit more than are read has no value, though there is no symbol and no
division. -/
theorem evaluate_digitLimit :
    let row : Row := ⟨nines Text.digitLimit, []⟩
    (∀ term ∈ row.terms, Operand.isNumber term.name = true ∧ term.operator = none) ∧
      ∀ result, evaluate (fun _ => none) row.text none none ≠ .ok result := by
  intro row
  refine ⟨List.forall_mem_singleton.2 ⟨isNumber_nines Text.digitLimit, rfl⟩, fun result => ?_⟩
  rw [evaluate_nines (Nat.le_refl Text.digitLimit)]
  rintro ⟨⟩

end Expression

end TwoPass
