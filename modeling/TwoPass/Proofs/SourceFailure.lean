import TwoPass.Proofs.LayoutStep

/-!
# Failures that a source causes

A step of the first pass fails because of what the source says: with a diagnostic, or because a
number is too long to be read or to be written.  `Statement.Refuses` lists these failures with the
places that their diagnostics have: all are at the operands of the statement, and all but a division
by zero show its line.  Placing literals is the one part of a step that could fail otherwise; that it
never fails at all is shown with the literal pools.  A label is refused where labels are bound and
nowhere else.
-/

namespace TwoPass

/-- Whether a failure is a diagnostic about the source. -/
def Failure.isDiagnostic : Failure → Bool
  | .diagnostic _ => true
  | _ => false

/-- Whether a failure comes from what a source says: it is a diagnostic, or a number has more digits
than are read or written. -/
def Failure.isOfSource : Failure → Bool
  | .diagnostic _ | .numberTooLong => true
  | .numeralTooLong digits => Text.digitLimit < digits
  | _ => false

/-- The failures that come from what a source says. -/
theorem Failure.cases_of_isOfSource {failure : Failure} (said : failure.isOfSource = true) :
    failure.isDiagnostic = true ∨
      (∃ digits, Text.digitLimit < digits ∧ failure = .numeralTooLong digits) ∨
      failure = .numberTooLong := by
  rw [isOfSource.eq_def] at said
  split at said
  · exact .inl rfl
  · exact .inr (.inr rfl)
  · exact .inr (.inl ⟨_, of_decide_eq_true said, rfl⟩)
  · cases said

/-- A diagnostic comes from what a source says, also if its place cannot be written. -/
theorem Failure.isOfSource_ofDiagnostic (found : Diagnostic) :
    (Failure.ofDiagnostic found).isOfSource = true := by
  rw [ofDiagnostic]
  split <;> rfl

/-- The failure of a diagnostic is that diagnostic, or none. -/
theorem Failure.eq_of_ofDiagnostic {given found : Diagnostic}
    (same : Failure.ofDiagnostic given = .diagnostic found) : found = given := by
  rw [ofDiagnostic] at same
  split at same
  · cases same
    rfl
  · cases same

/-- A diagnostic at the operands of a statement has the cause of the failure. -/
theorem Statement.cause_of_failure {statement : Statement} {cause : Cause} {found : Diagnostic}
    (same : statement.failure cause = .diagnostic found) : found.cause = cause := by
  rw [Failure.eq_of_ofDiagnostic same, complaint]

/-- Whether a cause is that a label is refused. -/
def Cause.refusesLabel : Cause → Bool
  | .duplicateSymbol .. => true
  | _ => false

/-- Whether a failure is that a label is refused. -/
def Failure.refusesLabel : Failure → Bool
  | .diagnostic found => found.cause.refusesLabel
  | _ => false

/-- A diagnostic refuses a label only if its cause does. -/
theorem Failure.refusesLabel_ofDiagnostic {found : Diagnostic}
    (plain : found.cause.refusesLabel = false) :
    (Failure.ofDiagnostic found).refusesLabel = false := by
  rw [ofDiagnostic]
  split
  · exact plain
  · rfl

/-- Whether a cause is neither that a label is refused nor that a divisor is zero. -/
def Cause.isOfOperands : Cause → Bool
  | .duplicateSymbol .. | .divisionByZero => false
  | _ => true

/-- Such a cause refuses no label. -/
theorem Cause.refusesLabel_of_isOfOperands {cause : Cause} (plain : cause.isOfOperands = true) :
    cause.refusesLabel = false := by
  cases cause with
  | duplicateSymbol name first => cases plain
  | _ => rfl

/-- The failures for what a statement says other than its label. -/
inductive Statement.Refuses (statement : Statement) : Failure → Prop
  /-- The operands are refused. -/
  | operands {cause : Cause} (plain : cause.isOfOperands = true) :
      Refuses statement (statement.failure cause)
  /-- An operand divides by zero; its diagnostic is without the line. -/
  | quotient :
      Refuses statement (.ofDiagnostic { cause := .divisionByZero, location := statement.location })
  /-- A numeral has more digits than are read. -/
  | numeral {digits : Nat} (long : Text.digitLimit < digits) :
      Refuses statement (.numeralTooLong digits)
  /-- A number has more digits than are written. -/
  | number : Refuses statement .numberTooLong

namespace Statement.Refuses

variable {statement : Statement} {failure : Failure}

/-- Such a failure comes from the source. -/
theorem isOfSource (refused : statement.Refuses failure) : failure.isOfSource = true := by
  cases refused with
  | operands plain => exact Failure.isOfSource_ofDiagnostic _
  | quotient => exact Failure.isOfSource_ofDiagnostic _
  | numeral long => exact decide_eq_true long
  | number => rfl

/-- Such a failure refuses no label. -/
theorem refusesLabel (refused : statement.Refuses failure) : failure.refusesLabel = false := by
  cases refused with
  | operands plain =>
    exact Failure.refusesLabel_ofDiagnostic (Cause.refusesLabel_of_isOfOperands plain)
  | quotient => exact Failure.refusesLabel_ofDiagnostic rfl
  | numeral long => rfl
  | number => rfl

end Statement.Refuses

/-- The failures for what a statement says: its label is refused, or something else. -/
def Statement.Stops (statement : Statement) (failure : Failure) : Prop :=
  statement.Refuses failure ∨
    ∃ label value, failure = statement.failure (.duplicateSymbol label value)

namespace Statement.Stops

variable {statement : Statement}

/-- A statement stops an assembly for what the source says. -/
theorem isOfSource {failure : Failure} (stops : statement.Stops failure) :
    failure.isOfSource = true := by
  rcases stops with refused | ⟨label, value, rfl⟩
  · exact refused.isOfSource
  · exact Failure.isOfSource_ofDiagnostic _

/-- A diagnostic that stops at a statement is at its operands, and shows its line unless the cause is
a division by zero. -/
theorem located {found : Diagnostic} (stops : statement.Stops (.diagnostic found)) :
    found.location = statement.location ∧
      found.line = if found.cause = .divisionByZero then none else some statement.line := by
  have atOperands {cause : Cause} (other : cause ≠ .divisionByZero)
      (same : statement.failure cause = .diagnostic found) :
      found.location = statement.location ∧
        found.line = if found.cause = .divisionByZero then none else some statement.line := by
    rw [Failure.eq_of_ofDiagnostic same, complaint, if_neg other]
    exact ⟨rfl, rfl⟩
  generalize same : Failure.diagnostic found = failure at stops
  rcases stops with refused | ⟨label, value, rfl⟩
  · cases refused with
    | operands plain =>
      refine atOperands ?_ same.symm
      rintro rfl
      cases plain
    | quotient =>
      rw [Failure.eq_of_ofDiagnostic same.symm]
      exact ⟨rfl, rfl⟩
    | numeral long => cases same
    | number => cases same
  · exact atOperands (by simp) same.symm

end Statement.Stops

/-- A numeral is refused for its length. -/
theorem Operand.long_of_numeral? {text : String} {failure : Failure}
    (refused : numeral? text = some (.error failure)) :
    ∃ digits, Text.digitLimit < digits ∧ failure = .numeralTooLong digits := by
  obtain ⟨value, _, read⟩ := Option.map_eq_some_iff.1 refused
  split at read
  · rename_i long
    cases read
    exact ⟨_, long, rfl⟩
  · cases read

/-- A statement whose operand is a numeral too long is refused for that. -/
theorem Operand.refuses_of_numeral? {text : String} {failure : Failure}
    (refused : numeral? text = some (.error failure)) (statement : Statement) :
    statement.Refuses failure := by
  obtain ⟨digits, long, rfl⟩ := long_of_numeral? refused
  exact .numeral long

namespace Form

/-- A text that is no data form is refused as such. -/
theorem isOfOperands_of_read {text : String} {cause : Cause} (fails : read text = .error cause) :
    cause.isOfOperands = true := by
  rw [read] at fails
  split at fails
  · cases fails
  · cases fails
    rfl

/-- The length of a data form is refused for its text. -/
theorem isOfOperands_of_byteLengthOf {text : String} {cause : Cause}
    (fails : byteLengthOf text = .error cause) : cause.isOfOperands = true :=
  isOfOperands_of_read (map_eq_error.1 fails)

/-- The bytes of a data form are refused for its text. -/
theorem isOfOperands_of_hexOf {text : String} {cause : Cause} (fails : hexOf text = .error cause) :
    cause.isOfOperands = true := by
  rw [hexOf] at fails
  split at fails
  · rw [hex.eq_def] at fails
    split at fails
    · split at fails
      · cases fails
        rfl
      · cases fails
    · split at fails
      · cases fails
      · cases fails
        rfl
  · rename_i other refused
    cases fails
    exact isOfOperands_of_read refused

end Form

/-- A literal table refuses a text that is no data form. -/
theorem LiteralTable.isOfOperands_of_insert {table : LiteralTable} {operand : String} {cause : Cause}
    (fails : table.insert operand none none = .error cause) : cause.isOfOperands = true := by
  rw [insert] at fails
  split at fails
  · cases fails
  · exact Form.isOfOperands_of_read (map_eq_error.1 fails)

namespace Expression

variable {symbols : String → Option Int} {failure : Failure}

/-- A term has no value if it is a numeral too long or a name without value. -/
theorem refuses_of_termValue {name : String} (fails : termValue symbols name = .error failure)
    (statement : Statement) :
    statement.Refuses (placed statement.location (some statement.line) failure) := by
  rw [termValue] at fails
  split at fails
  · rename_i number found
    cases number with
    | error refused =>
      cases fails
      obtain ⟨digits, long, rfl⟩ := Operand.long_of_numeral? found
      exact .numeral long
    | ok value => cases fails
  · split at fails
    · cases fails
    · cases fails
      exact .operands rfl

/-- An operator has no value if it divides by zero. -/
theorem refuses_of_apply {operator : Operator} {left right : Int}
    (fails : apply operator left right = .error failure) (statement : Statement) :
    statement.Refuses (placed statement.location (some statement.line) failure) := by
  cases operator with
  | add | subtract | multiply => cases fails
  | divide =>
    rw [apply] at fails
    split at fails
    · cases fails
      exact .quotient
    · cases fails

/-- A term that cannot be taken in fails for its own value or for its operator. -/
theorem refuses_of_step {value : Int} {term : Term}
    (fails : step symbols value term = .error failure) (statement : Statement) :
    statement.Refuses (placed statement.location (some statement.line) failure) := by
  rw [step] at fails
  split at fails
  · rename_i refused found
    cases fails
    exact refuses_of_termValue found statement
  · split at fails
    · cases fails
    · exact refuses_of_apply fails statement

/-- A row of terms fails where one of its terms does. -/
theorem refuses_of_valueFrom {value : Int} {terms : List Term}
    (fails : valueFrom symbols value terms = .error failure) (statement : Statement) :
    statement.Refuses (placed statement.location (some statement.line) failure) := by
  induction terms generalizing value with
  | nil => cases fails
  | cons term rest ih =>
    rw [valueFrom] at fails
    split at fails
    · rename_i refused found
      cases fails
      exact refuses_of_step found statement
    · exact ih fails

/-- An expression without value fails for what it says. -/
theorem refuses_of_evaluate {text : String} {statement : Statement}
    (fails : evaluate symbols text statement.location (some statement.line) = .error failure) :
    statement.Refuses failure := by
  rw [evaluate] at fails
  split at fails
  · cases fails
  · rename_i inner found
    cases fails
    exact refuses_of_valueFrom found statement

end Expression

namespace Layout

variable {instruction : Instruction} {progress : Progress} {item : Item} {failure : Failure}

/-- A parameter that is no number, or too long a one, is refused for what it says. -/
theorem refuses_of_operandNumber {statement : Statement}
    (fails : operandNumber instruction statement = .error failure) : statement.Refuses failure := by
  rw [operandNumber] at fails
  split at fails
  · rename_i number found
    obtain ⟨operand, _, numeral⟩ := Option.bind_eq_some_iff.1 found
    rw [fails] at numeral
    exact Operand.refuses_of_numeral? numeral statement
  · cases fails
    exact .operands rfl

/-- A section is refused its name for what the source says. -/
theorem refuses_of_nameSection {directive : Directive}
    (fails : (nameSection directive instruction progress item).result = .error failure) :
    item.statement.Refuses failure := by
  rw [nameSection] at fails
  split at fails
  · cases fails
    exact .operands rfl
  · simp only at fails
    split at fails
    · split at fails
      · cases fails
      · rename_i refused found
        cases fails
        exact refuses_of_operandNumber found
    · cases fails

/-- Space is refused for what the source says. -/
theorem refuses_of_reserve {width : Nat}
    (fails : (reserve width instruction progress item).result = .error failure) :
    item.statement.Refuses failure := by
  rw [reserve] at fails
  split at fails
  · cases fails
  · rename_i refused found
    cases fails
    exact refuses_of_operandNumber found

/-- A value is refused to a label for what the source says. -/
theorem refuses_of_equate (fails : (equate progress item).result = .error failure) :
    item.statement.Refuses failure := by
  rw [equate] at fails
  split at fails
  · cases fails
  · rename_i refused found
    cases fails
    rw [equated] at found
    split at found
    · cases found
      exact .operands rfl
    · split at found
      · cases found
      · split at found
        · rename_i number numeral
          cases number with
          | error refused =>
            cases found
            exact Operand.refuses_of_numeral? numeral item.statement
          | ok value => cases found
        · split at found
          · exact Expression.refuses_of_evaluate found
          · cases found
            exact .operands rfl

/-- An instruction that places no literals fails for what the source says other than its labels. -/
theorem refuses_of_obey (plain : instruction.placesLiterals = false)
    (fails : (obey instruction progress item).result = .error failure) :
    item.statement.Refuses failure := by
  have deed := obey_cases instruction progress item
  generalize obey instruction progress item = outcome at deed fails
  cases deed with
  | code holds => cases fails
  | opening directive action opens => exact refuses_of_nameSection fails
  | exporting action => cases fails
  | importing action => cases fails
  | reserving action => exact refuses_of_reserve fails
  | equating action => exact refuses_of_equate fails
  | placing places =>
    rw [plain] at places
    cases places

/-- A label is refused if it is defined twice. -/
theorem stops_of_bindLabel {strict : Bool}
    (fails : (bindLabel strict progress item).result = .error failure) :
    item.statement.Stops failure := by
  rw [bindLabel] at fails
  split at fails
  · cases fails
  · simp only at fails
    split at fails
    · cases fails
      exact .inr ⟨_, _, rfl⟩
    · cases fails

/-- Placing literals refuses no label. -/
theorem refusesLabel_of_fillPool {waiting : List Literal}
    (fails : (fillPool progress item waiting).result = .error failure) :
    failure.refusesLabel = false := by
  induction waiting generalizing progress item with
  | nil => cases fails
  | cons literal rest ih =>
    rw [fillPool] at fails
    split at fails
    · cases fails
      rfl
    · simp only [Outcome.remarked] at fails
      split at fails
      · rename_i cause refused
        cases fails
        exact Cause.refusesLabel_of_isOfOperands (Form.isOfOperands_of_byteLengthOf refused)
      · exact ih fails

/-- Obeying an instruction refuses no label. -/
theorem refusesLabel_of_obey (fails : (obey instruction progress item).result = .error failure) :
    failure.refusesLabel = false := by
  cases places : instruction.placesLiterals with
  | false => exact (refuses_of_obey places fails).refusesLabel
  | true =>
    rw [obey_of_places places] at fails
    exact refusesLabel_of_fillPool fails

/-- Collecting literals fails for what the operands say. -/
theorem refuses_of_gatherLiterals {operands : List String}
    (fails : (gatherLiterals progress item operands).result = .error failure) :
    item.statement.Refuses failure := by
  induction operands generalizing progress with
  | nil => cases fails
  | cons operand rest ih =>
    rw [gatherLiterals] at fails
    split at fails
    · cases written : Form.hexOf operand with
      | error cause =>
        simp only [written] at fails
        cases fails
        exact .operands (Form.isOfOperands_of_hexOf written)
      | ok bytes =>
        cases inserted : progress.tables.literals.insert operand none none with
        | error cause =>
          simp only [written, inserted] at fails
          cases fails
          exact .operands (LiteralTable.isOfOperands_of_insert inserted)
        | ok table =>
          simp only [written, inserted] at fails
          exact ih fails
    · exact ih fails

end Layout

end TwoPass
