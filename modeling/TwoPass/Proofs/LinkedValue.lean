import Mathlib.Algebra.BigOperators.Group.List.Basic
import TwoPass.Proofs.Linkage
import TwoPass.Proofs.Terms

/-!
# The value that the linker supplies

A data item whose terms are all imported holds zeros, and asks the linker to add or to subtract the
value of each.  Whatever the values are, the linker then arrives at the value of the expression: of an
expression without products and quotients, evaluated from left to right, every term counts with its
sign, since only the first term can stand without an operator.  An expression with a product or a
quotient is refused.
-/

namespace TwoPass

namespace Term

/-- Whether a term is a factor or a divisor. -/
def scales (term : Term) : Bool :=
  term.operator = some .multiply || term.operator = some .divide

/-- What a term adds to a sum if the names have some values. -/
def worth (values : String → Int) (term : Term) : Int :=
  if term.operator = some .subtract then -values term.name else values term.name

end Term

/-- What a modification adds to its field if the names have some values. -/
def Modification.worth (values : String → Int) (change : Modification) : Int :=
  if change.sign = "+" then values change.symbol
  else if change.sign = "-" then -values change.symbol
  else 0

namespace Expression

section Linear

variable {values : String → Int}

/-- A symbol that is no factor and no divisor is added to the value so far, or subtracted from it. -/
theorem step_of_linear {term : Term} (symbol : Operand.isSymbol term.name = true)
    (linear : term.scales = false) {value : Int} (begins : term.operator.isSome = true ∨ value = 0) :
    step (fun name => some (values name)) value term = .ok (value + term.worth values) := by
  have known : termValue (fun name => some (values name)) term.name = .ok (values term.name) := by
    rw [termValue, Operand.numeral?_of_isSymbol symbol]
  rw [step, known, Term.worth]
  cases operator : term.operator with
  | none =>
    have zero : value = 0 := by simpa [operator] using begins
    simp [zero]
  | some operation =>
    cases operation with
    | add => simp [apply]
    | subtract => simp [apply, Int.sub_eq_add_neg]
    | multiply => simp [Term.scales, operator] at linear
    | divide => simp [Term.scales, operator] at linear

/-- Symbols behind operators are added to the value so far, or subtracted from it. -/
theorem valueFrom_of_linear {terms : List Term}
    (symbols : ∀ term ∈ terms, Operand.isSymbol term.name = true)
    (linear : ∀ term ∈ terms, term.scales = false)
    (signed : ∀ term ∈ terms, term.operator.isSome = true) (value : Int) :
    valueFrom (fun name => some (values name)) value terms =
      .ok (value + (terms.map (Term.worth values)).sum) := by
  induction terms generalizing value with
  | nil => simp [valueFrom]
  | cons term rest ih =>
    rw [List.forall_mem_cons] at symbols linear signed
    rw [valueFrom, step_of_linear symbols.1 linear.1 (.inl signed.1)]
    simp only [ih symbols.2 linear.2 signed.2, List.map_cons, List.sum_cons, Int.add_assoc]

/-- The value of an expression without products and quotients is the sum of what its terms are
worth. -/
theorem evaluate_of_linear {text : String}
    (symbols : ∀ term ∈ split text, Operand.isSymbol term.name = true)
    (linear : ∀ term ∈ split text, term.scales = false) (location : Option Location)
    (line : Option String) :
    evaluate (fun name => some (values name)) text location line =
      .ok ((split text).map (Term.worth values)).sum := by
  have sum : value (fun name => some (values name)) text =
      .ok ((split text).map (Term.worth values)).sum := by
    rw [value]
    cases terms : split text with
    | nil => rfl
    | cons first others =>
      have signed := operator_of_mem_tail_termsFrom (isChain_pieces text.toList) none
      rw [← split, terms, List.tail_cons] at signed
      rw [terms, List.forall_mem_cons] at symbols linear
      rw [valueFrom, step_of_linear symbols.1 linear.1 (.inr rfl)]
      simp only [valueFrom_of_linear symbols.2 linear.2 signed, Int.zero_add, List.map_cons,
        List.sum_cons]
  rw [evaluate, sum]

end Linear

end Expression

namespace Encoding

variable {tables : Tables} {item : Item}

/-- The linker adds what a term is worth. -/
theorem worth_request (values : String → Int) (item : Item) {term : Term}
    (linear : term.scales = false) : (item.request term).worth values = term.worth values := by
  unfold Modification.worth Item.request Term.worth Term.sign
  cases operator : term.operator with
  | none => simp
  | some operation =>
    cases operation with
    | add => simp [Operator.text, Operator.toChar]
    | subtract => simp [Operator.text, Operator.toChar]
    | multiply => simp [Term.scales, operator] at linear
    | divide => simp [Term.scales, operator] at linear

/-- A term that is imported is left to the linker, unless it is a factor or a divisor. -/
theorem relocation_of_imported {length : Nat} (whole : item.field = (item.location, length))
    {term : Term} (imported : term.name ∈ tables.externals.imports)
    (undefined : tables.symbols.contains term.name = false) :
    relocation tables item length term =
      if term.scales then
        .error (item.statement.failure (.unrelocatable term.name (term.operator.getD .add)))
      else .ok [item.request term] := by
  rw [relocation, if_neg (by simp [undefined]), if_pos imported, Item.request, whole]
  unfold relocationSign Term.scales Term.sign
  cases term.operator with
  | none => rfl
  | some operation => cases operation <;> rfl

/-- Terms that are imported are all left to the linker, unless there is a factor or a divisor among
them. -/
theorem relocations_of_imported {length : Nat} (whole : item.field = (item.location, length))
    {terms : List Term}
    (imported : ∀ term ∈ terms, Operand.isSymbol term.name = true ∧
      term.name ∈ tables.externals.imports ∧ tables.symbols.contains term.name = false) :
    ((∀ term ∈ terms, term.scales = false) →
        relocations tables item length terms = (terms.map item.request, .ok ())) ∧
      ((∃ term ∈ terms, term.scales = true) → ∃ name operator,
        (relocations tables item length terms).2 =
          .error (item.statement.failure (.unrelocatable name operator))) := by
  induction terms with
  | nil => simp [relocations]
  | cons term rest ih =>
    rw [List.forall_mem_cons] at imported
    obtain ⟨⟨symbol, listed, undefined⟩, others⟩ := imported
    obtain ⟨links, refuses⟩ := ih others
    rw [relocations, if_pos symbol, relocation_of_imported whole listed undefined]
    cases scales : term.scales with
    | true =>
      constructor
      · intro linear
        rw [linear term List.mem_cons_self] at scales
        cases scales
      · intro _
        exact ⟨term.name, term.operator.getD .add, rfl⟩
    | false =>
      simp only [Bool.false_eq_true, if_false]
      constructor
      · intro linear
        rw [links fun other mem => linear other (List.mem_cons_of_mem term mem)]
        rfl
      · rintro ⟨factor, mem, found⟩
        refine refuses ⟨factor, (List.mem_cons.1 mem).resolve_left ?_, found⟩
        rintro rfl
        rw [scales] at found
        cases found

/-- The code of a symbol or an expression is zeros, if the symbols in it can be relocated. -/
theorem dataCode_of_terms {operand : String} (first : item.statement.first? = some operand)
    (shape : Operand.isSymbol operand = true ∨ Operand.isExpression operand = true)
    (tables : Tables) (instruction : Instruction) :
    dataCode tables item instruction =
      let needed := relocations tables item (2 * instruction.size) (Expression.split operand)
      (needed.1, needed.2.map fun _ =>
        String.ofList (List.replicate (2 * instruction.size) '0')) := by
  have form : Operand.isForm operand = false := by
    by_contra form
    rw [Bool.not_eq_false] at form
    rw [Operand.isSymbol_of_isForm form, Operand.isExpression_of_isForm form] at shape
    simp at shape
  simp [dataCode, first, form, shape.symm]

end Encoding

namespace Item

variable {item validated : Item} {instruction : Instruction} {operand : String}

/-- An item is encoded as it is once its instruction is known. -/
theorem encode_of_identify {directory : Directory}
    (valid : item.identify directory.lookup = .ok (validated, instruction)) (tables : Tables) :
    validated.instruction = some instruction ∧ validated.statement = item.statement ∧
      item.encode directory tables = validated.encode directory tables := by
  have kept : validated.instruction = some instruction ∧ validated.statement = item.statement := by
    rw [identify.eq_def] at valid
    split at valid
    · rename_i known
      cases valid
      exact ⟨known, rfl⟩
    · split at valid
      · cases valid
        exact ⟨rfl, rfl⟩
      · cases valid
  refine ⟨kept.1, kept.2, ?_⟩
  rw [encode, encode, valid, identify_of_known kept.1]

section Imported

variable {tables : Tables} (known : item.instruction = some instruction)
  (data : instruction.storesData = true) (first : item.statement.first? = some operand)
  (shape : Operand.isSymbol operand = true ∨ Operand.isExpression operand = true)
  (imported : ∀ term ∈ Expression.split operand, Operand.isSymbol term.name = true ∧
    term.name ∈ tables.externals.imports ∧ tables.symbols.contains term.name = false)

include known data first shape imported

/-- A data item of imported symbols without factors and divisors is left to the linker. -/
theorem encode_of_linear (linear : ∀ term ∈ Expression.split operand, term.scales = false)
    (directory : Directory) :
    item.encode directory tables =
      .done (item.withCode (String.ofList (List.replicate (2 * instruction.size) '0')),
        (Expression.split operand).map item.request) () := by
  have links := (Encoding.relocations_of_imported (field_of_storesData known data) imported).1 linear
  rw [encode_data known (Instruction.storesData_iff.1 data),
    Encoding.dataCode_of_terms first shape, links]
  rfl

/-- A data item of imported symbols with a factor or a divisor is refused. -/
theorem encode_of_scales (scaling : ∃ term ∈ Expression.split operand, term.scales = true)
    (directory : Directory) : ∃ name operator, (item.encode directory tables).result =
      .error (item.statement.failure (.unrelocatable name operator)) := by
  obtain ⟨name, operator, refused⟩ :=
    (Encoding.relocations_of_imported (field_of_storesData known data) imported).2 scaling
  refine ⟨name, operator, ?_⟩
  rw [encode_data known (Instruction.storesData_iff.1 data),
    Encoding.dataCode_of_terms first shape]
  simp only [refused]
  rfl

end Imported

/-- A data item whose operand is a symbol or an expression, all terms of which are imported symbols
that the section does not define, is refused as an expression exactly if it has a factor or a divisor.
Otherwise it holds zeros, and whatever values the names have, what the linker is asked to add and to
subtract makes up the value of the operand. -/
theorem encode_linked (directory : Directory) (tables : Tables) (item : Item)
    (valid : item.identify directory.lookup = .ok (validated, instruction))
    (data : instruction.storesData = true) (first : item.statement.first? = some operand)
    (shape : Operand.isSymbol operand = true ∨ Operand.isExpression operand = true)
    (imported : ∀ term ∈ Expression.split operand, Operand.isSymbol term.name = true ∧
      term.name ∈ tables.externals.imports ∧ tables.symbols.contains term.name = false)
    (values : String → Int) :
    let outcome := item.encode directory tables
    ((∃ cause, cause.notice.kind = .expression ∧
          outcome.result = .error (item.statement.failure cause)) ↔
        ∃ term ∈ Expression.split operand, term.scales = true) ∧
      ((∀ term ∈ Expression.split operand, term.scales = false) →
        outcome.result = .ok () ∧
        outcome.state.1.code = some (String.ofList (List.replicate (2 * instruction.size) '0')) ∧
        ∀ location line, Expression.evaluate (fun name => some (values name)) operand location line =
          .ok (outcome.state.2.map (Modification.worth values)).sum) := by
  intro outcome
  obtain ⟨known, same, encoded⟩ := encode_of_identify valid tables
  have own : validated.statement.first? = some operand := by rw [same, first]
  have succeeds (linear : ∀ term ∈ Expression.split operand, term.scales = false) :
      outcome = _ := encoded.trans (encode_of_linear known data own shape imported linear directory)
  refine ⟨⟨?_, ?_⟩, ?_⟩
  · rintro ⟨cause, _, refused⟩
    by_contra none
    have linear : ∀ term ∈ Expression.split operand, term.scales = false := by
      intro term mem
      by_contra scales
      exact none ⟨term, mem, by simpa using scales⟩
    rw [succeeds linear] at refused
    cases refused
  · intro scaling
    obtain ⟨name, operator, refused⟩ :=
      encode_of_scales known data own shape imported scaling directory
    rw [same, ← encoded] at refused
    exact ⟨.unrelocatable name operator, rfl, refused⟩
  · intro linear
    rw [succeeds linear]
    refine ⟨rfl, rfl, fun location line => ?_⟩
    have each : ∀ term ∈ Expression.split operand,
        (validated.request term).worth values = term.worth values :=
      fun term mem => Encoding.worth_request values validated (linear term mem)
    rw [Expression.evaluate_of_linear (fun term mem => (imported term mem).1) linear]
    simp only [Outcome.done, List.map_map, List.map_congr_left each, Function.comp_def]

/-- The length of a buffer with its first word left out, as the difference of imported names. -/
def remainder : Item := { statement := .unplaced none "WORD" ["-BUFFER+BUFEND-WORDLEN"] }

/-- The same with a factor. -/
def scaled : Item := { statement := .unplaced none "WORD" ["BUFEND-BUFFER*WORDLEN"] }

/-- The difference is left to the linker, which arrives at its value whatever the addresses are; the
product is refused. -/
theorem encode_linked_remainder :
    let tables : Tables := { externals := { imports := ["BUFFER", "BUFEND", "WORDLEN"] } }
    let left := remainder.encode .builtin tables
    left.result = .ok () ∧ left.state.1.code = some "000000" ∧
      (∀ values : String → Int, Expression.evaluate (fun name => some (values name))
        "-BUFFER+BUFEND-WORDLEN" none none = .ok (left.state.2.map (Modification.worth values)).sum) ∧
      ∃ cause, cause.notice.kind = .expression ∧
        (scaled.encode .builtin tables).result = .error (scaled.statement.failure cause) := by
  intro tables left
  have known : remainder.identify Directory.builtin.lookup = .ok
      ({ remainder with instruction := some (.ofDirective .word) }, .ofDirective .word) := by
    decide +kernel
  have listed : ∀ term ∈ Expression.split "-BUFFER+BUFEND-WORDLEN",
      Operand.isSymbol term.name = true ∧ term.name ∈ tables.externals.imports ∧
        tables.symbols.contains term.name = false := by
    decide +kernel
  have linear : ∀ term ∈ Expression.split "-BUFFER+BUFEND-WORDLEN", term.scales = false := by
    decide +kernel
  have linked (values : String → Int) := encode_linked .builtin tables remainder known rfl rfl
    (.inr (by decide +kernel)) listed values
  obtain ⟨succeeds, zeros, _⟩ := (linked fun _ => 0).2 linear
  refine ⟨succeeds, zeros, fun values => ((linked values).2 linear).2.2 none none, ?_⟩
  have other : scaled.identify Directory.builtin.lookup = .ok
      ({ scaled with instruction := some (.ofDirective .word) }, .ofDirective .word) := by
    decide +kernel
  have refused := encode_linked .builtin tables scaled other rfl rfl (.inr (by decide +kernel))
    (by decide +kernel) fun _ => 0
  exact refused.1.2 (by decide +kernel)

end Item

end TwoPass
