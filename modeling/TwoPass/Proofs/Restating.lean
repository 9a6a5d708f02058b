import TwoPass.Proofs.Passes

/-!
# Restated sections

Once its instruction is known, both passes see of a statement only its label and its operands; where
it stands matters to messages alone, and to whether they can be worded.  So a section whose statements
are replaced by others that say the same is assembled alike: the passes succeed on both, and reach the
same tables and the same code, or they fail on both for the same cause; and so do the object programs.
-/

namespace TwoPass

/-- Two results whose failures are seen in one respect only are the same value, or failures that are
the same in that respect. -/
theorem mapError_cases {ε ζ α : Type} {respect : ε → ζ} {left right : Except ε α}
    (same : left.mapError respect = right.mapError respect) :
    (∃ value, left = .ok value ∧ right = .ok value) ∨
      ∃ failure other, left = .error failure ∧ right = .error other ∧
        respect failure = respect other := by
  cases left with
  | error failure =>
    cases right with
    | error other => exact .inr ⟨failure, other, rfl, rfl, Except.error.inj same⟩
    | ok value => cases same
  | ok value =>
    cases right with
    | error other => cases same
    | ok other =>
      cases same
      exact .inl ⟨value, rfl, rfl⟩

/-- The same failure without its place in the source. -/
def Failure.placeless : Failure → Failure
  | .diagnostic found => .ofCause found.cause
  | failure => failure

/-- The same result, its failure without a place in the source. -/
def placeless {α : Type} (result : Except Failure α) : Except Failure α :=
  result.mapError Failure.placeless

/-- Two results that differ in the place of a failure at most are the same value, or failures that
differ in their place at most. -/
theorem placeless_cases {α : Type} {left right : Except Failure α}
    (same : placeless left = placeless right) :
    (∃ value, left = .ok value ∧ right = .ok value) ∨
      ∃ failure other, left = .error failure ∧ right = .error other ∧
        failure.placeless = other.placeless :=
  mapError_cases same

/-- The place of a failure in a chain of two operations. -/
theorem placeless_bind {α β : Type} (first : Except Failure α) (next : α → Except Failure β) :
    placeless (first >>= next) = placeless first >>= fun value => placeless (next value) := by
  cases first with
  | error failure => rfl
  | ok value => rfl

/-- The place of a failure in an operation on a result. -/
theorem placeless_map {α β : Type} (first : Except Failure α) (function : α → β) :
    placeless (first.map function) = (placeless first).map function := by
  cases first with
  | error failure => rfl
  | ok value => rfl

namespace Outcome

variable {σ τ α β : Type}

/-- An outcome that mirrors another: its state is the view of the other's, and it has the same value
or fails for the same cause. -/
structure Mirrors (view : σ → τ) (outcome : Outcome σ α) (image : Outcome τ α) : Prop where
  /-- The state is the view of the other's. -/
  state : image.state = view outcome.state
  /-- There is the same value, or the same failure apart from its place. -/
  result : placeless image.result = placeless outcome.result

/-- An outcome succeeds exactly when its mirror does. -/
theorem Mirrors.eq_ok_iff {view : σ → τ} {outcome : Outcome σ α} {image : Outcome τ α}
    (mirrors : outcome.Mirrors view image) {value : α} :
    image.result = .ok value ↔ outcome.result = .ok value := by
  rcases placeless_cases mirrors.result with ⟨found, one, two⟩ | ⟨failure, other, one, two, _⟩
  · rw [one, two]
  · rw [one, two]
    simp

/-- Chains mirror each other if their operations do. -/
theorem Mirrors.andThen {view : σ → τ} {outcome : Outcome σ α} {image : Outcome τ α}
    (first : outcome.Mirrors view image) {next : σ → α → Outcome σ β} {follow : τ → α → Outcome τ β}
    (later : ∀ value, outcome.result = .ok value →
      (next outcome.state value).Mirrors view (follow (view outcome.state) value)) :
    (outcome.andThen next).Mirrors view (image.andThen follow) := by
  rcases placeless_cases first.result with ⟨value, one, two⟩ | ⟨failure, other, one, two, same⟩
  · refine ⟨?_, ?_⟩
    · simpa [Outcome.andThen, one, two, first.state] using (later value two).state
    · simpa [Outcome.andThen, one, two, first.state] using (later value two).result
  · refine ⟨?_, ?_⟩
    · simpa [Outcome.andThen, one, two] using first.state
    · simp only [Outcome.andThen, one, two]
      exact congrArg Except.error same

/-- Remarks do not matter to mirrors. -/
theorem Mirrors.remarked {view : σ → τ} {outcome : Outcome σ α} {image : Outcome τ α}
    (mirrors : outcome.Mirrors view image) (remark other : Remark) :
    (outcome.remarked remark).Mirrors view (image.remarked other) :=
  ⟨mirrors.state, mirrors.result⟩

/-- Sweeps mirror each other if their steps do. -/
theorem Mirrors.sweep {step : σ → α → Outcome (σ × α) Unit} {view : α → α} {items : List α}
    (each : ∀ state, ∀ item ∈ items,
      (step state item).Mirrors (Prod.map id view) (step state (view item))) (state : σ) :
    (Outcome.sweep step state items).Mirrors (Prod.map id (List.map view))
      (Outcome.sweep step state (items.map view)) := by
  induction items generalizing state with
  | nil => exact ⟨rfl, rfl⟩
  | cons item rest ih =>
    have head := each state item List.mem_cons_self
    have tail := ih (fun state other mem => each state other (List.mem_cons_of_mem item mem))
      (step state item).state.1
    rw [List.map_cons]
    rcases placeless_cases head.result with ⟨value, one, two⟩ | ⟨failure, other, one, two, same⟩
    · refine ⟨?_, ?_⟩
      · simp [Outcome.sweep, one, two, head.state, tail.state]
      · simpa [Outcome.sweep, one, two, head.state] using tail.result
    · refine ⟨?_, ?_⟩
      · simp [Outcome.sweep, one, two, head.state]
      · simp only [Outcome.sweep, one, two]
        exact congrArg Except.error same

end Outcome

/-- A statement that says the same as another, perhaps at another place. -/
structure Statement.Alike (statement other : Statement) : Prop where
  /-- The labels are the same. -/
  label : other.label = statement.label
  /-- The operators are the same. -/
  operator : other.operator = statement.operator
  /-- The operands are the same. -/
  operands : other.operands = statement.operands
  /-- Both places can be written, or neither. -/
  writable : other.location.all Location.isWritable = statement.location.all Location.isWritable

/-- The same item with another statement. -/
def Item.restate (restated : Statement → Statement) (item : Item) : Item :=
  { item with statement := restated item.statement }

/-- The same section with other statements. -/
def Section.restate (restated : Statement → Statement) (part : Section) : Section :=
  { part with items := part.items.map (Item.restate restated) }

namespace Statement.Alike

variable {statement other : Statement} (alike : statement.Alike other)

include alike

/-- Statements that say the same have the same first operand. -/
theorem first?_eq : other.first? = statement.first? := by rw [first?, first?, alike.operands]

/-- Statements that say the same have the same second operand. -/
theorem second?_eq : other.second? = statement.second? := by rw [second?, second?, alike.operands]

/-- Complaints about statements that say the same differ in their place at most. -/
theorem error_eq {α : Type} (cause : Cause) :
    placeless (.error (other.failure cause) : Except Failure α) =
      placeless (.error (statement.failure cause)) := by
  unfold Statement.failure Failure.ofDiagnostic Diagnostic.isWritable complaint
  simp only [alike.writable]
  split
  · rfl
  · rfl

/-- Statements that say the same ask for the same number. -/
theorem operandNumber_eq (instruction : Instruction) :
    placeless (Layout.operandNumber instruction other) =
      placeless (Layout.operandNumber instruction statement) := by
  unfold Layout.operandNumber
  rw [alike.first?_eq]
  split
  · rfl
  · exact alike.error_eq _

/-- An expression has the same value in statements that say the same. -/
theorem evaluate_eq (symbols : String → Option Int) (text : String) :
    placeless (Expression.evaluate symbols text other.location (some other.line)) =
      placeless (Expression.evaluate symbols text statement.location (some statement.line)) := by
  unfold Expression.evaluate
  split
  · rfl
  · unfold Expression.placed Failure.ofDiagnostic Diagnostic.isWritable
    simp only [alike.writable]
    split
    · split
      · rfl
      · rfl
    · rfl

/-- Statements that say the same give a label the same value. -/
theorem equated_eq (symbols : SymbolTable) (counter : Nat) :
    placeless (Layout.equated symbols counter other) =
      placeless (Layout.equated symbols counter statement) := by
  unfold Layout.equated
  rw [alike.first?_eq]
  split
  · exact alike.error_eq _
  · split
    · rfl
    · split
      · rfl
      · split
        · exact alike.evaluate_eq symbols.find? _
        · exact alike.error_eq _

end Statement.Alike

namespace Layout

variable {restated : Statement → Statement} {item : Item}

section Parts

variable (alike : item.statement.Alike (restated item.statement))

include alike

/-- Naming a section needs the label and the number in the first operand. -/
theorem nameSection_restate (directive : Directive) (instruction : Instruction)
    (progress : Progress) :
    (nameSection directive instruction progress item).Mirrors (Prod.map id (Item.restate restated))
      (nameSection directive instruction progress (item.restate restated)) := by
  have label : (item.restate restated).statement.label = item.statement.label := alike.label
  unfold nameSection
  rw [label]
  cases item.statement.label with
  | none => exact ⟨rfl, alike.error_eq _⟩
  | some name =>
    simp only
    split
    · have number : placeless (operandNumber instruction (item.restate restated).statement) =
          placeless (operandNumber instruction item.statement) := alike.operandNumber_eq instruction
      rcases placeless_cases number with ⟨value, one, two⟩ | ⟨failure, other, one, two, same⟩
      · rw [one, two]
        exact ⟨rfl, rfl⟩
      · rw [one, two]
        exact ⟨rfl, congrArg Except.error same⟩
    · exact ⟨rfl, rfl⟩

/-- Reserving space needs the number in the first operand. -/
theorem reserve_restate (width : Nat) (instruction : Instruction) (progress : Progress) :
    (reserve width instruction progress item).Mirrors (Prod.map id (Item.restate restated))
      (reserve width instruction progress (item.restate restated)) := by
  have number : placeless (operandNumber instruction (item.restate restated).statement) =
      placeless (operandNumber instruction item.statement) := alike.operandNumber_eq instruction
  unfold reserve
  rcases placeless_cases number with ⟨value, one, two⟩ | ⟨failure, other, one, two, same⟩
  · rw [one, two]
    exact ⟨rfl, rfl⟩
  · rw [one, two]
    exact ⟨rfl, congrArg Except.error same⟩

/-- Giving a label a value needs the first operand. -/
theorem equate_restate (progress : Progress) :
    (equate progress item).Mirrors (Prod.map id (Item.restate restated))
      (equate progress (item.restate restated)) := by
  have value : placeless (equated progress.tables.symbols progress.counter
        (item.restate restated).statement) =
      placeless (equated progress.tables.symbols progress.counter item.statement) :=
    alike.equated_eq progress.tables.symbols progress.counter
  unfold equate
  rcases placeless_cases value with ⟨value, one, two⟩ | ⟨failure, other, one, two, same⟩
  · rw [one, two]
    exact ⟨rfl, rfl⟩
  · rw [one, two]
    exact ⟨rfl, congrArg Except.error same⟩

/-- Binding a label needs the label. -/
theorem bindLabel_restate (strict : Bool) (progress : Progress) :
    (bindLabel strict progress item).Mirrors (Prod.map id (Item.restate restated))
      (bindLabel strict progress (item.restate restated)) := by
  have label : (item.restate restated).statement.label = item.statement.label := alike.label
  unfold bindLabel
  rw [label]
  cases item.statement.label with
  | none => exact ⟨rfl, rfl⟩
  | some name =>
    simp only
    split
    · exact ⟨rfl, alike.error_eq _⟩
    · exact ⟨rfl, rfl⟩

/-- Collecting literals needs the operands that are given. -/
theorem gatherLiterals_restate (progress : Progress) (operands : List String) :
    (gatherLiterals progress item operands).Mirrors (Prod.map id (Item.restate restated))
      (gatherLiterals progress (item.restate restated) operands) := by
  induction operands generalizing progress with
  | nil => exact ⟨rfl, rfl⟩
  | cons operand rest ih =>
    unfold gatherLiterals
    split
    · split
      · exact ih _
      · exact ⟨rfl, alike.error_eq _⟩
      · exact ⟨rfl, alike.error_eq _⟩
    · exact ih _

end Parts

/-- Placing literals needs nothing of the statement. -/
theorem fillPool_restate (restated : Statement → Statement) (progress : Progress) (item : Item)
    (waiting : List Literal) :
    (fillPool progress item waiting).Mirrors (Prod.map id (Item.restate restated))
      (fillPool progress (item.restate restated) waiting) := by
  induction waiting generalizing progress item with
  | nil => exact ⟨rfl, rfl⟩
  | cons literal rest ih =>
    unfold fillPool
    split
    · exact ⟨rfl, rfl⟩
    · apply Outcome.Mirrors.remarked
      split
      · exact ⟨rfl, rfl⟩
      · exact ih _ _

/-- Obeying an instruction needs the label and the operands. -/
theorem obey_restate (alike : item.statement.Alike (restated item.statement))
    (instruction : Instruction) (progress : Progress) :
    (obey instruction progress item).Mirrors (Prod.map id (Item.restate restated))
      (obey instruction progress (item.restate restated)) := by
  have operands : (item.restate restated).statement.operands = item.statement.operands :=
    alike.operands
  unfold obey
  rw [operands]
  split
  · exact ⟨rfl, rfl⟩
  · exact ⟨rfl, rfl⟩
  · exact ⟨rfl, rfl⟩
  · exact nameSection_restate alike .start instruction progress
  · exact nameSection_restate alike .csect instruction progress
  · exact ⟨rfl, rfl⟩
  · exact ⟨rfl, rfl⟩
  · exact reserve_restate alike 3 instruction progress
  · exact reserve_restate alike 1 instruction progress
  · exact equate_restate alike progress
  · exact fillPool_restate restated progress item progress.tables.literals.unplaced
  · exact fillPool_restate restated progress item progress.tables.literals.unplaced

/-- Obeying an instruction keeps the statement. -/
theorem obey_statement (instruction : Instruction) (progress : Progress) (item : Item) :
    (obey instruction progress item).state.2.statement = item.statement := by
  obtain ⟨_, _, _, _, _, _, reached⟩ := obey_state instruction progress item
  rw [reached]

/-- Binding the label behind that keeps it, too. -/
theorem bound_statement (strict : Bool) (instruction : Instruction) (progress : Progress)
    (item : Item) :
    ((obey instruction progress item).andThen fun reached _ =>
      bindLabel strict reached.1 reached.2).state.2.statement = item.statement := by
  rw [Outcome.andThen]
  split
  · exact obey_statement instruction progress item
  · obtain ⟨symbols, reached⟩ := bindLabel_state strict (obey instruction progress item).state.1
      (obey instruction progress item).state.2
    simp only [reached]
    exact obey_statement instruction progress item

/-- A step of the first pass needs the label and the operands. -/
theorem step_restate {instruction : Instruction} (known : item.instruction = some instruction)
    (alike : item.statement.Alike (restated item.statement)) (rules : Rules) (progress : Progress) :
    (step rules progress item).Mirrors (Prod.map id (Item.restate restated))
      (step rules progress (item.restate restated)) := by
  have kept : (item.restate restated).instruction = some instruction := known
  have own : (progress.locate item).statement.Alike (restated (progress.locate item).statement) :=
    alike
  have obeys := obey_restate own instruction (progress.past instruction)
  rw [step_of_known rules known, step_of_known rules kept]
  refine Outcome.Mirrors.andThen (Outcome.Mirrors.andThen obeys ?_) ?_
  · intro _ _
    apply bindLabel_restate
    rw [obey_statement]
    exact alike
  · intro _ _
    have behind := bound_statement rules.strict instruction (progress.past instruction)
      (progress.locate item)
    have operands : ∀ reached : Progress × Item, reached.2.statement = item.statement →
        (Prod.map id (Item.restate restated) reached).2.statement.operands =
          reached.2.statement.operands := by
      rintro ⟨_, other⟩ same
      simp only [Prod.map, Item.restate]
      rw [same]
      exact alike.operands
    rw [operands _ behind]
    apply gatherLiterals_restate
    rw [behind]
    exact alike

end Layout

namespace Encoding

/-- The same code without its warnings. -/
def MachineCode.unlogged (written : MachineCode) : MachineCode := { written with log := [] }

section Statements

variable {statement other : Statement} (alike : statement.Alike other)

include alike

/-- The code of an instruction on registers needs the operands. -/
theorem registerCode_restate (mnemonic : String) (opcode : Int) :
    placeless (registerCode mnemonic opcode other) =
      placeless (registerCode mnemonic opcode statement) := by
  have number (name : Option String) :
      placeless (register other name) = placeless (register statement name) := by
    unfold register
    simp only
    split
    · exact alike.error_eq _
    · exact alike.error_eq _
    · split
      · rfl
      · rfl
      · exact alike.error_eq _
  have field (value : Nat) : placeless (nibble other value) = placeless (nibble statement value) := by
    unfold nibble
    split
    · exact alike.error_eq _
    · rfl
  have second : placeless (secondField mnemonic other) =
      placeless (secondField mnemonic statement) := by
    unfold secondField
    rw [alike.second?_eq]
    split
    · split
      · rfl
      · exact alike.error_eq _
    · split
      · rfl
      · rfl
      · exact number _
  unfold registerCode
  simp only [placeless_bind, alike.first?_eq, number, second, field]

/-- The code of a data form needs nothing of the statement. -/
theorem formCode_restate (instruction : Instruction) (operand : String) :
    placeless (formCode instruction other operand) =
      placeless (formCode instruction statement operand) := by
  unfold formCode
  split
  · exact alike.error_eq _
  · split
    · exact alike.error_eq _
    · rfl

/-- The code of a number needs nothing of the statement. -/
theorem numberCode_restate (instruction : Instruction) (number : Nat) :
    placeless (numberCode instruction other number) =
      placeless (numberCode instruction statement number) := by
  unfold numberCode
  split
  · exact alike.error_eq _
  · rfl

end Statements

variable {restated : Statement → Statement} {item : Item}
  (alike : item.statement.Alike (restated item.statement))

include alike

/-- The displacement of an operand needs nothing of the statement. -/
theorem displacement_restate (tables : Tables) (format : Format) (operand : String) :
    placeless (displacement tables (item.restate restated) format operand) =
      placeless (displacement tables item format operand) := by
  have symbol (name : String) :
      placeless (symbolDisplacement tables (item.restate restated) format name) =
        placeless (symbolDisplacement tables item format name) := by
    unfold symbolDisplacement
    split
    · rfl
    · split
      · rfl
      · exact alike.error_eq _
  have flags : (item.restate restated).flags = item.flags := rfl
  unfold displacement
  simp only [flags]
  split
  · split
    · rfl
    · exact alike.error_eq _
  · generalize (if (item.flags.n && item.flags.i) = true then operand
      else String.ofList (operand.toList.drop 1)) = bare
    split
    · exact symbol bare
    · split
      · rfl
      · exact alike.error_eq _

/-- The code of an instruction on memory needs the operands, and that its place can be written. -/
theorem memoryInstruction_restate (tables : Tables) (mnemonic : String) (format : Format)
    (opcode : Int) :
    (placeless (memoryInstruction tables (item.restate restated) mnemonic format opcode)).map
        MachineCode.unlogged =
      (placeless (memoryInstruction tables item mnemonic format opcode)).map
        MachineCode.unlogged := by
  have reached : placeless (target tables (item.restate restated) format) =
      placeless (target tables item format) := by
    have first : (item.restate restated).statement.first? = item.statement.first? :=
      alike.first?_eq
    unfold target
    rw [first]
    split
    · exact displacement_restate alike tables format _
    · rfl
  have writable : (item.restate restated).statement.location.all Location.isWritable =
      item.statement.location.all Location.isWritable := alike.writable
  have flags : (item.restate restated).flags = item.flags := rfl
  rw [memoryInstruction_eq, memoryInstruction_eq]
  rcases placeless_cases reached with ⟨found, one, two⟩ | ⟨failure, other, one, two, same⟩
  · simp only [one, two, bind, Except.bind, truncation, writable, flags]
    generalize fits item.flags (fieldWidth format) found.1 = fit
    generalize (item.statement.location.all Location.isWritable && Text.isWritable found.1) = room
    cases fit <;> cases room <;> rfl
  · rw [one, two]
    exact congrArg Except.error same

/-- The code of a machine instruction needs the operands, and that its place can be written. -/
theorem machineCode_restate (tables : Tables) (mnemonic : String) (format : Format) (opcode : Int) :
    (placeless (machineCode tables (item.restate restated) mnemonic format opcode)).map
        MachineCode.unlogged =
      (placeless (machineCode tables item mnemonic format opcode)).map MachineCode.unlogged := by
  unfold machineCode
  split
  · rfl
  · have code : placeless (registerCode mnemonic opcode (item.restate restated).statement) =
        placeless (registerCode mnemonic opcode item.statement) :=
      registerCode_restate alike mnemonic opcode
    rw [placeless_map, placeless_map, code]
  · split
    · rfl
    · exact memoryInstruction_restate alike tables mnemonic .three opcode
  · exact memoryInstruction_restate alike tables mnemonic .four opcode

/-- The modifications of some terms need nothing of the statement. -/
theorem relocations_restate (tables : Tables) (length : Nat) (terms : List Term) :
    (relocations tables (item.restate restated) length terms).1 =
        (relocations tables item length terms).1 ∧
      placeless (relocations tables (item.restate restated) length terms).2 =
        placeless (relocations tables item length terms).2 := by
  have single (term : Term) :
      placeless (relocation tables (item.restate restated) length term) =
        placeless (relocation tables item length term) := by
    unfold relocation
    split
    · rfl
    · split
      · split
        · rfl
        · exact alike.error_eq _
      · exact alike.error_eq _
  induction terms with
  | nil => exact ⟨rfl, rfl⟩
  | cons term rest ih =>
    unfold relocations
    split
    · rcases placeless_cases (single term) with ⟨needed, one, two⟩ | ⟨failure, other, one, two, same⟩
      · rw [one, two]
        exact ⟨congrArg (needed ++ ·) ih.1, ih.2⟩
      · rw [one, two]
        exact ⟨rfl, congrArg Except.error same⟩
    · exact ih

/-- The code of a data item needs the operands. -/
theorem dataCode_restate (tables : Tables) (instruction : Instruction) :
    (dataCode tables (item.restate restated) instruction).1 =
        (dataCode tables item instruction).1 ∧
      placeless (dataCode tables (item.restate restated) instruction).2 =
        placeless (dataCode tables item instruction).2 := by
  have first : (item.restate restated).statement.first? = item.statement.first? :=
    alike.first?_eq
  unfold dataCode
  rw [first]
  split
  · exact ⟨rfl, alike.error_eq _⟩
  · split
    · exact ⟨rfl, formCode_restate alike instruction _⟩
    · split
      · obtain ⟨needed, result⟩ := relocations_restate alike tables
          (2 * instruction.size) (Expression.split _)
        simp only [placeless_map]
        exact ⟨needed, by rw [result]⟩
      · split
        · refine ⟨rfl, ?_⟩
          rename_i number _
          cases number with
          | error failure => rfl
          | ok value => exact numberCode_restate alike instruction value
        · exact ⟨rfl, alike.error_eq _⟩

end Encoding

namespace Item

variable {restated : Statement → Statement} {item : Item} {instruction : Instruction}

/-- The flags of an instruction need the operands. -/
theorem flagged_restate (alike : item.statement.Alike (restated item.statement)) (format : Format) :
    (item.restate restated).flagged format = (item.flagged format).restate restated := by
  have operands : (item.restate restated).statement.operands = item.statement.operands :=
    alike.operands
  have flags : Encoding.operandFlags format (item.restate restated).statement =
      Encoding.operandFlags format item.statement := by
    unfold Encoding.operandFlags Statement.first? Statement.second?
    rw [operands]
  unfold flagged
  rw [operands, flags]
  split
  · rfl
  · rfl

/-- Encoding a machine instruction needs the operands, and that its place can be written. -/
theorem encode_machine_restate (known : item.instruction = some instruction) {format : Format}
    {opcode : Int} (action : instruction.action = .machine format opcode)
    (alike : item.statement.Alike (restated item.statement)) (directory : Directory)
    (tables : Tables) :
    (item.encode directory tables).Mirrors (Prod.map (Item.restate restated) id)
      ((item.restate restated).encode directory tables) := by
  have kept : (item.restate restated).instruction = some instruction := known
  have own : (item.flagged format).statement.Alike (restated (item.flagged format).statement) := by
    unfold flagged
    split
    · exact alike
    · exact alike
  have same := Encoding.machineCode_restate own tables instruction.mnemonic format opcode
  rw [encode_machine known action, encode_machine kept action, flagged_restate alike]
  generalize Encoding.machineCode tables ((item.flagged format).restate restated)
    instruction.mnemonic format opcode = image at same ⊢
  generalize Encoding.machineCode tables (item.flagged format) instruction.mnemonic format
    opcode = original at same ⊢
  cases image with
  | error failure =>
    cases original with
    | error other => exact ⟨rfl, congrArg Except.error (Except.error.inj same)⟩
    | ok _ => cases same
  | ok image =>
    cases original with
    | error _ => cases same
    | ok original =>
      have bare : image.unlogged = original.unlogged := Except.ok.inj same
      have code := congrArg Encoding.MachineCode.code bare
      have needed := congrArg Encoding.MachineCode.modifications bare
      simp only [Encoding.MachineCode.unlogged] at code needed
      refine ⟨?_, rfl⟩
      simp only [code, needed]
      rfl

/-- Encoding a data item needs the operands. -/
theorem encode_data_restate (known : item.instruction = some instruction)
    (data : instruction.action = .directive .byte ∨ instruction.action = .directive .word)
    (alike : item.statement.Alike (restated item.statement)) (directory : Directory)
    (tables : Tables) :
    (item.encode directory tables).Mirrors (Prod.map (Item.restate restated) id)
      ((item.restate restated).encode directory tables) := by
  have kept : (item.restate restated).instruction = some instruction := known
  obtain ⟨needed, code⟩ := Encoding.dataCode_restate alike tables instruction
  rw [encode_data known data, encode_data kept data]
  generalize Encoding.dataCode tables (item.restate restated) instruction = image at needed code ⊢
  generalize Encoding.dataCode tables item instruction = original at needed code ⊢
  obtain ⟨changes, image⟩ := image
  obtain ⟨_, original⟩ := original
  cases needed
  rcases placeless_cases code with ⟨value, one, two⟩ | ⟨failure, other, one, two, same⟩
  · cases one
    cases two
    exact ⟨rfl, rfl⟩
  · cases one
    cases two
    exact ⟨rfl, congrArg Except.error same⟩

/-- Encoding an item needs the operands, and that its place can be written. -/
theorem encode_restate (known : item.instruction = some instruction)
    (alike : item.statement.Alike (restated item.statement)) (directory : Directory)
    (tables : Tables) :
    (item.encode directory tables).Mirrors (Prod.map (Item.restate restated) id)
      ((item.restate restated).encode directory tables) := by
  cases holds : instruction.holdsCode with
  | false =>
    have kept : (item.restate restated).instruction = some instruction := known
    have code : (item.restate restated).code = item.code := rfl
    rw [encode_plain known holds, encode_plain kept holds]
    refine ⟨?_, rfl⟩
    simp only [Outcome.done, withOwnCode, code, Prod.map, id]
    split
    · rfl
    · rfl
  | true =>
    rcases Instruction.holdsCode_cases holds with ⟨format, opcode, action⟩ | data
    · exact encode_machine_restate known action alike directory tables
    · exact encode_data_restate known data alike directory tables

end Item

namespace Section

variable {restated : Statement → Statement} {part : Section}

/-- Statements that say the same, under known instructions. -/
def Restates (restated : Statement → Statement) (part : Section) : Prop :=
  ∀ item ∈ part.items, item.instruction.isSome = true ∧
    item.statement.Alike (restated item.statement)

/-- The first pass over a restated section mirrors that over the section. -/
theorem layOut_restate (restates : part.Restates restated) (rules : Rules) :
    (part.layOut rules).Mirrors (restate restated) ((part.restate restated).layOut rules) := by
  have sweeps : (part.laying rules).Mirrors (Prod.map id (List.map (Item.restate restated)))
      ((part.restate restated).laying rules) := by
    apply Outcome.Mirrors.sweep
    intro progress item mem
    obtain ⟨known, alike⟩ := restates item mem
    obtain ⟨instruction, found⟩ := Option.isSome_iff_exists.1 known
    exact Layout.step_restate found alike rules progress
  rw [laying, laying] at sweeps
  unfold layOut
  simp only
  rcases placeless_cases sweeps.result with ⟨value, one, two⟩ | ⟨failure, other, one, two, same⟩
  · rw [one, two]
    refine ⟨?_, rfl⟩
    simp only [sweeps.state]
    rfl
  · rw [one, two]
    refine ⟨?_, congrArg Except.error same⟩
    simp only [sweeps.state]
    rfl

/-- The second pass over a restated section mirrors that over the section. -/
theorem encode_restate (restates : part.Restates restated) (rules : Rules) :
    (part.encode rules).Mirrors (restate restated) ((part.restate restated).encode rules) := by
  have sweeps : (part.encoding rules).Mirrors (Prod.map id (List.map (Item.restate restated)))
      ((part.restate restated).encoding rules) := by
    apply Outcome.Mirrors.sweep
    intro changes item mem
    obtain ⟨known, alike⟩ := restates item mem
    obtain ⟨instruction, found⟩ := Option.isSome_iff_exists.1 known
    have step := Item.encode_restate found alike rules.directory part.toTables
    refine ⟨?_, step.result⟩
    simp only [encodeStep, Outcome.mapState, step.state]
    rfl
  refine ⟨?_, ?_⟩
  · rw [(encode_eq rules _).2, (encode_eq rules _).2, sweeps.state]
    rfl
  · rw [(encode_eq rules _).1, (encode_eq rules _).1, sweeps.result]

/-- The first pass keeps what a section can be restated as. -/
theorem Restates.layOut (restates : part.Restates restated) (rules : Rules) :
    (part.layOut rules).state.Restates restated := by
  intro laid mem
  obtain ⟨header, state⟩ := layOut_state rules part
  rw [state] at mem
  have known : ∀ item ∈ part.items, item.instruction.isSome = true :=
    fun item listed => (restates item listed).1
  obtain ⟨item, read, location, pool, rfl, _⟩ := exists_mem_of_forall₂ (laying_items known rules) mem
  exact restates item read

/-- Both passes over a restated section mirror those over the section. -/
theorem assemble_restate (restates : part.Restates restated) (rules : Rules) :
    (part.assemble rules).Mirrors (restate restated) ((part.restate restated).assemble rules) :=
  (layOut_restate restates rules).andThen fun _ _ => encode_restate (restates.layOut rules) rules

/-- A failure for want of code at one of some items, and the same failure of the restated item. -/
def LacksCode {α : Type} (restated : Statement → Statement) (items : List Item)
    (image original : Except Failure α) : Prop :=
  ∃ item ∈ items,
    image = .error ((restated item.statement).failure
      (.codeMissing (restated item.statement).operator)) ∧
    original = .error (item.statement.failure (.codeMissing item.statement.operator))

section LacksCode

variable {α β : Type} {items more : List Item} {image original : Except Failure α}
  (lacks : LacksCode restated items image original)

include lacks

/-- An item without code is one of more items as well. -/
theorem LacksCode.mono (subset : items ⊆ more) : LacksCode restated more image original := by
  obtain ⟨item, mem, found⟩ := lacks
  exact ⟨item, subset mem, found⟩

/-- An operation on a result keeps the failure for want of code. -/
theorem LacksCode.map (function : α → β) :
    LacksCode restated items (image.map function) (original.map function) := by
  obtain ⟨item, mem, rfl, rfl⟩ := lacks
  exact ⟨item, mem, rfl, rfl⟩

/-- Results that fail for want of code have no value. -/
theorem LacksCode.toOption_eq : image.toOption = original.toOption := by
  obtain ⟨item, mem, rfl, rfl⟩ := lacks
  rfl

/-- Results that fail for want of code differ in their place at most. -/
theorem LacksCode.placeless_eq
    (alike : ∀ item ∈ items, item.statement.Alike (restated item.statement)) :
    placeless image = placeless original := by
  obtain ⟨item, mem, rfl, rfl⟩ := lacks
  rw [(alike item mem).operator]
  exact (alike item mem).error_eq _

end LacksCode

/-- Packing an item needs nothing of the statement, unless it lacks code. -/
theorem packItem_restate (restated : Statement → Statement) (limit : RecordLimit)
    (literals : LiteralTable) (packer : Packer) (item : Item) :
    packItem limit literals packer (item.restate restated) = packItem limit literals packer item ∨
      LacksCode restated [item] (packItem limit literals packer (item.restate restated))
        (packItem limit literals packer item) := by
  have code : (item.restate restated).code = item.code := rfl
  have instruction : (item.restate restated).instruction = item.instruction := rfl
  unfold packItem
  rw [code, instruction]
  split
  · exact .inl rfl
  · split
    · exact .inr ⟨item, List.mem_singleton_self item, rfl, rfl⟩
    · exact .inr ⟨item, List.mem_singleton_self item, rfl, rfl⟩
    · exact .inl rfl

/-- Packing items needs nothing of their statements, unless one lacks code. -/
theorem packItems_restate (restated : Statement → Statement) (limit : RecordLimit)
    (literals : LiteralTable) (packer : Packer) (items : List Item) :
    packItems limit literals packer (items.map (Item.restate restated)) =
        packItems limit literals packer items ∨
      LacksCode restated items (packItems limit literals packer (items.map (Item.restate restated)))
        (packItems limit literals packer items) := by
  induction items generalizing packer with
  | nil => exact .inl rfl
  | cons item rest ih =>
    rw [List.map_cons, packItems, packItems]
    rcases packItem_restate restated limit literals packer item with same | lacks
    · rw [same]
      split
      · exact .inl rfl
      · exact (ih _).imp_right fun lacks => lacks.mono (List.subset_cons_self item rest)
    · obtain ⟨own, mem, one, two⟩ := lacks
      rw [one, two]
      exact .inr ⟨own, List.mem_cons.2 (.inl (List.mem_singleton.1 mem)), rfl, rfl⟩

/-- The object program of a section needs nothing of its statements, unless an item lacks code. -/
theorem objectProgram_restate (restated : Statement → Statement) (part : Section) (limit : Int) :
    (part.restate restated).objectProgram limit = part.objectProgram limit ∨
      LacksCode restated part.items ((part.restate restated).objectProgram limit)
        (part.objectProgram limit) := by
  have texts (limit : Int) :
      (part.restate restated).textRecords limit = part.textRecords limit ∨
        LacksCode restated part.items ((part.restate restated).textRecords limit)
          (part.textRecords limit) := by
    unfold textRecords
    split
    · exact .inl rfl
    · rename_i digits _
      rcases packItems_restate restated digits part.literals {} part.items with same | lacks
      · exact .inl (congrArg (Except.map Packer.records) same)
      · exact .inr (lacks.map Packer.records)
  have exports : (part.restate restated).externals.exportRecords (part.restate restated).symbols =
      part.externals.exportRecords part.symbols := rfl
  unfold objectProgram
  rw [exports]
  cases part.externals.exportRecords part.symbols with
  | error failure => exact .inl rfl
  | ok records =>
    rcases texts (if limit = 0 then RecordLimit.standard else limit) with same | lacks
    · rw [same]
      exact .inl rfl
    · exact .inr (lacks.map _)

end Section

/-- The object programs of a row of sections need nothing of their statements, unless an item lacks
code. -/
theorem Assembly.objectPrograms_restate (restated : Statement → Statement) (limit : Int)
    (sections : List Section) :
    objectPrograms limit (sections.map (Section.restate restated)) =
        objectPrograms limit sections ∨
      Section.LacksCode restated (sections.flatMap Section.items)
        (objectPrograms limit (sections.map (Section.restate restated)))
        (objectPrograms limit sections) := by
  induction sections with
  | nil => exact .inl rfl
  | cons part rest ih =>
    rw [List.map_cons, objectPrograms, objectPrograms, List.flatMap_cons]
    rcases Section.objectProgram_restate restated part limit with same | lacks
    · rw [same]
      split
      · exact .inl rfl
      · rcases ih with same | lacks
        · rw [same]
          exact .inl rfl
        · exact .inr ((lacks.map _).mono (List.subset_append_right _ _))
    · obtain ⟨item, mem, one, two⟩ := lacks
      rw [one, two]
      exact .inr ⟨item, List.mem_append_left _ mem, rfl, rfl⟩

end TwoPass
