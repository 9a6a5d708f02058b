import TwoPass.Layout
import TwoPass.Proofs.Sweep

/-!
# Steps of the first pass

What each part of a step of the first pass leaves alone.  A step changes nothing of an item but its
address and its pool, and each of its parts has tables of its own: the directives that open a section
write the header, a label writes the symbols, the operands write the literals.  A section is fresh if
its items were just read and validated and no pass has been over it.
-/

namespace TwoPass

/-- An item that was just read and found valid: it has the instruction that a directory gives to its
operator, and nothing else has happened to it. -/
def Item.Fresh (directory : Directory) (item : Item) : Prop :=
  ∃ instruction, item.statement.resolve (directory.lookup item.statement.operator) = .ok instruction ∧
    item = { statement := item.statement, instruction := some instruction }

/-- A section whose items were just read and found valid, and over which no pass has been. -/
structure Section.Fresh (directory : Directory) (part : Section) : Prop where
  /-- The tables are empty. -/
  tables : part.toTables = {}
  /-- The items are fresh. -/
  items : ∀ item ∈ part.items, item.Fresh directory

instance (directory : Directory) (item : Item) : Decidable (item.Fresh directory) :=
  match valid : item.statement.resolve (directory.lookup item.statement.operator) with
  | .error _ => isFalse (by
      rintro ⟨instruction, found, _⟩
      rw [valid] at found
      cases found)
  | .ok instruction =>
    decidable_of_iff (item = { statement := item.statement, instruction := some instruction }) (by
      constructor
      · exact fun same => ⟨instruction, valid, same⟩
      · rintro ⟨other, found, same⟩
        rw [valid] at found
        cases found
        exact same)

instance (directory : Directory) (part : Section) : Decidable (part.Fresh directory) :=
  decidable_of_iff (part.toTables = {} ∧ ∀ item ∈ part.items, item.Fresh directory)
    ⟨fun both => ⟨both.1, both.2⟩, fun fresh => ⟨fresh.tables, fresh.items⟩⟩

namespace Statement

/-- A statement that stands in no source text. -/
def unplaced (label : Option String) (operator : String) (operands : List String) : Statement :=
  { label, operator, operands, comment := none, location := none, operatorLocation := none
    line := "" }

end Statement

/-- A section of statements, each with the instruction that a directory gives to its operator. -/
def Section.ofStatements (directory : Directory) (statements : List Statement) : Section :=
  { items := statements.map fun statement =>
      { statement, instruction := directory.lookup statement.operator } }

namespace Instruction

/-- Whether an instruction has the literals placed that were collected in front of it. -/
def placesLiterals (instruction : Instruction) : Bool :=
  instruction.action = .directive .ltorg || instruction.action = .directive .finish

/-- Whether the items of an instruction hold object code. -/
def holdsCode (instruction : Instruction) : Bool :=
  match instruction.action with
  | .machine .. | .directive .byte | .directive .word => true
  | _ => false

/-- The number of bytes that an instruction reserves for each unit of its first operand. -/
def reservedUnit (instruction : Instruction) : Nat :=
  match instruction.action with
  | .directive .resw => 3
  | .directive .resb => 1
  | _ => 0

/-- The actions of the instructions that place literals. -/
theorem placesLiterals_cases {instruction : Instruction}
    (places : instruction.placesLiterals = true) :
    instruction.action = .directive .ltorg ∨ instruction.action = .directive .finish := by
  simpa [placesLiterals] using places

/-- The actions of the instructions that hold code. -/
theorem holdsCode_cases {instruction : Instruction} (holds : instruction.holdsCode = true) :
    (∃ format opcode, instruction.action = .machine format opcode) ∨
      instruction.action = .directive .byte ∨ instruction.action = .directive .word := by
  rw [holdsCode] at holds
  split at holds
  · rename_i format opcode action
    exact .inl ⟨format, opcode, action⟩
  · rename_i action
    exact .inr (.inl action)
  · rename_i action
    exact .inr (.inr action)
  · cases holds

/-- An instruction that places literals takes up no bytes of its own, reserves none, and holds no
code. -/
theorem plain_of_places {instruction : Instruction} (places : instruction.placesLiterals = true) :
    instruction.size = 0 ∧ instruction.reservedUnit = 0 ∧ instruction.holdsCode = false := by
  rcases placesLiterals_cases places with action | action
  · simp [size, reservedUnit, holdsCode, action, Directive.size]
  · simp [size, reservedUnit, holdsCode, action, Directive.size]

/-- An instruction that holds code takes up at least one byte and reserves none. -/
theorem size_pos_of_holdsCode {instruction : Instruction} (holds : instruction.holdsCode = true) :
    0 < instruction.size ∧ instruction.reservedUnit = 0 := by
  rcases holdsCode_cases holds with ⟨format, opcode, action⟩ | action | action
  · cases format <;> simp [size, reservedUnit, action, Format.size]
  · simp [size, reservedUnit, action, Directive.size]
  · simp [size, reservedUnit, action, Directive.size]

/-- An instruction that holds no code takes up no bytes by itself. -/
theorem size_eq_zero_of_not_holdsCode {instruction : Instruction}
    (plain : instruction.holdsCode = false) : instruction.size = 0 := by
  rw [holdsCode] at plain
  rw [size]
  split
  · rename_i action
    simp [action] at plain
  · rename_i directive action
    rw [action] at plain
    cases directive with
    | byte => cases plain
    | word => cases plain
    | _ => rfl

end Instruction

namespace Item

/-- Whether the literals collected in front of an item are placed at it. -/
def placesLiterals (item : Item) : Bool := item.instruction.any Instruction.placesLiterals

/-- Whether an item is a machine instruction. -/
def isMachine (item : Item) : Bool := item.instruction.any fun instruction => !instruction.isDirective

/-- A machine instruction has a format and an opcode. -/
theorem exists_of_isMachine {item : Item} (machine : item.isMachine = true) :
    ∃ instruction format opcode, item.instruction = some instruction ∧
      instruction.action = .machine format opcode := by
  cases known : item.instruction with
  | none => simp [isMachine, known] at machine
  | some instruction =>
    cases action : instruction.action with
    | machine format opcode => exact ⟨instruction, format, opcode, rfl, action⟩
    | directive directive => simp [isMachine, known, Instruction.isDirective, action] at machine

/-- A fresh item has the instruction that its operator names. -/
theorem Fresh.known {directory : Directory} {item : Item} (fresh : item.Fresh directory) :
    ∃ instruction, item.instruction = some instruction ∧
      directory.lookup item.statement.operator = some instruction := by
  obtain ⟨instruction, valid, same⟩ := fresh
  refine ⟨instruction, ?_, Statement.eq_of_resolve valid⟩
  rw [same]

/-- No literal is placed at a fresh item. -/
theorem Fresh.pool_eq {directory : Directory} {item : Item} (fresh : item.Fresh directory) :
    item.pool = [] := by
  obtain ⟨instruction, _, same⟩ := fresh
  rw [same]

/-- A fresh item has no code. -/
theorem Fresh.code_eq {directory : Directory} {item : Item} (fresh : item.Fresh directory) :
    item.code = none := by
  obtain ⟨instruction, _, same⟩ := fresh
  rw [same]

/-- An instruction that is known is not looked up again. -/
theorem identify_of_known {item : Item} {instruction : Instruction}
    (known : item.instruction = some instruction) (lookup : String → Option Instruction) :
    item.identify lookup = .ok (item, instruction) := by
  simp [identify, known]

end Item

namespace Layout

variable {rules : Rules} {instruction : Instruction} {progress : Progress} {item : Item}

/-- The progress with which an item is laid out: the location counter is past the bytes that the
instruction always takes up. -/
def Progress.past (progress : Progress) (instruction : Instruction) : Progress :=
  { progress with counter := progress.counter + instruction.size }

/-- The item that is laid out: the location counter is its address. -/
def Progress.locate (progress : Progress) (item : Item) : Item :=
  { item with location := progress.counter }

/-- What a step does once the item has its address. -/
theorem step_of_known (rules : Rules) (known : item.instruction = some instruction)
    (progress : Progress) :
    step rules progress item =
      ((obey instruction (progress.past instruction) (progress.locate item)).andThen
        fun reached _ => bindLabel rules.strict reached.1 reached.2).andThen
          fun reached _ => gatherLiterals reached.1 reached.2 reached.2.statement.operands := by
  simp [step, Item.identify_of_known known, Progress.past, Progress.locate]

/-- Naming a section writes its header. -/
theorem nameSection_state (directive : Directive) (instruction : Instruction) (progress : Progress)
    (item : Item) :
    ∃ header, (nameSection directive instruction progress item).state =
      (progress.withHeader header, item) := by
  unfold nameSection
  split
  · exact ⟨progress.tables.header, rfl⟩
  · simp only
    split
    · split
      · exact ⟨_, rfl⟩
      · exact ⟨_, rfl⟩
    · exact ⟨_, rfl⟩

/-- Reserving space moves the location counter. -/
theorem reserve_state (width : Nat) (instruction : Instruction) (progress : Progress) (item : Item) :
    ∃ counter, (reserve width instruction progress item).state =
      ({ progress with counter }, item) := by
  unfold reserve
  split
  · exact ⟨_, rfl⟩
  · exact ⟨progress.counter, rfl⟩

/-- Giving a label a value changes the address of the item. -/
theorem equate_state (progress : Progress) (item : Item) :
    ∃ location, (equate progress item).state = (progress, { item with location }) := by
  unfold equate
  split
  · exact ⟨_, rfl⟩
  · exact ⟨item.location, rfl⟩

/-- Placing literals writes the literals, the location counter, and the pool of the item. -/
theorem fillPool_state (progress : Progress) (item : Item) (waiting : List Literal) :
    ∃ literals counter pool, (fillPool progress item waiting).state =
      (⟨{ progress.tables with literals }, counter⟩, { item with pool }) := by
  induction waiting generalizing progress item with
  | nil => exact ⟨progress.tables.literals, progress.counter, item.pool, rfl⟩
  | cons literal rest ih =>
    rw [fillPool]
    split
    · exact ⟨progress.tables.literals, progress.counter, item.pool, rfl⟩
    · simp only [Outcome.remarked]
      split
      · exact ⟨_, _, _, rfl⟩
      · exact ih _ _

/-- A label writes the symbols. -/
theorem bindLabel_state (strict : Bool) (progress : Progress) (item : Item) :
    ∃ symbols, (bindLabel strict progress item).state =
      (⟨{ progress.tables with symbols }, progress.counter⟩, item) := by
  unfold bindLabel
  split
  · exact ⟨progress.tables.symbols, rfl⟩
  · simp only
    split
    · exact ⟨progress.tables.symbols, rfl⟩
    · exact ⟨_, rfl⟩

/-- Collecting literals writes the literals. -/
theorem gatherLiterals_state (progress : Progress) (item : Item) (operands : List String) :
    ∃ literals, (gatherLiterals progress item operands).state =
      (⟨{ progress.tables with literals }, progress.counter⟩, item) := by
  induction operands generalizing progress with
  | nil => exact ⟨progress.tables.literals, rfl⟩
  | cons operand rest ih =>
    rw [gatherLiterals]
    split
    · split
      · exact ih _
      · exact ⟨progress.tables.literals, rfl⟩
      · exact ⟨progress.tables.literals, rfl⟩
    · exact ih _

/-- What obeying an instruction comes to, by the kind of the instruction. -/
inductive Obeys (instruction : Instruction) (progress : Progress) (item : Item) :
    Outcome (Progress × Item) Unit → Prop
  /-- Code is left to the second pass. -/
  | code (holds : instruction.holdsCode = true) :
      Obeys instruction progress item (.done (progress, item) ())
  /-- A section is named. -/
  | opening (directive : Directive) (action : instruction.action = .directive directive)
      (opens : directive = .start ∨ directive = .csect) :
      Obeys instruction progress item (nameSection directive instruction progress item)
  /-- Names are exported. -/
  | exporting (action : instruction.action = .directive .extdef) :
      Obeys instruction progress item (.done (progress.withExternals
        (progress.tables.externals.addExports item.statement.operands), item) ())
  /-- Names are imported. -/
  | importing (action : instruction.action = .directive .extref) :
      Obeys instruction progress item (.done (progress.withExternals
        (progress.tables.externals.addImports item.statement.operands), item) ())
  /-- Space is reserved. -/
  | reserving (action : instruction.action = .directive .resw ∨
        instruction.action = .directive .resb) :
      Obeys instruction progress item (reserve instruction.reservedUnit instruction progress item)
  /-- A label gets a value. -/
  | equating (action : instruction.action = .directive .equ) :
      Obeys instruction progress item (equate progress item)
  /-- Literals are placed. -/
  | placing (places : instruction.placesLiterals = true) :
      Obeys instruction progress item (fillPool progress item progress.tables.literals.unplaced)

/-- Every instruction is of one of these kinds. -/
theorem obey_cases (instruction : Instruction) (progress : Progress) (item : Item) :
    Obeys instruction progress item (obey instruction progress item) := by
  unfold obey
  split
  all_goals rename_i action
  · exact .code (by simp [Instruction.holdsCode, action])
  · exact .code (by simp [Instruction.holdsCode, action])
  · exact .code (by simp [Instruction.holdsCode, action])
  · exact .opening .start action (.inl rfl)
  · exact .opening .csect action (.inr rfl)
  · exact .exporting action
  · exact .importing action
  · have three : instruction.reservedUnit = 3 := by simp [Instruction.reservedUnit, action]
    exact three ▸ .reserving (.inl action)
  · have one : instruction.reservedUnit = 1 := by simp [Instruction.reservedUnit, action]
    exact one ▸ .reserving (.inr action)
  · exact .equating action
  · exact .placing (by simp [Instruction.placesLiterals, action])
  · exact .placing (by simp [Instruction.placesLiterals, action])

/-- Obeying an instruction leaves the symbols and the modifications alone, and of the item it
changes the address and the pool. -/
theorem obey_state (instruction : Instruction) (progress : Progress) (item : Item) :
    ∃ header literals externals counter location pool, (obey instruction progress item).state =
      (⟨{ progress.tables with header, literals, externals }, counter⟩,
        { item with location, pool }) := by
  have deed := obey_cases instruction progress item
  generalize obey instruction progress item = outcome at deed
  cases deed with
  | code holds => exact ⟨_, _, _, _, _, _, rfl⟩
  | opening directive action opens =>
    obtain ⟨header, reached⟩ := nameSection_state directive instruction progress item
    exact ⟨header, _, _, _, _, _, reached⟩
  | exporting action => exact ⟨_, _, _, _, _, _, rfl⟩
  | importing action => exact ⟨_, _, _, _, _, _, rfl⟩
  | reserving action =>
    obtain ⟨counter, reached⟩ :=
      reserve_state instruction.reservedUnit instruction progress item
    exact ⟨_, _, _, counter, _, _, reached⟩
  | equating action =>
    obtain ⟨location, reached⟩ := equate_state progress item
    exact ⟨_, _, _, _, location, _, reached⟩
  | placing places =>
    obtain ⟨literals, counter, pool, reached⟩ :=
      fillPool_state progress item progress.tables.literals.unplaced
    exact ⟨_, literals, _, counter, _, pool, reached⟩

/-- An instruction that places no literals leaves the literals and the pool alone. -/
theorem obey_of_not_places (plain : instruction.placesLiterals = false) (progress : Progress)
    (item : Item) :
    (obey instruction progress item).state.1.tables.literals = progress.tables.literals ∧
      (obey instruction progress item).state.2.pool = item.pool := by
  have deed := obey_cases instruction progress item
  generalize obey instruction progress item = outcome at deed ⊢
  cases deed with
  | code holds => exact ⟨rfl, rfl⟩
  | opening directive action opens =>
    obtain ⟨header, reached⟩ := nameSection_state directive instruction progress item
    rw [reached]
    exact ⟨rfl, rfl⟩
  | exporting action => exact ⟨rfl, rfl⟩
  | importing action => exact ⟨rfl, rfl⟩
  | reserving action =>
    obtain ⟨counter, reached⟩ :=
      reserve_state instruction.reservedUnit instruction progress item
    rw [reached]
    exact ⟨rfl, rfl⟩
  | equating action =>
    obtain ⟨location, reached⟩ := equate_state progress item
    rw [reached]
    exact ⟨rfl, rfl⟩
  | placing places =>
    rw [plain] at places
    cases places

/-- An instruction that places literals fills the pool of its item with the waiting ones. -/
theorem obey_of_places (places : instruction.placesLiterals = true) (progress : Progress)
    (item : Item) :
    obey instruction progress item =
      fillPool progress item progress.tables.literals.unplaced := by
  rcases Instruction.placesLiterals_cases places with action | action
  · simp [obey, action]
  · simp [obey, action]

/-- What a step obeys: the instruction of the item, once the item has its address. -/
def obeyed (instruction : Instruction) (progress : Progress) (item : Item) :
    Outcome (Progress × Item) Unit :=
  obey instruction (progress.past instruction) (progress.locate item)

/-- Obeying an instruction leaves the symbols and the statement alone. -/
theorem obeyed_kept (instruction : Instruction) (progress : Progress) (item : Item) :
    (obeyed instruction progress item).state.1.tables.symbols = progress.tables.symbols ∧
      (obeyed instruction progress item).state.2.statement = item.statement := by
  obtain ⟨_, _, _, _, _, _, reached⟩ :=
    obey_state instruction (progress.past instruction) (progress.locate item)
  rw [obeyed, reached]
  exact ⟨rfl, rfl⟩

/-- A step ends where its instruction fails, where its label is refused, or where its literals are
collected; up to there it goes through the states of its parts. -/
theorem step_cases (rules : Rules) (known : item.instruction = some instruction)
    (progress : Progress) :
    (∃ failure, (obeyed instruction progress item).result = .error failure ∧
      (step rules progress item).state = (obeyed instruction progress item).state ∧
      (step rules progress item).result = .error failure) ∨
    ((obeyed instruction progress item).result = .ok () ∧ ∃ symbols,
      let reached := (obeyed instruction progress item).state
      let bound : Progress := ⟨{ reached.1.tables with symbols }, reached.1.counter⟩
      (bindLabel rules.strict reached.1 reached.2).state = (bound, reached.2) ∧
      ((∃ failure, (bindLabel rules.strict reached.1 reached.2).result = .error failure ∧
          (step rules progress item).state = (bound, reached.2) ∧
          (step rules progress item).result = .error failure) ∨
        ((bindLabel rules.strict reached.1 reached.2).result = .ok () ∧
          (step rules progress item).state =
            (gatherLiterals bound reached.2 reached.2.statement.operands).state ∧
          (step rules progress item).result =
            (gatherLiterals bound reached.2 reached.2.statement.operands).result))) := by
  rw [step_of_known rules known progress]
  cases first : (obeyed instruction progress item).result with
  | error failure =>
    rw [obeyed] at first
    refine .inl ⟨failure, rfl, ?_, ?_⟩
    · simp [Outcome.andThen, first, obeyed]
    · simp [Outcome.andThen, first]
  | ok value =>
    obtain ⟨symbols, binds⟩ := bindLabel_state rules.strict
      (obeyed instruction progress item).state.1 (obeyed instruction progress item).state.2
    refine .inr ⟨rfl, symbols, binds, ?_⟩
    rw [obeyed] at first binds ⊢
    cases second : (bindLabel rules.strict
        (obey instruction (progress.past instruction) (progress.locate item)).state.1
        (obey instruction (progress.past instruction) (progress.locate item)).state.2).result with
    | error failure =>
      refine .inl ⟨failure, rfl, ?_, ?_⟩
      · simp [Outcome.andThen, first, second, binds]
      · simp [Outcome.andThen, first, second]
    | ok value =>
      refine .inr ⟨rfl, ?_, ?_⟩
      · simp [Outcome.andThen, first, second, binds]
      · simp [Outcome.andThen, first, second, binds]

/-- A step that succeeds obeys its instruction, binds its label and collects its literals. -/
theorem obeyed_of_step (known : item.instruction = some instruction)
    (succeeds : (step rules progress item).result = .ok ()) :
    (obeyed instruction progress item).result = .ok () := by
  rcases step_cases rules known progress with ⟨failure, _, _, fails⟩ | ⟨obeys, _⟩
  · rw [succeeds] at fails
    cases fails
  · exact obeys

/-- Of the state of a step, only the symbols and the literals are not those of its instruction. -/
theorem step_state (rules : Rules) (known : item.instruction = some instruction)
    (progress : Progress) :
    ∃ symbols literals, (step rules progress item).state =
      (⟨{ (obeyed instruction progress item).state.1.tables with symbols, literals },
          (obeyed instruction progress item).state.1.counter⟩,
        (obeyed instruction progress item).state.2) := by
  rcases step_cases rules known progress with ⟨failure, _, reached, _⟩ |
    ⟨_, symbols, _, ⟨failure, _, reached, _⟩ | ⟨_, reached, _⟩⟩
  · exact ⟨_, _, reached⟩
  · exact ⟨symbols, _, reached⟩
  · obtain ⟨literals, gathered⟩ := gatherLiterals_state _ _ _
    exact ⟨symbols, literals, reached.trans gathered⟩

/-- A step changes nothing of an item but its address and its pool. -/
theorem step_item (rules : Rules) (known : item.instruction = some instruction)
    (progress : Progress) :
    ∃ location pool, (step rules progress item).state.2 = { item with location, pool } := by
  obtain ⟨symbols, literals, reached⟩ := step_state rules known progress
  obtain ⟨_, _, _, _, location, pool, obeys⟩ :=
    obey_state instruction (progress.past instruction) (progress.locate item)
  refine ⟨location, pool, ?_⟩
  rw [reached, obeyed, obeys]
  rfl

/-- An item that places no literals keeps its pool. -/
theorem step_pool_of_not_places (rules : Rules) (known : item.instruction = some instruction)
    (plain : instruction.placesLiterals = false) (progress : Progress) :
    (step rules progress item).state.2.pool = item.pool := by
  obtain ⟨symbols, literals, reached⟩ := step_state rules known progress
  rw [reached, obeyed]
  exact (obey_of_not_places plain _ _).2

end Layout

namespace Section

/-- The sweep of the first pass over a section. -/
def laying (rules : Rules) (part : Section) : Outcome (Layout.Progress × List Item) Unit :=
  Outcome.sweep (Layout.step rules) ⟨part.toTables, 0⟩ part.items

/-- The first pass succeeds or fails as its sweep does. -/
theorem layOut_result (rules : Rules) (part : Section) :
    (part.layOut rules).result = (part.laying rules).result := by
  rw [layOut, laying]
  cases result : (Outcome.sweep (Layout.step rules) ⟨part.toTables, 0⟩ part.items).result <;> simp

/-- The items of a fresh section have instructions and empty pools. -/
theorem Fresh.known {directory : Directory} {part : Section} (fresh : part.Fresh directory) :
    ∀ item ∈ part.items, item.instruction.isSome = true := by
  intro item mem
  obtain ⟨instruction, found, _⟩ := (fresh.items item mem).known
  rw [found]
  rfl

/-- A first pass over a fresh section that succeeds is a run from empty tables. -/
theorem Fresh.runs {directory : Directory} {part : Section} (fresh : part.Fresh directory)
    {rules : Rules} (succeeds : (part.layOut rules).result = .ok ()) :
    Outcome.Runs (Layout.step rules) ⟨{}, 0⟩ part.items (part.laying rules).state.1
      (part.laying rules).state.2 := by
  rw [layOut_result] at succeeds
  have run := Outcome.runs_of_sweep succeeds
  rw [laying]
  rw [fresh.tables] at run ⊢
  exact run

/-- The first pass changes nothing of an item but its address and, where literals are placed, its
pool. -/
theorem laying_items {part : Section}
    (known : ∀ item ∈ part.items, item.instruction.isSome = true) (rules : Rules) :
    List.Forall₂ (fun item laid : Item => ∃ location pool, laid = { item with location, pool } ∧
        (item.placesLiterals = false → pool = item.pool))
      part.items (part.laying rules).state.2 := by
  apply Outcome.forall₂_sweep
  · intro item _
    exact ⟨item.location, item.pool, rfl, fun _ => rfl⟩
  · intro progress item mem
    obtain ⟨instruction, found⟩ := Option.isSome_iff_exists.1 (known item mem)
    obtain ⟨location, pool, same⟩ := Layout.step_item rules found progress
    refine ⟨location, pool, same, fun plain => ?_⟩
    have own : instruction.placesLiterals = false := by
      simpa [Item.placesLiterals, found] using plain
    have kept := Layout.step_pool_of_not_places rules found own progress
    rwa [same] at kept

/-- The first pass leaves the items and the tables of its sweep; only a success writes the length
into the header. -/
theorem layOut_state (rules : Rules) (part : Section) :
    ∃ header, (part.layOut rules).state =
      { toTables := { (part.laying rules).state.1.tables with header }
        items := (part.laying rules).state.2 } := by
  rw [layOut, laying]
  cases result : (Outcome.sweep (Layout.step rules) ⟨part.toTables, 0⟩ part.items).result with
  | error failure => exact ⟨_, rfl⟩
  | ok value => exact ⟨_, rfl⟩

/-- A first pass that succeeds makes the last value of the location counter the length. -/
theorem layOut_header {rules : Rules} {part : Section}
    (succeeds : (part.layOut rules).result = .ok ()) :
    (part.layOut rules).state.header =
      { (part.laying rules).state.1.tables.header with
        length := (part.laying rules).state.1.counter } := by
  rw [layOut_result, laying] at succeeds
  rw [layOut, laying]
  simp [succeeds]

end Section

end TwoPass
