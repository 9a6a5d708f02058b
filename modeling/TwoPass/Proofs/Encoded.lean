import TwoPass.Proofs.Passes
import TwoPass.Proofs.Shapes

/-!
# Encoded items

What the second pass makes of an item that the first pass has laid out.  The flags of a machine
instruction are those that its operands ask for, so the addressing that is read back from them is
the one that the first character of the operand marks.  `Item.Encoded` says how an item is left and
what is asked of the linker for it.  `assemble_rows` says that both passes leave a row of such items,
and that the modifications of the section are those of its items, one behind the other.
-/

namespace TwoPass

namespace Operand

/-- An operand without the character that marks its addressing. -/
def bare (operand : String) : String :=
  match addressing operand with
  | .simple => operand
  | _ => String.ofList (operand.toList.drop 1)

/-- An operand without a mark is bare. -/
theorem bare_of_simple {operand : String} (simple : addressing operand = .simple) :
    bare operand = operand := by
  rw [bare, simple]

/-- A mark is the first character of its operand. -/
theorem bare_of_marked {operand : String} (marked : addressing operand ≠ .simple) :
    bare operand = String.ofList (operand.toList.drop 1) := by
  rw [bare]
  split
  · rename_i simple
    exact absurd simple marked
  · rfl

/-- A literal has no mark. -/
theorem addressing_of_isLiteral {operand : String} (literal : isLiteral operand = true) :
    addressing operand = .simple :=
  @Shape.addressing_of_describes .literal operand literal

/-- A symbol is no literal. -/
theorem isLiteral_of_isSymbol {operand : String} (named : isSymbol operand = true) :
    isLiteral operand = false :=
  @Shape.describes_of_ne .symbol .literal operand named (by decide)

end Operand

namespace Encoding

variable {tables : Tables} {item : Item} {statement : Statement} {format : Format} {operand : String}

/-- The flags of a machine instruction: those that its operands ask for, if it has any. -/
def ownFlags (format : Format) (statement : Statement) : Flags :=
  if statement.operands.isEmpty then {} else operandFlags format statement

/-- A statement with a first operand has operands. -/
theorem ownFlags_of_first (first : statement.first? = some operand) (format : Format) :
    ownFlags format statement = (flagsOf (Operand.addressing operand)).union
      { x := statement.second? = some "X"
        p := format = .three ∧ Operand.addressing operand ≠ .immediate
        e := format = .four } := by
  have some_operand : statement.operands.isEmpty = false := by
    rw [Statement.first?] at first
    cases operands : statement.operands with
    | nil => simp [operands] at first
    | cons head rest => rfl
  rw [ownFlags, some_operand, operandFlags, first]
  rfl

/-- The flags show whether the addressing is simple. -/
theorem simple_ownFlags (first : statement.first? = some operand) (format : Format) :
    ((ownFlags format statement).n && (ownFlags format statement).i) =
      decide (Operand.addressing operand = .simple) := by
  rw [ownFlags_of_first first]
  cases Operand.addressing operand <;> rfl

/-- The flags tell what is left of the operand: without simple addressing its mark is taken off. -/
theorem unmarked_eq_bare (flags : item.flags = ownFlags format item.statement)
    (first : item.statement.first? = some operand) :
    (if item.flags.n && item.flags.i then operand else String.ofList (operand.toList.drop 1)) =
      Operand.bare operand := by
  rw [flags, simple_ownFlags first]
  by_cases simple : Operand.addressing operand = .simple
  · rw [Operand.bare_of_simple simple, if_pos (decide_eq_true simple)]
  · rw [Operand.bare_of_marked simple, if_neg (by simpa using simple)]

/-- The flags let every literal through, since a literal has no mark. -/
theorem simple_and_isLiteral (flags : item.flags = ownFlags format item.statement)
    (first : item.statement.first? = some operand) :
    (item.flags.n && item.flags.i && Operand.isLiteral operand) = Operand.isLiteral operand := by
  rw [flags, simple_ownFlags first]
  by_cases literal : Operand.isLiteral operand = true
  · rw [literal, Operand.addressing_of_isLiteral literal]
    rfl
  · have plain : Operand.isLiteral operand = false := Bool.not_eq_true _ ▸ literal
    rw [plain, Bool.and_false]

/-- What the operand of an instruction on memory stands for: the displacement that is written for it,
and what is asked of the linker. -/
inductive Aims (tables : Tables) (item : Item) (format : Format) (operand : String) :
    Int → List Modification → Prop
  /-- A literal lies in a pool of the section. -/
  | literal {target : Int} (literal : Operand.isLiteral operand = true)
      (placed : (tables.literals.get? operand).bind Literal.location = some target) :
      Aims tables item format operand (target - (item.location + format.size)) []
  /-- A symbol of the section has a value. -/
  | symbol {target : Int} (named : Operand.isSymbol (Operand.bare operand) = true)
      (placed : tables.symbols.find? (Operand.bare operand) = some target) :
      Aims tables item format operand
        (if format = .three then target - (item.location + 3) else target) []
  /-- The value of an imported symbol is left to the linker. -/
  | imported (named : Operand.isSymbol (Operand.bare operand) = true)
      (unplaced : tables.symbols.find? (Operand.bare operand) = none)
      (listed : Operand.bare operand ∈ tables.externals.imports) :
      Aims tables item format operand 0
        [{ location := item.location + 1, length := 5, sign := "+", symbol := Operand.bare operand }]
  /-- A number is written as it is. -/
  | number {value : Nat} (plain : Operand.isLiteral operand = false)
      (unnamed : Operand.isSymbol (Operand.bare operand) = false)
      (spelled : Operand.numeral? (Operand.bare operand) = some (.ok value)) :
      Aims tables item format operand value []

/-- A displacement that is found is that of a literal, a symbol or a number. -/
theorem aims_of_displacement {distance : Int} {needed : List Modification}
    (flags : item.flags = ownFlags format item.statement)
    (first : item.statement.first? = some operand)
    (found : displacement tables item format operand = .ok (distance, needed)) :
    Aims tables item format operand distance needed := by
  rw [displacement] at found
  simp only [unmarked_eq_bare flags first, simple_and_isLiteral flags first] at found
  by_cases literal : Operand.isLiteral operand = true
  · rw [if_pos literal] at found
    split at found
    · rename_i target placed
      cases found
      exact .literal literal placed
    · cases found
  · rw [if_neg literal] at found
    by_cases named : Operand.isSymbol (Operand.bare operand) = true
    · rw [if_pos named, symbolDisplacement] at found
      split at found
      · rename_i target placed
        cases found
        exact .symbol named placed
      · rename_i unplaced
        split at found
        · rename_i listed
          cases found
          exact .imported named unplaced listed
        · cases found
    · rw [if_neg named] at found
      split at found
      · rename_i number spelled
        obtain ⟨_, read, same⟩ := map_eq_ok.1 found
        obtain ⟨value, rfl, cast⟩ := bind_eq_ok.1 read
        cases cast
        cases same
        exact .number (Bool.not_eq_true _ ▸ literal) (Bool.not_eq_true _ ▸ named) spelled
      · cases found

/-- The code of an instruction on memory is that of what its first operand stands for. -/
theorem aims_of_memoryInstruction {mnemonic : String} {opcode : Int} {written : MachineCode}
    (flags : item.flags = ownFlags format item.statement)
    (first : item.statement.first? = some operand)
    (coded : memoryInstruction tables item mnemonic format opcode = .ok written) :
    ∃ distance, Aims tables item format operand distance written.modifications ∧
      written.code = memoryCode opcode item.flags (fieldWidth format) distance := by
  obtain ⟨distance, found, _, code⟩ := memoryInstruction_eq_ok coded
  rw [target, first] at found
  exact ⟨distance, aims_of_displacement flags first found, code⟩

/-- Object code that an item has already is not looked at. -/
theorem machineCode_withCode (code : String) (mnemonic : String) (format : Format) (opcode : Int) :
    machineCode tables (item.withCode code) mnemonic format opcode =
      machineCode tables item mnemonic format opcode := by
  cases format <;> rfl

/-- Object code that an item has already is not looked at. -/
theorem dataCode_withCode (code : String) (instruction : Instruction) :
    dataCode tables (item.withCode code) instruction = dataCode tables item instruction := by
  have terms (length : Nat) (row : List Term) :
      relocations tables (item.withCode code) length row = relocations tables item length row := by
    induction row with
    | nil => rfl
    | cons term rest ih =>
      rw [relocations, relocations, ih]
      rfl
  simp only [dataCode, terms]
  rfl

end Encoding

namespace Item

variable {directory : Directory} {tables : Tables} {item : Item} {instruction : Instruction}

/-- Whether an item has a given object code, and counts its bytes. -/
def HasCode (item : Item) (code : String) : Prop :=
  item.code = some code ∧ item.byteSize = code.length / 2

/-- How the second pass leaves an item, and what it asks of the linker for it. -/
inductive Encoded (tables : Tables) (item : Item) : List Modification → Prop
  /-- A machine instruction has the code of its flags and its operands. -/
  | machine {instruction : Instruction} {format : Format} {opcode : Int}
      {written : Encoding.MachineCode} (known : item.instruction = some instruction)
      (action : instruction.action = .machine format opcode)
      (flags : item.flags = Encoding.ownFlags format item.statement)
      (coded : Encoding.machineCode tables item instruction.mnemonic format opcode = .ok written)
      (code : item.HasCode (Text.Hex.padded (2 * format.size) written.code)) :
      Encoded tables item written.modifications
  /-- A data item has the code of its operand. -/
  | data {instruction : Instruction} {needed : List Modification} {text : String}
      (known : item.instruction = some instruction)
      (action : instruction.action = .directive .byte ∨ instruction.action = .directive .word)
      (coded : Encoding.dataCode tables item instruction = (needed, .ok text))
      (code : item.HasCode text) : Encoded tables item needed
  /-- Every other item has no code. -/
  | plain {instruction : Instruction} (known : item.instruction = some instruction)
      (bare : instruction.holdsCode = false) (code : item.code = none) : Encoded tables item []

/-- An item without flags gets those that its operands ask for. -/
theorem flagged_eq (unset : item.flags = {}) (format : Format) :
    item.flagged format = { item with flags := Encoding.ownFlags format item.statement } := by
  rw [flagged, Encoding.ownFlags]
  split
  · rw [← unset]
  · have union (flags : Flags) : Flags.union {} flags = flags := by simp [Flags.union]
    rw [unset, union]

/-- Encoding an item without flags and without code leaves it encoded. -/
theorem encoded_of_encode (known : item.instruction = some instruction) (unset : item.flags = {})
    (empty : item.code = none) (succeeds : (item.encode directory tables).result = .ok ()) :
    (item.encode directory tables).state.1.Encoded tables (item.encode directory tables).state.2 := by
  cases holds : instruction.holdsCode with
  | false =>
    have kept : item.withOwnCode = item := by rw [withOwnCode, empty]
    rw [encode_plain known holds, kept]
    exact .plain known holds empty
  | true =>
    rcases Instruction.holdsCode_cases holds with ⟨format, opcode, action⟩ | data
    · have flags := flagged_eq unset format
      rw [encode_machine known action] at succeeds ⊢
      split at succeeds
      · cases succeeds
      · rename_i written coded
        rw [flags] at coded ⊢
        exact .machine known action rfl ((Encoding.machineCode_withCode _ _ _ _).trans coded)
          ⟨rfl, rfl⟩
    · rw [encode_data known data] at succeeds ⊢
      split at succeeds
      · rename_i needed text coded
        exact .data known data ((Encoding.dataCode_withCode _ _).trans coded) ⟨rfl, rfl⟩
      · cases succeeds

/-- How an encoded machine instruction was encoded. -/
theorem Encoded.machineCode {needed : List Modification} (encoded : item.Encoded tables needed)
    (known : item.instruction = some instruction) {format : Format} {opcode : Int}
    (action : instruction.action = .machine format opcode) :
    item.flags = Encoding.ownFlags format item.statement ∧ ∃ written,
      Encoding.machineCode tables item instruction.mnemonic format opcode = .ok written ∧
        written.modifications = needed ∧
          item.HasCode (Text.Hex.padded (2 * format.size) written.code) := by
  cases encoded with
  | machine own does flags coded code =>
    obtain rfl := Option.some.inj (own.symm.trans known)
    cases action.symm.trans does
    exact ⟨flags, _, coded, rfl, code⟩
  | data own does coded code =>
    obtain rfl := Option.some.inj (own.symm.trans known)
    rcases does with does | does <;> cases action.symm.trans does
  | plain own bare code =>
    obtain rfl := Option.some.inj (own.symm.trans known)
    simp [Instruction.holdsCode, action] at bare

/-- Whether an item has the instruction that a directory gives to its operator, and operands enough
for it. -/
def Valid (directory : Directory) (item : Item) : Prop :=
  ∃ instruction, item.statement.resolve (directory.lookup item.statement.operator) =
    .ok instruction ∧ item.instruction = some instruction

end Item

namespace Section

variable {directory : Directory} {part : Section} {rules : Rules}

/-- A second pass over items without flags and without code leaves them encoded, and appends what
they ask of the linker to the modifications. -/
theorem encode_rows (known : ∀ item ∈ part.items, item.instruction.isSome = true)
    (unset : ∀ item ∈ part.items, item.flags = {}) (empty : ∀ item ∈ part.items, item.code = none)
    (succeeds : (part.encode rules).result = .ok ()) :
    ∃ rows items, List.Forall₂ (Item.Encoded part.toTables) items rows ∧
      (part.encode rules).state =
        { part with modifications := part.modifications ++ rows.flatten, items } := by
  rw [(encode_eq rules part).1] at succeeds
  rw [(encode_eq rules part).2]
  have run := Outcome.runs_of_sweep succeeds
  have invariant : ∃ rows, List.Forall₂ (Item.Encoded part.toTables)
      (part.encoding rules).state.2 rows ∧
        (part.encoding rules).state.1 = part.modifications ++ rows.flatten := by
    apply run.invariant (motive := fun _ written changes =>
      ∃ rows, List.Forall₂ (Item.Encoded part.toTables) written rows ∧
        changes = part.modifications ++ rows.flatten)
    · exact ⟨[], .nil, by simp⟩
    · rintro _ written changes item mem ⟨rows, before, rfl⟩ encodes
      obtain ⟨instruction, found⟩ := Option.isSome_iff_exists.1 (known item mem)
      have own := Item.encoded_of_encode found (unset item mem) (empty item mem) encodes
      refine ⟨rows ++ [_], List.rel_append before (.cons own .nil), ?_⟩
      simp [encodeStep, Outcome.mapState]
  obtain ⟨rows, each, changes⟩ := invariant
  exact ⟨rows, _, each, by rw [changes]⟩

/-- Fresh items have instructions. -/
theorem known_of_fresh (fresh : ∀ item ∈ part.items, item.Fresh directory) :
    ∀ item ∈ part.items, item.instruction.isSome = true := by
  intro item mem
  obtain ⟨instruction, found, _⟩ := (fresh item mem).known
  rw [found]
  rfl

/-- The first pass changes nothing of a fresh item but its address and its pool. -/
theorem laid_of_fresh (fresh : ∀ item ∈ part.items, item.Fresh directory) (rules : Rules) :
    ∀ laid ∈ (part.layOut rules).state.items,
      laid.Valid directory ∧ laid.flags = {} ∧ laid.code = none := by
  intro laid mem
  obtain ⟨item, read, location, pool, rfl, _⟩ := exists_read (known_of_fresh fresh) mem
  obtain ⟨instruction, valid, same⟩ := fresh item read
  rw [same]
  exact ⟨⟨instruction, valid, rfl⟩, rfl, rfl⟩

/-- Both passes over fresh items leave them encoded, and append what they ask of the linker to the
modifications; nothing else of what the first pass leaves is changed. -/
theorem assemble_rows (fresh : ∀ item ∈ part.items, item.Fresh directory)
    (succeeds : (part.assemble rules).result = .ok ()) :
    let laid := (part.layOut rules).state
    ∃ rows items, List.Forall₂ (Item.Encoded laid.toTables) items rows ∧
      (part.assemble rules).state =
        { laid with modifications := laid.modifications ++ rows.flatten, items } := by
  obtain ⟨_, encodes, reached⟩ := assemble_eq_ok succeeds
  have laid := laid_of_fresh fresh rules
  rw [reached]
  apply encode_rows
  · intro item mem
    obtain ⟨instruction, _, known⟩ := (laid item mem).1
    rw [known]
    rfl
  · exact fun item mem => (laid item mem).2.1
  · exact fun item mem => (laid item mem).2.2
  · exact encodes

/-- Both passes over fresh items leave each of them encoded. -/
theorem encoded_assemble (fresh : ∀ item ∈ part.items, item.Fresh directory)
    (succeeds : (part.assemble rules).result = .ok ()) :
    ∀ item ∈ (part.assemble rules).state.items,
      ∃ needed, item.Encoded (part.layOut rules).state.toTables needed := by
  intro item mem
  obtain ⟨rows, items, encoded, reached⟩ := assemble_rows fresh succeeds
  rw [reached] at mem
  obtain ⟨needed, _, own⟩ := exists_mem_of_forall₂ encoded.flip mem
  exact ⟨needed, own⟩

/-- Both passes over fresh items leave them valid. -/
theorem valid_assemble (fresh : ∀ item ∈ part.items, item.Fresh directory)
    (succeeds : (part.assemble rules).result = .ok ()) :
    ∀ item ∈ (part.assemble rules).state.items, item.Valid directory := by
  intro item mem
  obtain ⟨read, inside, statement, instruction⟩ :=
    exists_source (known_of_fresh fresh) succeeds item mem
  obtain ⟨found, valid, own⟩ := fresh read inside
  rw [statement] at valid
  rw [own] at instruction
  exact ⟨found, valid, instruction.symm⟩

end Section

end TwoPass
