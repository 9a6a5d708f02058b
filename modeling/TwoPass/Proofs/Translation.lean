import TwoPass.Proofs.Decoding
import TwoPass.Proofs.Extended

/-!
# Sections that lie elsewhere

The second pass sees addresses as differences, but for one use: in format four the value of a symbol
stands in the code itself.  So a section all of whose addresses are moved by one distance is encoded
alike.  Only the instructions of format four on its symbols change, in their twenty bits of address,
and the modifications that are asked for lie as much further on.

There is one exception.  The warning about an address that has more than twenty bits names the
address, and a number can be too long to be named.
-/

namespace TwoPass

/-- A literal whose place, if it has one, is moved. -/
def Literal.moved (distance : Int) (literal : Literal) : Literal :=
  { literal with location := literal.location.map fun place => place + distance }

/-- A modification that is moved. -/
def Modification.moved (distance : Int) (change : Modification) : Modification :=
  { change with location := change.location + distance }

/-- An item that is moved. -/
def Item.moved (distance : Int) (item : Item) : Item :=
  { item with location := item.location + distance }

/-- Tables whose symbols and placed literals are moved. -/
def Tables.moved (distance : Int) (tables : Tables) : Tables :=
  { tables with
    symbols := ⟨tables.symbols.entries.map fun entry => (entry.1, entry.2 + distance)⟩
    literals := ⟨tables.literals.entries.map (Literal.moved distance)⟩ }

/-- A section whose items, symbols and placed literals are moved. -/
def Section.moved (distance : Int) (part : Section) : Section :=
  { part.toTables.moved distance with items := part.items.map (Item.moved distance) }

/-- What the encoding of a machine instruction yields, with its modifications moved. -/
def Encoding.MachineCode.moved (distance : Int) (written : MachineCode) : MachineCode :=
  { written with modifications := written.modifications.map (Modification.moved distance) }

namespace Tables

variable (distance : Int) (tables : Tables)

/-- The symbols of moved tables have moved values. -/
theorem find?_moved (name : String) :
    (tables.moved distance).symbols.find? name =
      (tables.symbols.find? name).map fun value => value + distance := by
  have row (entries : List (String × Int)) :
      (entries.map fun entry => (entry.1, entry.2 + distance)).lookup name =
        (entries.lookup name).map fun value => value + distance := by
    induction entries with
    | nil => rfl
    | cons entry rest ih =>
      rw [List.map_cons, List.lookup_cons, List.lookup_cons, ih]
      split <;> rfl
  exact row tables.symbols.entries

/-- Moved tables have the same symbols. -/
theorem contains_moved (name : String) :
    (tables.moved distance).symbols.contains name = tables.symbols.contains name := by
  rw [OrderedMap.contains, OrderedMap.contains, find?_moved, Option.isSome_map]

/-- The placed literals of moved tables have moved places. -/
theorem place_moved (operand : String) :
    ((tables.moved distance).literals.get? operand).bind Literal.location =
      ((tables.literals.get? operand).bind Literal.location).map fun place => place + distance := by
  have row (entries : List Literal) :
      ((entries.map (Literal.moved distance)).find? fun literal =>
          literal.text = Form.withoutMark operand).bind Literal.location =
        ((entries.find? fun literal => literal.text = Form.withoutMark operand).bind
          Literal.location).map fun place => place + distance := by
    rw [List.find?_map]
    change ((entries.find? fun literal => literal.text = Form.withoutMark operand).map
      (Literal.moved distance)).bind Literal.location = _
    cases entries.find? fun literal => literal.text = Form.withoutMark operand with
    | none => rfl
    | some literal => rfl
  exact row tables.literals.entries

end Tables

/-- Whether the code of an item holds the value of a symbol: it is an instruction of format four, and
its first operand names a symbol of the section. -/
def Item.Holds (symbols : SymbolTable) (item : Item) (value : Int) : Prop :=
  ∃ instruction opcode operand, item.instruction = some instruction ∧
    instruction.action = .machine .four opcode ∧ item.statement.first? = some operand ∧
    Operand.isSymbol (Operand.bare operand) = true ∧
    symbols.find? (Operand.bare operand) = some value

namespace Encoding

variable {tables : Tables} {item : Item} (distance : Int)

section Data

/-- The modification for a term is moved. -/
theorem relocation_moved (length : Nat) (term : Term) :
    relocation (tables.moved distance) (item.moved distance) length term =
      (relocation tables item length term).map (List.map (Modification.moved distance)) := by
  rw [relocation, relocation, Tables.contains_moved]
  by_cases defined : tables.symbols.contains term.name = true
  · rw [if_pos defined, if_pos defined]
    rfl
  · rw [if_neg defined, if_neg defined]
    by_cases listed : term.name ∈ tables.externals.imports
    · have also : term.name ∈ (tables.moved distance).externals.imports := listed
      rw [if_pos listed, if_pos also]
      cases relocationSign term.operator with
      | none => rfl
      | some sign => rfl
    · have also : term.name ∉ (tables.moved distance).externals.imports := listed
      rw [if_neg listed, if_neg also]
      rfl

/-- The modifications for a row of terms are moved, and a failure stays. -/
theorem relocations_moved (length : Nat) (terms : List Term) :
    relocations (tables.moved distance) (item.moved distance) length terms =
      ((relocations tables item length terms).1.map (Modification.moved distance),
        (relocations tables item length terms).2) := by
  induction terms with
  | nil => rfl
  | cons term rest ih =>
    rw [relocations, relocations]
    by_cases named : Operand.isSymbol term.name = true
    · rw [if_pos named, if_pos named, relocation_moved]
      cases relocation tables item length term with
      | error failure => rfl
      | ok needed => simp [Except.map, ih]
    · rw [if_neg named, if_neg named, ih]

/-- The modifications for a data item are moved; its code and its failures stay. -/
theorem dataCode_moved (instruction : Instruction) :
    dataCode (tables.moved distance) (item.moved distance) instruction =
      ((dataCode tables item instruction).1.map (Modification.moved distance),
        (dataCode tables item instruction).2) := by
  have statement : (item.moved distance).statement = item.statement := rfl
  rw [dataCode, dataCode, statement]
  cases item.statement.first? with
  | none => rfl
  | some operand =>
    simp only [relocations_moved]
    split
    · rfl
    · split
      · rfl
      · split
        · rfl
        · rfl

end Data

section Memory

variable {format : Format} {operand : String}

/-- The same displacement, with its modifications moved. -/
def movedTarget (found : Int × List Modification) : Int × List Modification :=
  (found.1, found.2.map (Modification.moved distance))

/-- The displacement of a symbol stays, unless the code holds its value. -/
theorem symbolDisplacement_moved {symbol : String}
    (relative : format = .three ∨ tables.symbols.find? symbol = none) :
    symbolDisplacement (tables.moved distance) (item.moved distance) format symbol =
      (symbolDisplacement tables item format symbol).map (movedTarget distance) := by
  rw [symbolDisplacement, symbolDisplacement, Tables.find?_moved]
  cases placed : tables.symbols.find? symbol with
  | some value =>
    rcases relative with rfl | unplaced
    · -- In format three the symbol and the program counter are moved alike.
      have same : value + distance - (item.location + distance + 3) =
          value - (item.location + 3) := by omega
      simp [Except.map, movedTarget, Item.moved, same]
    · cases unplaced.symm.trans placed
  | none =>
    by_cases listed : symbol ∈ tables.externals.imports
    · have also : symbol ∈ (tables.moved distance).externals.imports := listed
      have further : item.location + distance + 1 = item.location + 1 + distance := by omega
      simp [listed, also, Except.map, movedTarget, Item.moved, Modification.moved, further]
    · have also : symbol ∉ (tables.moved distance).externals.imports := listed
      simp [listed, also, Except.map, Item.moved]

variable (flags : item.flags = ownFlags format item.statement)
  (first : item.statement.first? = some operand)

include flags first

/-- A displacement stays, unless the code holds the value of a symbol. -/
theorem displacement_moved
    (relative : Operand.isSymbol (Operand.bare operand) = true →
      format = .three ∨ tables.symbols.find? (Operand.bare operand) = none) :
    displacement (tables.moved distance) (item.moved distance) format operand =
      (displacement tables item format operand).map (movedTarget distance) := by
  have also : (item.moved distance).flags = ownFlags format (item.moved distance).statement := flags
  have again : (item.moved distance).statement.first? = some operand := first
  rw [displacement, displacement]
  simp only [unmarked_eq_bare flags first, simple_and_isLiteral flags first,
    unmarked_eq_bare also again, simple_and_isLiteral also again, Tables.place_moved]
  by_cases literal : Operand.isLiteral operand = true
  · rw [if_pos literal, if_pos literal]
    cases (tables.literals.get? operand).bind Literal.location with
    | none => rfl
    | some place =>
      have same : place + distance - (item.location + distance + format.size) =
          place - (item.location + format.size) := by omega
      simp [Except.map, movedTarget, Item.moved, same]
  · rw [if_neg literal, if_neg literal]
    by_cases named : Operand.isSymbol (Operand.bare operand) = true
    · rw [if_pos named, if_pos named]
      exact symbolDisplacement_moved distance (relative named)
    · rw [if_neg named, if_neg named]
      cases Operand.numeral? (Operand.bare operand) with
      | none => rfl
      | some number => cases number <;> rfl

end Memory

section Machine

variable {instruction : Instruction} {format : Format} {opcode : Int}
  (known : item.instruction = some instruction)
  (action : instruction.action = .machine format opcode)
  (flags : item.flags = ownFlags format item.statement)
  (relative : ∀ value, ¬ item.Holds tables.symbols value)

include known action flags relative

/-- The displacement of the first operand stays, unless the code holds the value of a symbol. -/
theorem target_moved (wide : format = .three ∨ format = .four) :
    target (tables.moved distance) (item.moved distance) format =
      (target tables item format).map (movedTarget distance) := by
  have statement : (item.moved distance).statement = item.statement := rfl
  rw [target, target, statement]
  cases first : item.statement.first? with
  | none => rfl
  | some operand =>
    refine displacement_moved distance flags first fun named => ?_
    rcases wide with three | rfl
    · exact .inl three
    · refine .inr (Option.eq_none_iff_forall_ne_some.2 fun value placed => ?_)
      exact relative value ⟨instruction, opcode, operand, known, action, first, named, placed⟩

/-- The code of an instruction on memory stays and its modifications are moved, unless it holds the
value of a symbol. -/
theorem memoryInstruction_moved (wide : format = .three ∨ format = .four) :
    memoryInstruction (tables.moved distance) (item.moved distance) instruction.mnemonic format
        opcode =
      (memoryInstruction tables item instruction.mnemonic format opcode).map
        (MachineCode.moved distance) := by
  rw [memoryInstruction_eq, memoryInstruction_eq,
    target_moved distance known action flags relative wide]
  cases target tables item format with
  | error failure => rfl
  | ok found =>
    -- The warning sees the flags, the place of the statement and the displacement, which all stay.
    have same : truncation (item.moved distance) instruction.mnemonic (fieldWidth format) found.1 =
        truncation item instruction.mnemonic (fieldWidth format) found.1 := rfl
    change (truncation (item.moved distance) instruction.mnemonic (fieldWidth format) found.1 >>= _) =
      Except.map _ (truncation item instruction.mnemonic (fieldWidth format) found.1 >>= _)
    rw [same]
    cases truncation item instruction.mnemonic (fieldWidth format) found.1 with
    | error failure => rfl
    | ok log => rfl

/-- The code of a machine instruction stays and its modifications are moved, unless it holds the value
of a symbol. -/
theorem machineCode_moved :
    machineCode (tables.moved distance) (item.moved distance) instruction.mnemonic format opcode =
      (machineCode tables item instruction.mnemonic format opcode).map
        (MachineCode.moved distance) := by
  cases format with
  | one => rfl
  | two =>
    have statement : (item.moved distance).statement = item.statement := rfl
    rw [machineCode, machineCode, statement]
    cases registerCode instruction.mnemonic opcode item.statement with
    | error failure => rfl
    | ok code => rfl
  | three =>
    rw [machineCode, machineCode]
    split
    · rfl
    · exact memoryInstruction_moved distance known action flags relative (.inl rfl)
  | four => exact memoryInstruction_moved distance known action flags relative (.inr rfl)

end Machine

/-- The code of an instruction of format four is three digits that no address changes, and five for
the address. -/
theorem padded_extended {opcode : Int} (least : 0 ≤ opcode) (most : opcode < 256) (flags : Flags) :
    ∃ head : List Char, head.length = 3 ∧ ∀ address,
      Text.Hex.padded 8 (memoryCode opcode flags 20 address) =
        String.ofList (head ++ Text.Hex.paddedChars 5 (address % 2 ^ 20)) := by
  have small := flags.toNat_lt
  refine ⟨Text.Hex.paddedChars 2 (opcode / 4 * 4 + (flags.toNat / 16 : Nat)) ++
    Text.Hex.paddedChars 1 (flags.toNat % 16 : Nat), ?_, fun address => ?_⟩
  · rw [List.length_append, Text.Hex.length_paddedChars (by decide) (by omega) (by omega),
      Text.Hex.length_paddedChars (by decide) (by omega) (by omega)]
  · rw [Text.Hex.padded]
    exact congrArg String.ofList (Decoding.padded_memoryCode least flags (by decide : 0 < 5) address)

end Encoding

namespace Item

variable {directory : Directory} {tables : Tables} {item : Item} {instruction : Instruction}

/-- Setting flags and moving an item do not disturb each other. -/
theorem flagged_moved (item : Item) (format : Format) (distance : Int) :
    (item.moved distance).flagged format = (item.flagged format).moved distance := by
  rw [flagged, flagged]
  split
  · rename_i none
    have also : item.statement.operands.isEmpty = true := none
    rw [if_pos also]
  · rename_i given
    have also : ¬ item.statement.operands.isEmpty = true := given
    rw [if_neg also]
    rfl

/-- An item that holds no value of a symbol is encoded alike wherever it lies, and its modifications
are moved with it. -/
theorem encode_moved_of_relative (known : item.instruction = some instruction)
    (unset : item.flags = {}) (relative : ∀ value, ¬ item.Holds tables.symbols value)
    (directory : Directory) (distance : Int) :
    (item.moved distance).encode directory (tables.moved distance) =
      (item.encode directory tables).mapState fun reached =>
        (reached.1.moved distance, reached.2.map (Modification.moved distance)) := by
  have also : (item.moved distance).instruction = some instruction := known
  cases holds : instruction.holdsCode with
  | false =>
    rw [encode_plain known holds, encode_plain also holds]
    have own : (item.moved distance).withOwnCode = item.withOwnCode.moved distance := by
      obtain ⟨_, _, _, _, code, _, _⟩ := item
      cases code <;> rfl
    rw [own]
    rfl
  | true =>
    rcases Instruction.holdsCode_cases holds with ⟨format, opcode, action⟩ | data
    · have flags : (item.flagged format).flags =
          Encoding.ownFlags format (item.flagged format).statement := by rw [flagged_eq unset]
      have ready : (item.flagged format).instruction = some instruction := by
        rw [flagged_eq unset]
        exact known
      have none : ∀ value, ¬ (item.flagged format).Holds tables.symbols value := by
        rw [flagged_eq unset]
        exact relative
      rw [encode_machine known action, encode_machine also action, flagged_moved,
        Encoding.machineCode_moved distance ready action flags none]
      cases Encoding.machineCode tables (item.flagged format) instruction.mnemonic format opcode with
      | error failure => rfl
      | ok written => rfl
    · rw [encode_data known data, encode_data also data, Encoding.dataCode_moved]
      cases Encoding.dataCode tables item instruction with
      | mk needed result =>
        cases result with
        | error failure => rfl
        | ok code => rfl

/-- Whether an instruction of format four can take an address: it has at most twenty bits, or the
warning that it has more can be written. -/
def Takes (item : Item) (address : Int) : Prop :=
  0 ≤ address ∧ address < 2 ^ 20 ∨
    item.statement.location.all Location.isWritable = true ∧ Text.isWritable address = true

/-- Whether an item holds the value of a symbol that it cannot take, be it where the item lies or a
distance further on. -/
def Overtaxed (symbols : SymbolTable) (distance : Int) (item : Item) : Prop :=
  ∃ value, item.Holds symbols value ∧ ¬ (item.Takes value ∧ item.Takes (value + distance))

/-- How the image of an encoded item is related to it. -/
inductive Translated (symbols : SymbolTable) (distance : Int) (done : Item) : Item → Prop
  /-- Where the code holds the value of a symbol, the distance is added to its last twenty bits. -/
  | held {value field : Int} {head : List Char} (holds : done.Holds symbols value)
      (three : head.length = 3) (least : 0 ≤ field) (most : field < 2 ^ 20)
      (own : done.code = some (String.ofList (head ++ Text.Hex.paddedChars 5 field))) :
      Translated symbols distance done
        { done.moved distance with
          code := some (String.ofList
            (head ++ Text.Hex.paddedChars 5 ((field + distance) % 2 ^ 20))) }
  /-- All other items keep their code, if they have any. -/
  | kept (relative : ∀ value, ¬ done.Holds symbols value) :
      Translated symbols distance done (done.moved distance)

/-- The warning about an address in format four can be written, or the address cannot be taken. -/
theorem truncation_cases (extended : item.flags.p = false) (mnemonic : String) (address : Int) :
    (∃ log, Encoding.truncation item mnemonic 20 address = .ok log) ∨
      ¬ item.Takes address ∧
        Encoding.truncation item mnemonic 20 address = .error .numberTooLong := by
  rw [Encoding.truncation]
  by_cases whole : Encoding.fits item.flags 20 address = true
  · rw [if_pos whole]
    exact .inl ⟨[], rfl⟩
  · rw [if_neg whole]
    by_cases writable : (item.statement.location.all Location.isWritable &&
        Text.isWritable address) = true
    · rw [if_pos writable]
      exact .inl ⟨_, rfl⟩
    · rw [if_neg writable]
      refine .inr ⟨?_, rfl⟩
      rintro (⟨least, most⟩ | both)
      · have fits : address < Encoding.fieldSpan 20 := most
        simp [Encoding.fits, extended, least, fits] at whole
      · exact writable (Bool.and_eq_true_iff.2 both)

/-- An instruction of format four on a symbol of the section holds the value of the symbol, if it can
take it. -/
theorem encode_extended {opcode value : Int} {operand : String}
    (known : item.instruction = some instruction)
    (action : instruction.action = .machine .four opcode) (unset : item.flags = {})
    (first : item.statement.first? = some operand)
    (named : Operand.isSymbol (Operand.bare operand) = true)
    (placed : tables.symbols.find? (Operand.bare operand) = some value) (directory : Directory) :
    (∃ log, item.encode directory tables =
      ⟨((item.flagged .four).withCode
        (Text.Hex.padded 8 (Encoding.memoryCode opcode (item.flagged .four).flags 20 value)), []),
        log, .ok ()⟩) ∨
      ¬ item.Takes value ∧ (item.encode directory tables).result = .error .numberTooLong := by
  have flags : (item.flagged .four).flags =
      Encoding.ownFlags .four (item.flagged .four).statement := by rw [flagged_eq unset]
  have again : (item.flagged .four).statement.first? = some operand := by
    rw [flagged_eq unset]
    exact first
  have aims : Encoding.target tables (item.flagged .four) .four = .ok (value, []) := by
    rw [Encoding.target, again]
    simp only [Encoding.displacement_of_symbol flags again named, Encoding.symbolDisplacement, placed]
    rfl
  have extended : (item.flagged .four).flags.p = false := by
    rw [flags, Encoding.ownFlags_of_first again]
    cases Operand.addressing operand <;> rfl
  have coded : Encoding.machineCode tables (item.flagged .four) instruction.mnemonic .four opcode =
      Encoding.truncation (item.flagged .four) instruction.mnemonic 20 value >>= fun log =>
        .ok ⟨Encoding.memoryCode opcode (item.flagged .four).flags 20 value, [], log⟩ := by
    rw [Encoding.machineCode, Encoding.memoryInstruction_eq, aims]
    rfl
  rw [encode_machine known action, coded]
  rcases truncation_cases extended instruction.mnemonic value with ⟨log, warned⟩ | ⟨refused, fails⟩
  · rw [warned]
    exact .inl ⟨log, rfl⟩
  · rw [fails]
    rw [flagged_eq unset] at refused
    exact .inr ⟨refused, rfl⟩

/-- The codes for two addresses in format four are as far apart as the addresses. -/
theorem translated_withCode {symbols : SymbolTable} {opcode value : Int}
    (holds : item.Holds symbols value) (least : 0 ≤ opcode) (most : opcode < 256) (flags : Flags)
    (distance : Int) :
    Translated symbols distance
      (item.withCode (Text.Hex.padded 8 (Encoding.memoryCode opcode flags 20 value)))
      ((item.moved distance).withCode
        (Text.Hex.padded 8 (Encoding.memoryCode opcode flags 20 (value + distance)))) := by
  obtain ⟨head, three, text⟩ := Encoding.padded_extended least most flags
  have length (address : Int) :
      (Text.Hex.padded 8 (Encoding.memoryCode opcode flags 20 address)).length = 8 := by
    rw [text, String.length_ofList, List.length_append, three,
      Text.Hex.length_paddedChars (by decide) (by omega) (by omega)]
  have added : (value + distance) % 2 ^ 20 = (value % 2 ^ 20 + distance) % 2 ^ 20 := by omega
  have image : (item.moved distance).withCode
        (Text.Hex.padded 8 (Encoding.memoryCode opcode flags 20 (value + distance))) =
      { (item.withCode (Text.Hex.padded 8 (Encoding.memoryCode opcode flags 20 value))).moved
          distance with
        code := some (String.ofList
          (head ++ Text.Hex.paddedChars 5 ((value % 2 ^ 20 + distance) % 2 ^ 20))) } := by
    rw [← added, ← text, withCode, withCode, length, length]
    rfl
  rw [image]
  exact .held holds three (by omega) (by omega) (congrArg some (text value))

/-- An item that holds the value of a symbol, and its image, hold values that are as far apart as they
are, unless one of the two cannot take its value. -/
theorem encode_moved_of_holds {value : Int} (holds : item.Holds tables.symbols value)
    (known : item.instruction = some instruction) (byte : instruction.hasByteOpcode = true)
    (unset : item.flags = {}) (directory : Directory) (distance : Int) :
    (item.encode directory tables).result = .ok () ∧
        ((item.moved distance).encode directory (tables.moved distance)).result = .ok () ∧
        (item.encode directory tables).state.2 = [] ∧
        ((item.moved distance).encode directory (tables.moved distance)).state.2 = [] ∧
        Translated tables.symbols distance (item.encode directory tables).state.1
          ((item.moved distance).encode directory (tables.moved distance)).state.1 ∨
      item.Overtaxed tables.symbols distance ∧
        ((item.encode directory tables).result = .error .numberTooLong ∨
          ((item.moved distance).encode directory (tables.moved distance)).result =
            .error .numberTooLong) := by
  obtain ⟨own, opcode, operand, found, action, first, named, placed⟩ := id holds
  obtain rfl : own = instruction := Option.some.inj (found.symm.trans known)
  have further : (tables.moved distance).symbols.find? (Operand.bare operand) =
      some (value + distance) := by rw [Tables.find?_moved, placed, Option.map_some]
  have also : (item.moved distance).instruction = some own := known
  rcases encode_extended known action unset first named placed directory with
    ⟨log, coded⟩ | ⟨refused, fails⟩
  · rcases encode_extended also action unset first named further directory with
      ⟨other, image⟩ | ⟨refused, fails⟩
    · obtain ⟨least, most⟩ := Instruction.opcode_bounds byte action
      have ready : (item.flagged .four).Holds tables.symbols value := by
        rw [flagged_eq unset]
        exact holds
      rw [coded, image, flagged_moved]
      exact .inl ⟨rfl, rfl, rfl, rfl,
        translated_withCode ready least most (item.flagged .four).flags distance⟩
    · exact .inr ⟨⟨value, holds, fun takes => refused takes.2⟩, .inr fails⟩
  · exact .inr ⟨⟨value, holds, fun takes => refused takes.1⟩, .inl fails⟩

/-- An item and its image succeed alike or fail alike, and are related where they succeed, unless one
of them holds a value that it cannot take. -/
theorem encode_moved (known : item.instruction = some instruction)
    (byte : instruction.hasByteOpcode = true) (unset : item.flags = {}) (directory : Directory)
    (tables : Tables) (distance : Int) :
    let own := item.encode directory tables
    let image := (item.moved distance).encode directory (tables.moved distance)
    image.result = own.result ∧
        (own.result = .ok () → image.state.2 = own.state.2.map (Modification.moved distance) ∧
          Translated tables.symbols distance own.state.1 image.state.1) ∨
      item.Overtaxed tables.symbols distance ∧
        (own.result = .error .numberTooLong ∨ image.result = .error .numberTooLong) := by
  intro own image
  -- An item that holds no value of a symbol sees addresses as differences only, so its two outcomes
  -- correspond as a whole, also where it fails.
  by_cases holds : ∃ value, item.Holds tables.symbols value
  · obtain ⟨value, holds⟩ := holds
    rcases encode_moved_of_holds holds known byte unset directory distance with
      ⟨succeeds, also, none, neither, translated⟩ | differs
    · refine .inl ⟨also.trans succeeds.symm, fun _ => ⟨?_, translated⟩⟩
      rw [neither, none, List.map_nil]
    · exact .inr differs
  · have relative := not_exists.1 holds
    have same : image = own.mapState fun reached =>
        (reached.1.moved distance, reached.2.map (Modification.moved distance)) :=
      encode_moved_of_relative known unset relative directory distance
    obtain ⟨flags, code, byteSize, kept⟩ := encode_item known directory tables
    have also : ∀ value, ¬ own.state.1.Holds tables.symbols value := by
      rw [kept]
      exact relative
    rw [same]
    exact .inl ⟨rfl, fun _ => ⟨rfl, .kept also⟩⟩

end Item

namespace Section

variable {part : Section}

/-- Whether two rows of modifications begin with the same ones, and what follows in the one row follows
moved in the other. -/
def FollowMoved (old : List Modification) (distance : Int) (own image : List Modification) : Prop :=
  ∃ new, own = old ++ new ∧ image = old ++ new.map (Modification.moved distance)

/-- A step of the second pass and the step for the image succeed alike or fail alike, and keep what is
appended alike, unless one of them meets a value that cannot be taken. -/
theorem encodeStep_moved {item : Item} (valid : item.Valid .builtin) (unset : item.flags = {})
    (rules : Rules) (tables : Tables) (distance : Int) {old changes others : List Modification}
    (before : FollowMoved old distance changes others) :
    let own := encodeStep rules tables changes item
    let image := encodeStep rules (tables.moved distance) others (item.moved distance)
    image.result = own.result ∧
        (own.result = .ok () → FollowMoved old distance own.state.1 image.state.1 ∧
          Item.Translated tables.symbols distance own.state.2 image.state.2) ∨
      item.Overtaxed tables.symbols distance ∧
        (own.result = .error .numberTooLong ∨ image.result = .error .numberTooLong) := by
  obtain ⟨new, rfl, rfl⟩ := before
  obtain ⟨instruction, resolved, known⟩ := valid
  have byte : instruction.hasByteOpcode = true :=
    Directory.hasByteOpcodes_builtin.lookup (Statement.eq_of_resolve resolved)
  rcases Item.encode_moved known byte unset rules.directory tables distance with
    ⟨same, reaches⟩ | differs
  · refine .inl ⟨same, fun succeeds => ?_⟩
    obtain ⟨needed, translated⟩ := reaches succeeds
    refine ⟨⟨new ++ (item.encode rules.directory tables).state.2, ?_, ?_⟩, translated⟩
    · exact List.append_assoc _ _ _
    · rw [List.map_append, ← needed]
      exact List.append_assoc _ _ _
  · exact .inr differs

/-- A section is encoded alike wherever it lies.  The second pass over the section and over its image
succeed alike, or fail alike with the same failure.  Where they succeed the code of every item is the
same, but that the distance is added to the last twenty bits of an instruction of format four on a
symbol of the section; and the new modifications lie as much further on.  Only where such an
instruction holds a value that it cannot take may one pass fail and the other not, and then it fails
because a number is too long to be written. -/
theorem encode_translated (valid : ∀ item ∈ part.items, item.Valid .builtin)
    (unset : ∀ item ∈ part.items, item.flags = {}) (rules : Rules) (distance : Int) :
    let own := part.encode rules
    let image := (part.moved distance).encode rules
    image.result = own.result ∧
        (own.result = .ok () →
          FollowMoved part.modifications distance own.state.modifications
            image.state.modifications ∧
          List.Forall₂ (Item.Translated part.symbols distance) own.state.items image.state.items) ∨
      (∃ item ∈ part.items, item.Overtaxed part.symbols distance) ∧
        (own.result = .error .numberTooLong ∨ image.result = .error .numberTooLong) := by
  intro own image
  have begins : FollowMoved part.modifications distance part.modifications part.modifications :=
    ⟨[], by simp, by simp⟩
  have swept := Outcome.sweep_related (fun _ _ item mem before =>
    encodeStep_moved (valid item mem) (unset item mem) rules part.toTables distance before) begins
  obtain ⟨result, state⟩ := encode_eq rules part
  obtain ⟨moved, reached⟩ := encode_eq rules (part.moved distance)
  rw [show own.result = _ from result, show own.state = _ from state,
    show image.result = _ from moved, show image.state = _ from reached]
  exact swept

/-- A section with operands of every kind, laid out and not yet encoded. -/
def settled : Section :=
  ((ofStatements .builtin
    [.unplaced none "EXTREF" ["FAR"], .unplaced none "RESB" ["16"],
      .unplaced (some "A") "LDA" ["=X'05'"], .unplaced none "+LDA" ["=X'05'"],
      .unplaced none "J" ["A"], .unplaced none "+J" ["@A"], .unplaced none "+JSUB" ["FAR"],
      .unplaced none "+LDA" ["#7"], .unplaced none "CLEAR" ["X"], .unplaced none "RSUB" [],
      .unplaced none "WORD" ["FAR-A"], .unplaced none "LTORG" []]).layOut ⟨.builtin, true⟩).state

/-- The section moved by eight bytes less than the whole memory: the jump to 16 becomes a jump to 8,
and no other code changes. -/
theorem encode_translated_settled :
    (∀ item ∈ settled.items, item.Valid .builtin) ∧ (∀ item ∈ settled.items, item.flags = {}) ∧
      (settled.encode ⟨.builtin, true⟩).state.items.filterMap Item.code =
        ["03201B", "03100017", "3F2FF6", "3E100010", "4B100000", "01100007", "B410", "4F0000",
          "000000"] ∧
      ((settled.moved (2 ^ 20 - 8)).encode ⟨.builtin, true⟩).state.items.filterMap Item.code =
        ["03201B", "03100017", "3F2FF6", "3E100008", "4B100000", "01100007", "B410", "4F0000",
          "000000"] ∧
      (settled.encode ⟨.builtin, true⟩).result = .ok () ∧
      ((settled.moved (2 ^ 20 - 8)).encode ⟨.builtin, true⟩).result = .ok () ∧
      FollowMoved settled.modifications (2 ^ 20 - 8)
        (settled.encode ⟨.builtin, true⟩).state.modifications
        ((settled.moved (2 ^ 20 - 8)).encode ⟨.builtin, true⟩).state.modifications ∧
      List.Forall₂ (Item.Translated settled.symbols (2 ^ 20 - 8))
        (settled.encode ⟨.builtin, true⟩).state.items
        ((settled.moved (2 ^ 20 - 8)).encode ⟨.builtin, true⟩).state.items := by
  have laid : ∀ item ∈ settled.items, item.Valid .builtin ∧ item.flags = {} ∧ item.code = none :=
    laid_of_fresh (by decide +kernel) _
  have valid := fun item mem => (laid item mem).1
  have unset := fun item mem => (laid item mem).2.1
  have succeeds : (settled.encode ⟨.builtin, true⟩).result = .ok () := by decide +kernel
  have also : ((settled.moved (2 ^ 20 - 8)).encode ⟨.builtin, true⟩).result = .ok () := by
    decide +kernel
  refine ⟨valid, unset, by decide +kernel, by decide +kernel, succeeds, also, ?_⟩
  rcases encode_translated valid unset ⟨.builtin, true⟩ (2 ^ 20 - 8) with
    ⟨_, reaches⟩ | ⟨_, fails | fails⟩
  · exact reaches succeeds
  · cases succeeds.symm.trans fails
  · cases also.symm.trans fails

/-- A section with a jump to a symbol whose value has one digit more than can be written. -/
def distant : Section :=
  { ofStatements .builtin [.unplaced none "+J" ["A"]] with
    symbols := ⟨[("A", (Nat.pow 10 Text.digitLimit : Nat))]⟩ }

/-- Where a section lies may decide whether it can be encoded: the address of the jump has to be named
in a warning and cannot be, and there is no such warning where the address is zero. -/
theorem encode_distant :
    (∀ item ∈ distant.items, item.Valid .builtin) ∧ (∀ item ∈ distant.items, item.flags = {}) ∧
      (distant.encode ⟨.builtin, true⟩).result = .error .numberTooLong ∧
      ((distant.moved (-(Nat.pow 10 Text.digitLimit : Nat))).encode ⟨.builtin, true⟩).result =
        .ok () := by
  have fresh : ∀ item ∈ distant.items, item.Fresh .builtin := by decide +kernel
  refine ⟨fun item mem => ?_, by decide +kernel, by decide +kernel, by decide +kernel⟩
  obtain ⟨instruction, resolved, same⟩ := fresh item mem
  exact ⟨instruction, resolved, by rw [same]⟩

end Section

end TwoPass
