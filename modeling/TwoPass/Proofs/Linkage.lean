import TwoPass.Proofs.Encoded

/-!
# What is asked of the linker

An item refers to symbols: an instruction on memory to the one that its first operand names, a data
item to those among the terms of its operand.  For each reference to a symbol that its section does
not define, an item asks the linker to add the value of that symbol, or to subtract it.  An assembled
section holds these requests and no others, in source order, and every symbol in them is imported.

A request names half-bytes.  Those for a data item, and those for the twenty bits of format four, are
the item's own.  Format three has twelve bits for a displacement, but the same five half-bytes are
asked for, and the last two of them are the byte behind the instruction.
-/

namespace TwoPass

namespace Operand

/-- A data form is no symbol. -/
theorem isSymbol_of_isForm {operand : String} (form : isForm operand = true) :
    isSymbol operand = false :=
  @Shape.describes_of_ne .form .symbol operand form (by decide)

/-- A data form is no expression. -/
theorem isExpression_of_isForm {operand : String} (form : isForm operand = true) :
    isExpression operand = false :=
  @Shape.describes_of_ne .form .expression operand form (by decide)

end Operand

namespace Instruction

/-- Whether an instruction has an operand in memory.  The return instruction of format three has
none. -/
def addressesMemory (instruction : Instruction) : Bool :=
  match instruction.action with
  | .machine .three _ => instruction.mnemonic ≠ "RSUB"
  | .machine .four _ => true
  | _ => false

/-- Whether an instruction stores the value of its operand. -/
def storesData (instruction : Instruction) : Bool :=
  match instruction.action with
  | .directive .byte | .directive .word => true
  | _ => false

/-- The actions of the instructions that store data. -/
theorem storesData_iff {instruction : Instruction} : instruction.storesData = true ↔
    instruction.action = .directive .byte ∨ instruction.action = .directive .word := by
  rw [storesData]
  split
  · rename_i action
    simp [action]
  · rename_i action
    simp [action]
  · rename_i byte word
    constructor
    · intro wrong
      cases wrong
    · rintro (action | action)
      · exact absurd action byte
      · exact absurd action word

/-- An instruction that stores data has no operand in memory. -/
theorem addressesMemory_of_storesData {instruction : Instruction}
    (data : instruction.storesData = true) : instruction.addressesMemory = false := by
  rcases storesData_iff.1 data with action | action <;> simp [addressesMemory, action]

end Instruction

/-- The sign of a term in an expression; the first term has none, and is added. -/
def Term.sign (term : Term) : String := (term.operator.map Operator.text).getD "+"

/-- Whether a modification adds or subtracts the value of one of some names. -/
structure Modification.Links (names : List String) (change : Modification) : Prop where
  /-- The symbol is one of the names. -/
  listed : change.symbol ∈ names
  /-- Its value is added or subtracted. -/
  signed : change.sign = "+" ∨ change.sign = "-"

namespace Item

variable {tables : Tables} {item : Item} {instruction : Instruction} {operand : String}

/-- The symbols that an item refers to, in order, each with the operator in front of it. -/
def references (item : Item) : List Term :=
  match item.instruction, item.statement.first? with
  | some instruction, some operand =>
    if instruction.addressesMemory then
      if Operand.isSymbol (Operand.bare operand) then [⟨none, Operand.bare operand⟩] else []
    else if instruction.storesData then
      if Operand.isSymbol operand || Operand.isExpression operand then
        (Expression.split operand).filter fun term => Operand.isSymbol term.name
      else []
    else []
  | _, _ => []

/-- The field of an item that may be left to the linker, as an address and a number of half-bytes: the
whole of a data item, and five half-bytes behind the opcode of an instruction. -/
def field (item : Item) : Int × Nat :=
  match item.instruction with
  | some instruction =>
    if instruction.storesData then (item.location, 2 * instruction.size) else (item.location + 1, 5)
  | none => (item.location, 0)

/-- What an item asks of the linker for a reference. -/
def request (item : Item) (reference : Term) : Modification :=
  { location := item.field.1, length := item.field.2
    sign := reference.sign, symbol := reference.name }

/-- What an item asks of the linker if its section defines some symbols. -/
def requests (symbols : SymbolTable) (item : Item) : List Modification :=
  (item.references.filter fun reference => !symbols.contains reference.name).map item.request

/-- A data item leaves the whole of it to the linker. -/
theorem field_of_storesData (known : item.instruction = some instruction)
    (data : instruction.storesData = true) : item.field = (item.location, 2 * instruction.size) := by
  simp [field, known, data]

/-- An instruction leaves five half-bytes to the linker. -/
theorem field_of_addressesMemory (known : item.instruction = some instruction)
    (memory : instruction.addressesMemory = true) : item.field = (item.location + 1, 5) := by
  have other : instruction.storesData = false := by
    by_contra data
    rw [Instruction.addressesMemory_of_storesData (Bool.not_eq_false _ ▸ data)] at memory
    cases memory
  simp [field, known, other]

end Item

namespace Encoding

variable {tables : Tables} {item : Item} {length : Nat} (whole : item.field = (item.location, length))

include whole

/-- What a term of a data item leaves to the linker, if it can be left to it. -/
theorem relocation_eq_ok {term : Term} {needed : List Modification}
    (found : relocation tables item length term = .ok needed) :
    needed = ([term].filter fun term => !tables.symbols.contains term.name).map item.request ∧
      ∀ change ∈ needed, change.Links tables.externals.imports := by
  rw [relocation] at found
  by_cases defined : tables.symbols.contains term.name = true
  · rw [if_pos defined] at found
    cases found
    simp [defined]
  · rw [if_neg defined] at found
    split at found
    · rename_i listed
      split at found
      · rename_i sign signed
        cases found
        have own : sign = term.sign ∧ (sign = "+" ∨ sign = "-") := by
          rw [relocationSign.eq_def] at signed
          rw [Term.sign]
          split at signed <;> rename_i operator <;> cases signed <;> rw [operator] <;> decide
        obtain ⟨same, either⟩ := own
        constructor
        · simp [defined, Item.request, whole, same]
        · intro change mem
          rw [List.mem_singleton.1 mem]
          exact ⟨listed, either⟩
      · cases found
    · cases found

/-- What the terms of a data item leave to the linker, in order, if they can be left to it. -/
theorem relocations_eq_ok {terms : List Term} {needed : List Modification}
    (found : relocations tables item length terms = (needed, .ok ())) :
    needed = ((terms.filter fun term => Operand.isSymbol term.name).filter fun term =>
        !tables.symbols.contains term.name).map item.request ∧
      ∀ change ∈ needed, change.Links tables.externals.imports := by
  induction terms generalizing needed with
  | nil =>
    cases found
    simp
  | cons term rest ih =>
    rw [relocations] at found
    by_cases named : Operand.isSymbol term.name = true
    · rw [if_pos named] at found
      split at found
      · cases found
      · rename_i own asked
        obtain ⟨rfl, later⟩ := Prod.mk.inj found
        obtain ⟨front, frontImported⟩ := relocation_eq_ok whole asked
        obtain ⟨back, backImported⟩ := ih (Prod.ext rfl later)
        constructor
        · have split : (term :: rest).filter (fun term => Operand.isSymbol term.name) =
              [term] ++ rest.filter fun term => Operand.isSymbol term.name := by
            simp [named]
          rw [split, List.filter_append, List.map_append, ← front, ← back]
        · intro change mem
          rcases List.mem_append.1 mem with before | behind
          · exact frontImported change before
          · exact backImported change behind
    · rw [if_neg named] at found
      have skip : (term :: rest).filter (fun term => Operand.isSymbol term.name) =
          rest.filter fun term => Operand.isSymbol term.name := by
        simp [named]
      rw [skip]
      exact ih found

end Encoding

namespace Item

variable {tables : Tables} {item : Item} {instruction : Instruction} {operand : String}
  {needed : List Modification}

/-- An item without operands refers to nothing. -/
theorem references_of_first?_eq_none (none : item.statement.first? = none) :
    item.references = [] := by
  rw [references.eq_def, none]
  cases item.instruction <;> rfl

/-- An instruction on memory refers to the symbol that its first operand names. -/
theorem references_of_addressesMemory (known : item.instruction = some instruction)
    (memory : instruction.addressesMemory = true) (first : item.statement.first? = some operand) :
    item.references =
      if Operand.isSymbol (Operand.bare operand) then [⟨none, Operand.bare operand⟩] else [] := by
  simp [references, known, first, memory]

/-- A data item refers to the symbols among the terms of its operand. -/
theorem references_of_storesData (known : item.instruction = some instruction)
    (data : instruction.storesData = true) (first : item.statement.first? = some operand) :
    item.references =
      if Operand.isSymbol operand || Operand.isExpression operand then
        (Expression.split operand).filter fun term => Operand.isSymbol term.name
      else [] := by
  simp [references, known, first, Instruction.addressesMemory_of_storesData data, data]

/-- Any other item refers to nothing. -/
theorem references_of_other (known : item.instruction = some instruction)
    (memory : instruction.addressesMemory = false) (data : instruction.storesData = false) :
    item.references = [] := by
  cases first : item.statement.first? with
  | none => exact references_of_first?_eq_none first
  | some operand => simp [references, known, first, memory, data]

/-- A machine instruction that refers to a symbol has an operand in memory. -/
theorem addressesMemory_of_mem (known : item.instruction = some instruction) {format : Format}
    {opcode : Int} (action : instruction.action = .machine format opcode) {reference : Term}
    (mem : reference ∈ item.references) : instruction.addressesMemory = true := by
  have other : instruction.storesData = false := by simp [Instruction.storesData, action]
  by_contra plain
  rw [references_of_other known (Bool.not_eq_true _ ▸ plain) other] at mem
  cases mem

/-- The value of the symbol that an instruction refers to is added. -/
theorem sign_of_addressesMemory (known : item.instruction = some instruction)
    (memory : instruction.addressesMemory = true) {reference : Term}
    (mem : reference ∈ item.references) : reference.sign = "+" := by
  cases first : item.statement.first? with
  | none =>
    rw [references_of_first?_eq_none first] at mem
    cases mem
  | some operand =>
    rw [references_of_addressesMemory known memory first] at mem
    split at mem
    · rw [List.mem_singleton.1 mem]
      rfl
    · cases mem

/-- An item refers to symbols only. -/
theorem isSymbol_of_mem_references {reference : Term} (mem : reference ∈ item.references) :
    Operand.isSymbol reference.name = true := by
  rw [references.eq_def] at mem
  split at mem
  · split at mem
    · split at mem
      · rename_i named
        rw [List.mem_singleton.1 mem]
        exact named
      · cases mem
    · split at mem
      · split at mem
        · exact (List.mem_filter.1 mem).2
        · cases mem
      · cases mem
  · cases mem

/-- An item without code refers to nothing. -/
theorem references_of_plain (known : item.instruction = some instruction)
    (bare : instruction.holdsCode = false) : item.references = [] := by
  have memory : instruction.addressesMemory = false := by
    rw [Instruction.addressesMemory]
    split
    · rename_i action
      simp [Instruction.holdsCode, action] at bare
    · rename_i action
      simp [Instruction.holdsCode, action] at bare
    · rfl
  have data : instruction.storesData = false := by
    by_contra data
    rcases Instruction.storesData_iff.1 (Bool.not_eq_false _ ▸ data) with action | action <;>
      simp [Instruction.holdsCode, action] at bare
  exact references_of_other known memory data

/-- An item that refers to nothing asks for nothing. -/
theorem requests_of_references (none : item.references = []) (symbols : SymbolTable) :
    item.requests symbols = [] := by
  rw [requests, none]
  rfl

/-- What is asked of the linker for the operand of an instruction on memory. -/
theorem requests_of_aims {format : Format} {distance : Int}
    (known : item.instruction = some instruction) (memory : instruction.addressesMemory = true)
    (first : item.statement.first? = some operand)
    (aims : Encoding.Aims tables item format operand distance needed) :
    needed = item.requests tables.symbols ∧
      ∀ change ∈ needed, change.Links tables.externals.imports := by
  have references := references_of_addressesMemory known memory first
  have field := field_of_addressesMemory known memory
  cases aims with
  | literal literal placed =>
    have unnamed : Operand.isSymbol (Operand.bare operand) = false := by
      rw [Operand.bare_of_simple (Operand.addressing_of_isLiteral literal)]
      by_contra named
      rw [Operand.isLiteral_of_isSymbol (Bool.not_eq_false _ ▸ named)] at literal
      cases literal
    rw [unnamed] at references
    simp [requests_of_references references]
  | symbol named placed =>
    have defined : tables.symbols.contains (Operand.bare operand) = true := by
      rw [OrderedMap.contains, placed]
      rfl
    rw [if_pos named] at references
    simp [requests, references, defined]
  | imported named unplaced listed =>
    have missing : tables.symbols.contains (Operand.bare operand) = false := by
      rw [OrderedMap.contains, unplaced]
      rfl
    rw [if_pos named] at references
    constructor
    · simp [requests, references, missing, request, field, Term.sign]
    · intro change mem
      rw [List.mem_singleton.1 mem]
      exact ⟨listed, .inl rfl⟩
  | number plain unnamed spelled =>
    rw [unnamed] at references
    simp [requests_of_references references]

/-- What is asked of the linker for a machine instruction. -/
theorem requests_of_machineCode {format : Format} {opcode : Int} {written : Encoding.MachineCode}
    (known : item.instruction = some instruction)
    (action : instruction.action = .machine format opcode)
    (flags : item.flags = Encoding.ownFlags format item.statement)
    (coded : Encoding.machineCode tables item instruction.mnemonic format opcode = .ok written) :
    written.modifications = item.requests tables.symbols ∧
      ∀ change ∈ written.modifications, change.Links tables.externals.imports := by
  have other : instruction.storesData = false := by simp [Instruction.storesData, action]
  have plain (none : instruction.addressesMemory = false) (asked : written.modifications = []) :
      written.modifications = item.requests tables.symbols ∧
        ∀ change ∈ written.modifications, change.Links tables.externals.imports := by
    rw [asked, requests_of_references (references_of_other known none other)]
    simp
  have memory (addresses : instruction.addressesMemory = true)
      (coded : Encoding.memoryInstruction tables item instruction.mnemonic format opcode =
        .ok written) :
      written.modifications = item.requests tables.symbols ∧
        ∀ change ∈ written.modifications, change.Links tables.externals.imports := by
    cases first : item.statement.first? with
    | none =>
      obtain ⟨distance, found, _, _⟩ := Encoding.memoryInstruction_eq_ok coded
      rw [Encoding.target, first] at found
      have asked : written.modifications = [] := (Prod.mk.inj (Except.ok.inj found)).2.symm
      rw [asked, requests_of_references (references_of_first?_eq_none first)]
      simp
    | some operand =>
      obtain ⟨distance, aims, _⟩ := Encoding.aims_of_memoryInstruction flags first coded
      exact requests_of_aims known addresses first aims
  cases format with
  | one =>
    cases coded
    exact plain (by simp [Instruction.addressesMemory, action]) rfl
  | two =>
    obtain ⟨number, _, rfl⟩ := map_eq_ok.1 coded
    exact plain (by simp [Instruction.addressesMemory, action]) rfl
  | three =>
    rw [Encoding.machineCode] at coded
    by_cases back : instruction.mnemonic = "RSUB"
    · rw [if_pos back] at coded
      cases coded
      exact plain (by simp [Instruction.addressesMemory, action, back]) rfl
    · rw [if_neg back] at coded
      exact memory (by simp [Instruction.addressesMemory, action, back]) coded
  | four => exact memory (by simp [Instruction.addressesMemory, action]) coded

/-- What is asked of the linker for a data item. -/
theorem requests_of_dataCode {text : String} (known : item.instruction = some instruction)
    (data : instruction.storesData = true)
    (coded : Encoding.dataCode tables item instruction = (needed, .ok text)) :
    needed = item.requests tables.symbols ∧
      ∀ change ∈ needed, change.Links tables.externals.imports := by
  have field := field_of_storesData known data
  rw [Encoding.dataCode] at coded
  cases first : item.statement.first? with
  | none =>
    rw [first] at coded
    cases coded
  | some operand =>
    have references := references_of_storesData known data first
    rw [first] at coded
    simp only at coded
    -- A form is looked for first, but no form could be taken for a symbol or an expression.
    by_cases form : Operand.isForm operand = true
    · rw [if_pos form] at coded
      rw [Operand.isSymbol_of_isForm form, Operand.isExpression_of_isForm form] at references
      rw [← (Prod.mk.inj coded).1, requests_of_references references]
      simp
    · rw [if_neg form] at coded
      rw [Bool.or_comm] at references
      by_cases terms : (Operand.isExpression operand || Operand.isSymbol operand) = true
      · rw [if_pos terms] at coded references
        obtain ⟨same, succeeds⟩ := Prod.mk.inj coded
        obtain ⟨_, done, _⟩ := map_eq_ok.1 succeeds
        rw [← same, requests, references]
        exact Encoding.relocations_eq_ok field (Prod.ext rfl done)
      · rw [if_neg terms] at coded references
        have asked : needed = [] := by
          split at coded
          · exact (Prod.mk.inj coded).1.symm
          · cases coded
        rw [asked, requests_of_references references]
        simp

/-- Encoding an item asks the linker for what the item refers to. -/
theorem Encoded.requests_eq (encoded : item.Encoded tables needed) :
    needed = item.requests tables.symbols ∧
      ∀ change ∈ needed, change.Links tables.externals.imports := by
  cases encoded with
  | machine known action flags coded code => exact requests_of_machineCode known action flags coded
  | data known action coded code =>
    exact requests_of_dataCode known (Instruction.storesData_iff.2 action) coded
  | plain known bare code =>
    rw [requests_of_references (references_of_plain known bare)]
    simp

end Item

namespace Section

variable {directory : Directory} {part : Section} {rules : Rules} {tables : Tables}

/-- The first pass asks for no modification. -/
theorem Fresh.modifications_layOut (fresh : part.Fresh directory)
    (lays : (part.layOut rules).result = .ok ()) :
    (part.layOut rules).state.modifications = [] := by
  have unchanged : (part.laying rules).state.1.tables.modifications = [] := by
    apply (fresh.runs lays).invariant (motive := fun _ _ progress =>
      progress.tables.modifications = [])
    · rfl
    · intro _ _ progress item mem none _
      obtain ⟨instruction, found⟩ := Option.isSome_iff_exists.1 (fresh.known item mem)
      obtain ⟨symbols, literals, reached⟩ := Layout.step_state rules found progress
      obtain ⟨_, _, _, _, _, _, state⟩ :=
        Layout.obey_state instruction (progress.past instruction) (progress.locate item)
      rw [reached, Layout.obeyed, state]
      exact none
  obtain ⟨header, state⟩ := layOut_state rules part
  rw [state]
  exact unchanged

/-- What encoded items ask of the linker, one behind the other. -/
theorem flatten_rows {items : List Item} {rows : List (List Modification)}
    (encoded : List.Forall₂ (Item.Encoded tables) items rows) :
    rows.flatten = items.flatMap (Item.requests tables.symbols) ∧
      ∀ change ∈ rows.flatten, change.Links tables.externals.imports := by
  induction encoded with
  | nil => simp
  | cons own _ ih =>
    obtain ⟨same, imported⟩ := own.requests_eq
    rw [List.flatten_cons, List.flatMap_cons, ← same, ← ih.1]
    refine ⟨rfl, fun change mem => ?_⟩
    rcases List.mem_append.1 mem with front | back
    · exact imported change front
    · exact ih.2 change back

/-- The modifications of an assembled section are the requests of its items, all for imported
names. -/
theorem Fresh.modifications_eq (fresh : part.Fresh directory)
    (succeeds : (part.assemble rules).result = .ok ()) :
    let reached := (part.assemble rules).state
    reached.modifications = reached.items.flatMap (Item.requests reached.symbols) ∧
      ∀ change ∈ reached.modifications, change.Links reached.externals.imports := by
  obtain ⟨lays, _, _⟩ := assemble_eq_ok succeeds
  obtain ⟨rows, items, encoded, reached⟩ := assemble_rows fresh.items succeeds
  have asked := flatten_rows encoded
  rw [reached, fresh.modifications_layOut lays, List.nil_append]
  exact asked

/-- Every item of an assembled section is encoded, and asks for what it refers to. -/
theorem Fresh.encoded_requests (fresh : part.Fresh directory)
    (succeeds : (part.assemble rules).result = .ok ()) :
    let reached := (part.assemble rules).state
    ∀ item ∈ reached.items,
      item.Encoded (part.layOut rules).state.toTables (item.requests reached.symbols) := by
  intro reached item mem
  obtain ⟨needed, encoded⟩ := encoded_assemble fresh.items succeeds item mem
  obtain ⟨rows, items, _, state⟩ := assemble_rows fresh.items succeeds
  have symbols : reached.symbols = (part.layOut rules).state.symbols := by
    show (part.assemble rules).state.symbols = _
    rw [state]
  rw [symbols, ← encoded.requests_eq.1]
  exact encoded

/-- The linker is asked for exactly what the items of an assembled section refer to and the section
does not define: one modification for each such reference, in source order.  Every symbol in a
modification is imported, and every symbol that is referred to without one is defined. -/
theorem modifications_eq_requests (fresh : part.Fresh directory)
    (succeeds : (part.assemble rules).result = .ok ()) :
    let reached := (part.assemble rules).state
    reached.modifications = reached.items.flatMap (Item.requests reached.symbols) ∧
      (∀ change ∈ reached.modifications, change.symbol ∈ reached.externals.imports) ∧
      ∀ item ∈ reached.items, ∀ reference ∈ item.references,
        (∀ change ∈ reached.modifications, change.symbol ≠ reference.name) →
          reached.symbols.contains reference.name = true := by
  obtain ⟨same, links⟩ := fresh.modifications_eq succeeds
  refine ⟨same, fun change mem => (links change mem).listed, ?_⟩
  intro item mem reference named absent
  by_contra undefined
  have kept : reference ∈ item.references.filter fun reference =>
      !(part.assemble rules).state.symbols.contains reference.name := by
    simpa [named] using undefined
  have asked : item.request reference ∈ (part.assemble rules).state.modifications := by
    rw [same]
    exact List.mem_flatMap.2 ⟨item, mem, List.mem_map_of_mem kept⟩
  exact absent _ asked rfl

/-- A section that refers to an imported name before it declares it, in an instruction of each format
and in an expression with a symbol of the section, and that defines another imported name itself. -/
def mixedReferences : Section :=
  .ofStatements .builtin
    [.unplaced (some "MIX") "START" ["0"], .unplaced none "LDA" ["FAR"],
      .unplaced none "+STA" ["@FAR", "X"], .unplaced none "LDX" ["NEAR"],
      .unplaced none "EXTREF" ["FAR", "NEAR", "END"], .unplaced none "WORD" ["END-FAR+NEAR-2"],
      .unplaced (some "NEAR") "BYTE" ["FAR"], .unplaced none "RSUB" ["FAR"], .unplaced none "END" []]

/-- Five modifications are asked for, and none for the name that the section defines. -/
theorem modifications_eq_requests_mixed :
    let reached := (mixedReferences.assemble ⟨.builtin, true⟩).state
    mixedReferences.Fresh .builtin ∧
      (mixedReferences.assemble ⟨.builtin, true⟩).result = .ok () ∧
      reached.modifications.map (fun change =>
        (change.location, change.length, change.sign, change.symbol)) =
          [(1, 5, "+", "FAR"), (4, 5, "+", "FAR"), (10, 6, "+", "END"), (10, 6, "-", "FAR"),
            (13, 2, "+", "FAR")] ∧
      reached.modifications = reached.items.flatMap (Item.requests reached.symbols) := by
  have fresh : mixedReferences.Fresh .builtin := by decide +kernel
  have succeeds : (mixedReferences.assemble ⟨.builtin, true⟩).result = .ok () := by decide +kernel
  exact ⟨fresh, succeeds, by decide +kernel, (modifications_eq_requests fresh succeeds).1⟩

end Section

namespace Modification

/-- The first half-byte of a field, counted from address zero.  A field of odd length begins in the
middle of a byte. -/
def firstHalf (change : Modification) : Int := 2 * change.location + change.length % 2

/-- The last half-byte of a field. -/
def lastHalf (change : Modification) : Int := change.firstHalf + change.length - 1

/-- Whether all half-bytes of a field lie in some bytes. -/
def Inside (change : Modification) (location : Int) (size : Nat) : Prop :=
  2 * location ≤ change.firstHalf ∧ change.lastHalf < 2 * (location + size)

instance (change : Modification) (location : Int) (size : Nat) :
    Decidable (change.Inside location size) :=
  inferInstanceAs (Decidable (_ ∧ _))

end Modification

namespace Item

variable {tables : Tables} {item : Item} {instruction : Instruction} {needed : List Modification}

/-- Whether an item is a machine instruction of format three. -/
def isFormatThree (item : Item) : Bool :=
  item.instruction.any fun instruction => match instruction.action with
    | .machine .three _ => true
    | _ => false

/-- The half-bytes that an instruction asks for begin behind its flags and end in the fourth
byte. -/
theorem halves_of_addressesMemory (known : item.instruction = some instruction)
    (memory : instruction.addressesMemory = true) (reference : Term) :
    (item.request reference).firstHalf = 2 * item.location + 3 ∧
      (item.request reference).lastHalf = 2 * item.location + 7 := by
  have field := field_of_addressesMemory known memory
  simp only [Modification.lastHalf, Modification.firstHalf, request, field]
  omega

/-- The half-bytes that a data item asks for are all of its own. -/
theorem halves_of_storesData (known : item.instruction = some instruction)
    (data : instruction.storesData = true) (reference : Term) :
    (item.request reference).firstHalf = 2 * item.location ∧
      (item.request reference).lastHalf = 2 * (item.location + instruction.size) - 1 := by
  have field := field_of_storesData known data
  simp only [Modification.lastHalf, Modification.firstHalf, request, field]
  omega

/-- The half-bytes that an encoded item asks for are those of its code, unless its format is three:
then the last two of them are those of the byte behind. -/
theorem Encoded.inside_iff (encoded : item.Encoded tables needed) {change : Modification}
    (asked : change ∈ needed) :
    (change.Inside item.location item.byteSize ↔
        (item.isFormatThree = true → 4 ≤ item.byteSize)) ∧
      (item.isFormatThree = true → change.lastHalf = 2 * (item.location + 3) + 1) := by
  rw [encoded.requests_eq.1] at asked
  obtain ⟨reference, kept, rfl⟩ := List.mem_map.1 asked
  have mem := List.mem_of_mem_filter kept
  cases encoded with
  | @machine instruction format opcode written known action flags coded code =>
    have memory := addressesMemory_of_mem known action mem
    obtain ⟨first, last⟩ := halves_of_addressesMemory known memory reference
    have filled : format.size ≤ item.byteSize := by
      have length := Text.Hex.le_length_paddedChars (2 * format.size) written.code
      rw [code.2, Text.Hex.padded, String.length_ofList]
      omega
    rw [Modification.Inside, first, last]
    cases format with
    | one => simp [Instruction.addressesMemory, action] at memory
    | two => simp [Instruction.addressesMemory, action] at memory
    | three =>
      -- The last half-byte is that of the fourth byte, and the format promises three.
      have three : item.isFormatThree = true := by simp [isFormatThree, known, action]
      simp only [three, true_implies]
      omega
    | four =>
      have long : item.isFormatThree = false := by simp [isFormatThree, known, action]
      have filled : 4 ≤ item.byteSize := filled
      simp only [long, Bool.false_eq_true, false_implies, iff_true, and_true]
      omega
  | @data instruction _ text known action coded code =>
    have data := Instruction.storesData_iff.2 action
    obtain ⟨first, last⟩ := halves_of_storesData known data reference
    have size : item.byteSize = instruction.size := by
      have room : 0 < instruction.size := by
        rcases action with action | action <;> simp [Instruction.size, action, Directive.size]
      have length := (Encoding.dataCode_bytes room coded).length
      rw [String.length_toList] at length
      rw [code.2, length]
      omega
    have other : item.isFormatThree = false := by
      rcases action with action | action <;> simp [isFormatThree, known, action]
    simp only [other, Bool.false_eq_true, false_implies, iff_true, and_true, Modification.Inside,
      first, last, size]
    omega
  | plain known bare code =>
    rw [references_of_plain known bare] at mem
    cases mem

end Item

namespace Section

variable {directory : Directory} {part : Section} {rules : Rules}

/-- Every modification of an assembled section is asked for by an item.  It stays inside the code of
that item if that is no instruction of format three.  In format three it takes up the byte behind the
instruction, so it stays inside only if an opcode that is no byte makes the code longer. -/
theorem modification_inside_iff (fresh : part.Fresh directory)
    (succeeds : (part.assemble rules).result = .ok ()) :
    let reached := (part.assemble rules).state
    (∀ change ∈ reached.modifications,
        ∃ item ∈ reached.items, change ∈ item.requests reached.symbols) ∧
      ∀ item ∈ reached.items, ∀ change ∈ item.requests reached.symbols,
        (change.Inside item.location item.byteSize ↔
            (item.isFormatThree = true → 4 ≤ item.byteSize)) ∧
          (item.isFormatThree = true → change.lastHalf = 2 * (item.location + 3) + 1) := by
  constructor
  · intro change mem
    rw [(fresh.modifications_eq succeeds).1] at mem
    exact List.mem_flatMap.1 mem
  · intro item mem change asked
    exact (fresh.encoded_requests succeeds item mem).inside_iff asked

/-- A section whose first instruction refers to an imported name in format three, in front of a byte of
data. -/
def spill : Section :=
  .ofStatements .builtin
    [.unplaced none "EXTREF" ["FAR"], .unplaced none "LDA" ["FAR"], .unplaced none "BYTE" ["X'FF'"],
      .unplaced none "+LDA" ["FAR"], .unplaced none "WORD" ["FAR"]]

/-- The first instruction asks for half-bytes up to the byte behind it, the other items for their
own. -/
theorem modification_inside_iff_spill :
    let reached := (spill.assemble ⟨.builtin, true⟩).state
    spill.Fresh .builtin ∧ (spill.assemble ⟨.builtin, true⟩).result = .ok () ∧
      (reached.items.map Item.isFormatThree = [false, true, false, false, false]) ∧
      reached.items.map (fun item => (item.requests reached.symbols).map fun change =>
        (change.firstHalf, change.lastHalf)) = [[], [(3, 7)], [], [(11, 15)], [(16, 21)]] ∧
      ∀ item ∈ reached.items, ∀ change ∈ item.requests reached.symbols,
        (change.Inside item.location item.byteSize ↔
            (item.isFormatThree = true → 4 ≤ item.byteSize)) ∧
          (item.isFormatThree = true → change.lastHalf = 2 * (item.location + 3) + 1) := by
  have fresh : spill.Fresh .builtin := by decide +kernel
  have succeeds : (spill.assemble ⟨.builtin, true⟩).result = .ok () := by decide +kernel
  exact ⟨fresh, succeeds, by decide +kernel, by decide +kernel,
    (modification_inside_iff fresh succeeds).2⟩

/-- A modification need not stay inside its own statement: the one for the first instruction changes
the byte of data behind it. -/
theorem modification_not_inside :
    let reached := (spill.assemble ⟨.builtin, true⟩).state
    spill.Fresh .builtin ∧ (spill.assemble ⟨.builtin, true⟩).result = .ok () ∧
      ∃ change ∈ reached.modifications, ∃ item ∈ reached.items,
        change ∈ item.requests reached.symbols ∧
          ¬ change.Inside item.location item.byteSize ∧
          ∃ next ∈ reached.items, next.code = some "FF" ∧ next.location = change.lastHalf / 2 := by
  decide +kernel

end Section

end TwoPass
