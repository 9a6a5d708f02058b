import TwoPass.Proofs.Fields
import TwoPass.Proofs.ProgramCounter
import TwoPass.Proofs.Terms

/-!
# Addresses in format four

An instruction of format four has no program counter to count from: its flags ask for the address
itself, in twenty bits.  For a symbol of the section and for a number these bits are the address of
the operand.  For a literal they are not: they hold the distance from the address behind the
instruction, as in format three.
-/

namespace TwoPass

namespace Operand

variable {operand : String}

/-- An operand that has another shape, with or without a mark, is no literal. -/
theorem isLiteral_of_bare {shape : Shape}
    (own : shape.describes (bare operand) = true) (other : shape ≠ .literal) :
    isLiteral operand = false := by
  refine Bool.eq_false_iff.2 fun literal => ?_
  rw [bare_of_simple (addressing_of_isLiteral literal)] at own
  exact other (@Shape.eq_of_describes shape .literal operand own literal)

/-- An operand that names a symbol is no literal. -/
theorem isLiteral_of_named (named : isSymbol (bare operand) = true) : isLiteral operand = false :=
  @isLiteral_of_bare operand .symbol named (by decide)

/-- A text with a numeral is a number. -/
theorem isNumber_of_numeral? {number : Except Failure Nat}
    (spelled : numeral? operand = some number) : isNumber operand = true := by
  obtain ⟨value, read, _⟩ := Option.map_eq_some_iff.1 spelled
  exact Option.isSome_iff_exists.2 ⟨value, read⟩

/-- An operand that is a number is no literal. -/
theorem isLiteral_of_spelled {number : Except Failure Nat}
    (spelled : numeral? (bare operand) = some number) : isLiteral operand = false :=
  @isLiteral_of_bare operand .number (isNumber_of_numeral? spelled) (by decide)

/-- An operand that is a number names no symbol. -/
theorem isSymbol_of_spelled {number : Except Failure Nat}
    (spelled : numeral? (bare operand) = some number) : isSymbol (bare operand) = false :=
  @Shape.describes_of_ne .number .symbol _ (isNumber_of_numeral? spelled) (by decide)

end Operand

namespace Encoding

variable {tables : Tables} {item : Item} {format : Format} {operand : String}
  (flags : item.flags = ownFlags format item.statement)
  (first : item.statement.first? = some operand)

include flags first

/-- The displacement of a literal that has its place. -/
theorem displacement_of_literal {place : Int} (literal : Operand.isLiteral operand = true)
    (placed : (tables.literals.get? operand).bind Literal.location = some place) :
    displacement tables item format operand = .ok (place - (item.location + format.size), []) := by
  rw [displacement]
  simp only [simple_and_isLiteral flags first]
  rw [if_pos literal, placed]

/-- The displacement of an operand that names a symbol. -/
theorem displacement_of_symbol (named : Operand.isSymbol (Operand.bare operand) = true) :
    displacement tables item format operand =
      symbolDisplacement tables item format (Operand.bare operand) := by
  have plain := Operand.isLiteral_of_named named
  rw [displacement]
  simp only [unmarked_eq_bare flags first, simple_and_isLiteral flags first]
  rw [if_neg (Bool.not_eq_true _ ▸ plain), if_pos named]

/-- The displacement of an operand that is a number. -/
theorem displacement_of_number {value : Nat}
    (spelled : Operand.numeral? (Operand.bare operand) = some (.ok value)) :
    displacement tables item format operand = .ok (value, []) := by
  have plain := Operand.isLiteral_of_spelled spelled
  have unnamed := Operand.isSymbol_of_spelled spelled
  rw [displacement]
  simp only [unmarked_eq_bare flags first, simple_and_isLiteral flags first]
  rw [if_neg (Bool.not_eq_true _ ▸ plain), if_neg (Bool.not_eq_true _ ▸ unnamed), spelled]
  rfl

end Encoding

namespace Section

variable {directory : Directory} {part : Section} {rules : Rules}

/-- The address that an operand stands for. -/
inductive StandsFor (laid : Section) (operand : String) : Int → Prop
  /-- A symbol of the section, whatever its addressing, stands for its value. -/
  | symbol {value : Int} (named : Operand.isSymbol (Operand.bare operand) = true)
      (placed : laid.symbols.find? (Operand.bare operand) = some value) :
      StandsFor laid operand value
  /-- A number, whatever its addressing, stands for itself. -/
  | number {value : Nat} (spelled : Operand.numeral? (Operand.bare operand) = some (.ok value)) :
      StandsFor laid operand value
  /-- A literal stands for its place in the pool of an item, behind the literals in front of it. -/
  | literal {host : Item} {before after : List String} {lengths : List Nat}
      (literal : Operand.isLiteral operand = true) (mem : host ∈ laid.items)
      (pool : host.pool = before ++ Form.withoutMark operand :: after)
      (sizes : before.mapM Form.byteLengthOf = .ok lengths) :
      StandsFor laid operand (host.location + (lengths.sum : Nat))

/-- A literal in the pool of an item has its place there. -/
theorem Fresh.placed_of_pool (fresh : part.Fresh directory) {operand : String} {host : Item}
    {before after : List String} {lengths : List Nat}
    (mem : host ∈ (part.layOut rules).state.items)
    (pool : host.pool = before ++ Form.withoutMark operand :: after)
    (sizes : before.mapM Form.byteLengthOf = .ok lengths) :
    ((part.layOut rules).state.literals.get? operand).bind Literal.location =
      some (host.location + (lengths.sum : Nat)) := by
  obtain ⟨header, state⟩ := layOut_state rules part
  obtain ⟨pooled, _⟩ := laying_pooled fresh rules
  rw [state] at mem ⊢
  have inside : Form.withoutMark operand ∈ (part.laying rules).state.2.flatMap Item.pool :=
    List.mem_flatMap.2 ⟨host, mem, by simp [pool]⟩
  obtain ⟨literal, placed, text, entry⟩ := pooled.entry inside
  rw [← text] at pool
  obtain ⟨same, again, located⟩ := pooled.location mem (List.mem_of_mem_filter placed) pool
  obtain rfl : same = lengths := Except.ok.inj (again.symm.trans sizes)
  exact Option.bind_eq_some_iff.2 ⟨literal, entry, located⟩

/-- What is written for an operand in format four: its address, unless it is a literal. -/
theorem Fresh.displacement_of_standsFor (fresh : part.Fresh directory) {item : Item}
    {operand : String} {address : Int}
    (flags : item.flags = Encoding.ownFlags .four item.statement)
    (first : item.statement.first? = some operand)
    (stands : StandsFor (part.layOut rules).state operand address) :
    Encoding.displacement (part.layOut rules).state.toTables item .four operand =
      .ok (if Operand.isLiteral operand then address - (item.location + 4) else address, []) := by
  cases stands with
  | symbol named placed =>
    rw [Encoding.displacement_of_symbol flags first named, Encoding.symbolDisplacement, placed,
      Operand.isLiteral_of_named named]
    rfl
  | number spelled =>
    rw [Encoding.displacement_of_number flags first spelled, Operand.isLiteral_of_spelled spelled]
    rfl
  | literal literal mem pool sizes =>
    rw [Encoding.displacement_of_literal flags first literal (fresh.placed_of_pool mem pool sizes),
      if_pos literal]
    rfl

/-- An instruction of format four sets the flag of its format, and counts neither from the base nor
from the program counter.  Its code holds these flags, and in twenty bits the address of the operand;
for a literal it is the distance from the address behind the instruction instead, so the bits are
those of the address only where that distance comes to the same. -/
theorem extended_field_iff (fresh : part.Fresh directory)
    (succeeds : (part.assemble rules).result = .ok ()) {item : Item}
    (mem : item ∈ (part.assemble rules).state.items) {instruction : Instruction} {opcode : Int}
    (known : item.instruction = some instruction)
    (action : instruction.action = .machine .four opcode) {operand : String}
    (first : item.statement.first? = some operand) {address : Int}
    (stands : StandsFor (part.layOut rules).state operand address) :
    (item.flags.e = true ∧ item.flags.b = false ∧ item.flags.p = false) ∧
      ∃ code, item.codeNumber? = some code ∧ Encoding.flagsIn .four code = item.flags ∧
        Encoding.fieldIn .four code =
          (if Operand.isLiteral operand then address - (item.location + 4) else address) % 2 ^ 20 ∧
        (Encoding.fieldIn .four code = address % 2 ^ 20 ↔
          (Operand.isLiteral operand = true → (item.location + 4) % 2 ^ 20 = 0)) := by
  obtain ⟨needed, encoded⟩ := encoded_assemble fresh.items succeeds item mem
  obtain ⟨flags, written, coded, _, code⟩ := encoded.machineCode known action
  obtain ⟨distance, found, _, same⟩ := Encoding.memoryInstruction_eq_ok coded
  have aims : (if Operand.isLiteral operand then address - (item.location + 4) else address) =
      distance := by
    rw [Encoding.target, first] at found
    simp only [fresh.displacement_of_standsFor flags first stands] at found
    exact congrArg Prod.fst (Except.ok.inj found)
  constructor
  · rw [flags, Encoding.ownFlags_of_first first]
    cases Operand.addressing operand <;> simp [Encoding.flagsOf, Flags.union, Flags.simple]
  · have field : Encoding.fieldIn .four written.code = distance % 2 ^ 20 := by
      rw [same]
      exact Encoding.fieldIn_memoryCode opcode item.flags .four distance
    refine ⟨written.code, code.codeNumber?_eq, ?_, by rw [field, aims], ?_⟩
    · rw [same]
      exact Encoding.flagsIn_memoryCode opcode item.flags .four distance
    · rw [field, ← aims]
      cases Operand.isLiteral operand with
      | false => simp
      | true =>
        -- The distance and the address leave the same bits exactly when what is subtracted leaves none.
        simp only [if_true, true_implies]
        omega

/-- A section with a number, a symbol and a literal in format four, marked and unmarked. -/
def extended : Section :=
  .ofStatements .builtin
    [.unplaced none "+LDA" ["#1048577"], .unplaced none "+J" ["@A"], .unplaced none "+LDA" ["=X'05'"],
      .unplaced (some "A") "LTORG" []]

/-- The load of the literal at 8 in the section. -/
def extendedLoad : Item :=
  { statement := .unplaced none "+LDA" ["=X'05'"]
    instruction := some (.machine "LDA" .four 0x00 1)
    location := 8
    flags := { n := true, i := true, e := true }
    code := some "03100000"
    byteSize := 4 }

/-- The pool at 12 in the section. -/
def extendedPool : Item :=
  { statement := .unplaced (some "A") "LTORG" []
    instruction := some (.ofDirective .ltorg)
    location := 12
    pool := ["X'05'"] }

/-- The literal of the section stands at 12. -/
theorem extended_standsFor :
    StandsFor (extended.layOut ⟨.builtin, true⟩).state "=X'05'" 12 := by
  have held : extendedPool ∈ (extended.layOut ⟨.builtin, true⟩).state.items := by decide +kernel
  exact .literal (by decide +kernel) held (by decide +kernel : _ = [] ++ _ :: []) rfl

/-- The load of the literal holds the distance to the pool, which is zero. -/
theorem extended_field_iff_literal :
    extended.Fresh .builtin ∧ (extended.assemble ⟨.builtin, true⟩).result = .ok () ∧
      (extended.assemble ⟨.builtin, true⟩).state.items.filterMap Item.code =
        ["01100001", "3E10000C", "03100000"] ∧
      extendedLoad ∈ (extended.assemble ⟨.builtin, true⟩).state.items ∧
      StandsFor (extended.layOut ⟨.builtin, true⟩).state "=X'05'" 12 ∧
      (extendedLoad.flags.e = true ∧ extendedLoad.flags.b = false ∧ extendedLoad.flags.p = false) ∧
      ∃ code, extendedLoad.codeNumber? = some code ∧
        Encoding.flagsIn .four code = extendedLoad.flags ∧
        Encoding.fieldIn .four code = (12 - (8 + 4)) % 2 ^ 20 := by
  have fresh : extended.Fresh .builtin := by decide +kernel
  have succeeds : (extended.assemble ⟨.builtin, true⟩).result = .ok () := by decide +kernel
  have mem : extendedLoad ∈ (extended.assemble ⟨.builtin, true⟩).state.items := by decide +kernel
  obtain ⟨flags, code, number, own, field, _⟩ :=
    extended_field_iff fresh succeeds mem rfl rfl rfl extended_standsFor
  exact ⟨fresh, succeeds, by decide +kernel, mem, extended_standsFor, flags, code, number, own,
    field⟩

/-- Format four need not carry the address of a literal: the load at 8 holds zero, and the literal
stands at 12. -/
theorem extended_literal_not_address :
    extended.Fresh .builtin ∧ (extended.assemble ⟨.builtin, true⟩).result = .ok () ∧
      extendedLoad ∈ (extended.assemble ⟨.builtin, true⟩).state.items ∧
      StandsFor (extended.layOut ⟨.builtin, true⟩).state "=X'05'" 12 ∧
      ∃ code, extendedLoad.codeNumber? = some code ∧ Encoding.fieldIn .four code ≠ 12 % 2 ^ 20 := by
  exact ⟨by decide +kernel, by decide +kernel, by decide +kernel, extended_standsFor, 0x03100000,
    by decide +kernel, by decide +kernel⟩

end Section

end TwoPass
