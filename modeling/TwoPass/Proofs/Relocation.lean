import TwoPass.Proofs.Cover
import TwoPass.Proofs.Linkage

/-!
# Fields left to the linker

The second pass asks for a modification where the code of an item needs the value of an imported
name: in the address field of an instruction of format three or four, or in the whole of a data item.
Each modification therefore begins inside the section, names a symbol, and adds or subtracts its
value.
-/

namespace TwoPass

/-- The modifications that an item may ask for. -/
inductive Modification.Of (instruction : Instruction) (location : Int) : Modification → Prop
  /-- The address field of a machine instruction. -/
  | address {format : Format} {opcode : Int} {symbol : String}
      (action : instruction.action = .machine format opcode)
      (memory : format = .three ∨ format = .four) (named : Operand.isSymbol symbol = true) :
      Of instruction location { location := location + 1, length := 5, sign := "+", symbol }
  /-- The whole of a data item. -/
  | data {sign symbol : String}
      (action : instruction.action = .directive .byte ∨ instruction.action = .directive .word)
      (signed : sign = "+" ∨ sign = "-") (named : Operand.isSymbol symbol = true) :
      Of instruction location
        { location, length := (2 * instruction.size : Nat), sign, symbol }

/-- A modification begins inside the code of the item that asks for it. -/
theorem Modification.Of.location_bounds {instruction : Instruction} {location : Int}
    {change : Modification} (own : change.Of instruction location) :
    location ≤ change.location ∧ change.location < location + instruction.size := by
  cases own with
  | address action memory named =>
    rcases memory with rfl | rfl <;> simp [Instruction.size, action, Format.size]
  | data action signed named =>
    rcases action with action | action <;> simp [Instruction.size, action, Directive.size]

namespace Item

variable {tables : Tables} {item : Item} {needed : List Modification} {change : Modification}

/-- What an encoded item asks of the linker is a field of its own. -/
theorem Encoded.of_mem (encoded : item.Encoded tables needed) (asked : change ∈ needed) :
    ∃ instruction, item.instruction = some instruction ∧ change.Of instruction item.location := by
  obtain ⟨same, links⟩ := encoded.requests_eq
  have signed := (links change asked).signed
  rw [same] at asked
  obtain ⟨reference, kept, rfl⟩ := List.mem_map.1 asked
  have mem := List.mem_of_mem_filter kept
  have named := isSymbol_of_mem_references mem
  cases encoded with
  | @machine instruction format opcode written known action flags coded code =>
    have memory := addressesMemory_of_mem known action mem
    have wide : format = .three ∨ format = .four := by
      cases format <;> simp [Instruction.addressesMemory, action] at memory ⊢
    refine ⟨instruction, known, ?_⟩
    rw [request, field_of_addressesMemory known memory, sign_of_addressesMemory known memory mem]
    exact .address action wide named
  | @data instruction _ text known action coded code =>
    have field := field_of_storesData known (Instruction.storesData_iff.2 action)
    refine ⟨instruction, known, ?_⟩
    rw [request, field] at signed ⊢
    exact .data action signed named
  | plain known bare code =>
    rw [references_of_plain known bare] at mem
    cases mem

end Item

namespace Section

variable {directory : Directory} {part : Section} {rules : Rules}

/-- Every modification of an assembled section is asked for by one of its items. -/
theorem Fresh.modifications_assemble (fresh : part.Fresh directory)
    (succeeds : (part.assemble rules).result = .ok ()) :
    ∀ change ∈ (part.assemble rules).state.modifications,
      ∃ item ∈ (part.assemble rules).state.items, ∃ instruction,
        item.instruction = some instruction ∧ change.Of instruction item.location := by
  intro change mem
  rw [(fresh.modifications_eq succeeds).1] at mem
  obtain ⟨item, inside, asked⟩ := List.mem_flatMap.1 mem
  exact ⟨item, inside, (fresh.encoded_requests succeeds item inside).of_mem asked⟩

end Section

end TwoPass
