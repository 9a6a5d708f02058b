import TwoPass.Instruction.Directive
import TwoPass.Text.Hex

/-!
# Instructions

What an operator stands for: a machine instruction of one of four formats with its opcode, or a
directive.  The format of a machine instruction is its length in bytes.
-/

namespace TwoPass

/-- The formats of machine instructions. -/
inductive Format where
  /-- One byte: the opcode. -/
  | one
  /-- Two bytes: the opcode and two register fields. -/
  | two
  /-- Three bytes: opcode, flags and a displacement of twelve bits. -/
  | three
  /-- Four bytes: opcode, flags and an address of twenty bits. -/
  | four
  deriving DecidableEq, Repr

namespace Format

/-- The length of a format in bytes. -/
def size : Format → Nat
  | .one => 1
  | .two => 2
  | .three => 3
  | .four => 4

end Format

/-- What an operator makes the assembler do. -/
inductive Action where
  /-- Encode a machine instruction. -/
  | machine (format : Format) (opcode : Int)
  /-- Follow a directive. -/
  | directive (directive : Directive)
  deriving DecidableEq, Repr

/-- An entry of an instruction directory. -/
structure Instruction where
  /-- The name of the instruction, without the mark of the extended format. -/
  mnemonic : String
  /-- What the instruction makes the assembler do. -/
  action : Action
  /-- The least number of operands. -/
  neededOperands : Int
  /-- Whether the instruction begins a section. -/
  opensSection : Bool
  deriving DecidableEq, Repr

namespace Instruction

/-- A machine instruction that opens no section. -/
def machine (mnemonic : String) (format : Format) (opcode neededOperands : Int) : Instruction :=
  { mnemonic, action := .machine format opcode, neededOperands, opensSection := false }

/-- The entry of a directive. -/
def ofDirective (directive : Directive) : Instruction :=
  { mnemonic := directive.name
    action := .directive directive
    neededOperands := directive.neededOperands
    opensSection := directive.opensSection }

/-- The number of bytes that an instruction always takes up. -/
def size (instruction : Instruction) : Nat :=
  match instruction.action with
  | .machine format _ => format.size
  | .directive directive => directive.size

/-- The opcode of a machine instruction. -/
def opcode? (instruction : Instruction) : Option Int :=
  match instruction.action with
  | .machine _ opcode => some opcode
  | .directive _ => none

/-- Whether an instruction is a directive. -/
def isDirective (instruction : Instruction) : Bool :=
  match instruction.action with
  | .machine .. => false
  | .directive _ => true

/-- The word for what an instruction does. -/
def kindName (instruction : Instruction) : String :=
  match instruction.action with
  | .machine .. => "INSTRUCTION"
  | .directive directive => directive.name

/-- The extended variant of an instruction: an instruction of format three that needs an operand has
one of format four. -/
def extended? (instruction : Instruction) : Option Instruction :=
  match instruction.action with
  | .machine .three opcode =>
    if instruction.neededOperands = 0 then none
    else some { instruction with action := .machine .four opcode }
  | _ => none

/-- An instruction in one line. -/
def summary (instruction : Instruction) : String :=
  match instruction.action with
  | .machine format opcode =>
    "Instruction(" ++ instruction.mnemonic ++ ", format=" ++ toString format.size ++
      ", opcode=$" ++ Text.Hex.padded 2 opcode ++ ")"
  | .directive directive =>
    "Instruction(" ++ instruction.mnemonic ++ ", directive " ++ directive.name ++ ")"

end Instruction

end TwoPass
