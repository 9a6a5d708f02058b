import TwoPass.Instruction.Basic
import TwoPass.OrderedMap
import TwoPass.Text.Upper

/-!
# Instruction directories

A directory maps operator names to instructions, one entry to a name.  Names are looked up in upper
case, and a plus sign in front of a name asks for the extended variant.
-/

namespace TwoPass

/-- Instructions by name. -/
structure Directory where
  /-- The entries, in order of first appearance. -/
  entries : OrderedMap String Instruction
  deriving Repr

namespace Directory

/-- The entry of a name, spelled as it is listed. -/
def find? (directory : Directory) (name : String) : Option Instruction :=
  directory.entries.find? name

/-- Puts an entry in under its own name; it replaces an earlier one of that name. -/
def put (directory : Directory) (instruction : Instruction) : Directory :=
  ⟨directory.entries.put instruction.mnemonic instruction⟩

/-- The directory of a row of instructions, no two of which share a name. -/
def ofInstructions (instructions : List Instruction) : Directory :=
  ⟨⟨instructions.map fun instruction => (instruction.mnemonic, instruction)⟩⟩

/-- The number of entries. -/
def size (directory : Directory) : Nat := directory.entries.size

/-- The instruction that an operator names. -/
def lookup (directory : Directory) (operator : String) : Option Instruction :=
  match Text.upper operator.toList with
  | '+' :: name => (directory.find? (String.ofList name)).bind Instruction.extended?
  | name => directory.find? (String.ofList name)

/-- The directory that holds the directives alone. -/
def directives : Directory := ofInstructions (Directive.all.map Instruction.ofDirective)

/-- The machine instructions of one byte. -/
def formatOne : List (String × Int × Int) :=
  [("FIX", 0xC4, 0), ("FLOAT", 0xC0, 0), ("HIO", 0xF4, 0), ("NORM", 0xC8, 0), ("SIO", 0xF0, 0),
   ("TIO", 0xF8, 0)]

/-- The machine instructions on registers. -/
def formatTwo : List (String × Int × Int) :=
  [("ADDR", 0x90, 2), ("CLEAR", 0xB4, 1), ("COMPR", 0xA0, 2), ("DIVR", 0x9C, 2), ("MULR", 0x98, 2),
   ("RMO", 0xAC, 2), ("SHIFTL", 0xA4, 2), ("SHIFTR", 0xA8, 2), ("SUBR", 0x94, 2), ("SVC", 0xB0, 1),
   ("TIXR", 0xB8, 1)]

/-- The machine instructions on memory: arithmetic and logic, jumps, loads, stores, and devices. -/
def formatThree : List (String × Int × Int) :=
  [("ADD", 0x18, 1), ("ADDF", 0x58, 1), ("AND", 0x40, 1), ("COMP", 0x28, 1), ("COMPF", 0x88, 1),
   ("DIV", 0x24, 1), ("DIVF", 0x64, 1), ("MUL", 0x20, 1), ("MULF", 0x60, 1), ("OR", 0x44, 1),
   ("SUB", 0x1C, 1), ("SUBF", 0x5C, 1),
   ("J", 0x3C, 1), ("JEQ", 0x30, 1), ("JGT", 0x34, 1), ("JLT", 0x38, 1), ("JSUB", 0x48, 1),
   ("RSUB", 0x4C, 0),
   ("LDA", 0x00, 1), ("LDB", 0x68, 1), ("LDCH", 0x50, 1), ("LDF", 0x70, 1), ("LDL", 0x08, 1),
   ("LDS", 0x6C, 1), ("LDT", 0x74, 1), ("LDX", 0x04, 1), ("LPS", 0xD0, 1),
   ("STA", 0x0C, 1), ("STB", 0x78, 1), ("STCH", 0x54, 1), ("STF", 0x80, 1), ("STI", 0xD4, 1),
   ("STL", 0x14, 1), ("STS", 0x7C, 1), ("STSW", 0xE8, 1), ("STT", 0x84, 1), ("STX", 0x10, 1),
   ("RD", 0xD8, 1), ("SSK", 0xEC, 1), ("TD", 0xE0, 1), ("TIX", 0x2C, 1), ("WD", 0xDC, 1)]

/-- The built-in machine instructions. -/
def machineInstructions : List Instruction :=
  let entries (format : Format) (rows : List (String × Int × Int)) : List Instruction :=
    rows.map fun (mnemonic, opcode, needed) => .machine mnemonic format opcode needed
  entries .one formatOne ++ entries .two formatTwo ++ entries .three formatThree

/-- The built-in directory: the machine instructions and the directives. -/
def builtin : Directory :=
  ofInstructions (machineInstructions ++ Directive.all.map Instruction.ofDirective)

end Directory

end TwoPass
