import TwoPass.Instruction.Directory
import TwoPass.Instruction.Register
import TwoPass.Layout
import TwoPass.Operand.Class
import TwoPass.Outcome
import TwoPass.Section

/-!
# Encoding

The second pass over a section writes the object code of every item.  It reads the tables that the
first pass filled, and it asks for a modification wherever the value of an imported name is missing.
A failure leaves the items before it encoded and the items behind it untouched.
-/

namespace TwoPass

namespace Encoding

/-- The flags of an addressing. -/
def flagsOf : Operand.Addressing → Flags
  | .simple => Flags.simple
  | .immediate => { i := true }
  | .indirect => { n := true }

/-- The flags that the operands of an instruction ask for. -/
def operandFlags (format : Format) (statement : Statement) : Flags :=
  let addressing := Operand.addressing (statement.first?.getD "")
  (flagsOf addressing).union
    { x := statement.second? = some "X"
      p := format = .three ∧ addressing ≠ .immediate
      e := format = .four }

/-- The number of a register operand. -/
def register (statement : Statement) (name : Option String) : Except Failure Nat :=
  let refused := .error (statement.failure (.invalidRegister name))
  match name with
  | none | some "" => refused
  | some given => match Register.number given with
    | .error failure => .error failure
    | .ok (some number) => .ok number
    | .ok none => refused

/-- Whether the second operand of an instruction is a shift count. -/
def isShift (mnemonic : String) : Bool := mnemonic = "SHIFTL" || mnemonic = "SHIFTR"

/-- The second field of an instruction on registers: a shift count, a register, or zero. -/
def secondField (mnemonic : String) (statement : Statement) : Except Failure Nat :=
  if isShift mnemonic then
    match statement.second?.bind Operand.numeral? with
    | some number => number
    | none => .error (statement.failure (.shiftCountExpected mnemonic statement.second?))
  else match statement.second? with
    | none | some "" => .ok 0
    | some name => register statement (some name)

/-- A field of four bits. -/
def nibble (statement : Statement) (value : Nat) : Except Failure Nat :=
  if 15 < value then .error (statement.failure (.fieldOverflow value)) else .ok value

/-- The code of an instruction on registers. -/
def registerCode (mnemonic : String) (opcode : Int) (statement : Statement) :
    Except Failure Int := do
  let first ← register statement statement.first?
  let second ← secondField mnemonic statement
  let high ← nibble statement first
  let low ← nibble statement second
  return opcode * 256 + high * 16 + low

/-- The width in bits of the address field of a format. -/
def fieldWidth : Format → Nat
  | .four => 20
  | _ => 12

/-- The displacement of a symbol, or the modification that will supply it.  Format three counts from
the address behind the instruction, format four holds the address itself. -/
def symbolDisplacement (tables : Tables) (item : Item) (format : Format) (symbol : String) :
    Except Failure (Int × List Modification) :=
  match tables.symbols.find? symbol with
  | some target =>
    .ok (if format = .three then target - (item.location + 3) else target, [])
  | none =>
    if symbol ∈ tables.externals.imports then
      .ok (0, [{ location := item.location + 1, length := 5, sign := "+", symbol }])
    else .error (item.statement.failure (.undefinedSymbol symbol))

/-- The displacement of an operand: of a literal relative to the address behind the instruction, of
a symbol as its format says, and of a number the number itself.  Without simple addressing the first
character marks the addressing and is left out. -/
def displacement (tables : Tables) (item : Item) (format : Format) (operand : String) :
    Except Failure (Int × List Modification) :=
  let isSimple := item.flags.n && item.flags.i
  if isSimple && Operand.isLiteral operand then
    match (tables.literals.get? operand).bind Literal.location with
    | some target => .ok (target - (item.location + format.size), [])
    | none => .error (item.statement.failure (.missingLiteral operand))
  else
    let target := if isSimple then operand else String.ofList (operand.toList.drop 1)
    if Operand.isSymbol target then symbolDisplacement tables item format target
    else match Operand.numeral? target with
      | some number => number.map fun value => ((value : Int), [])
      | none => .error (item.statement.failure (.invalidOperand operand))

/-- The number of values of a field of some bits. -/
def fieldSpan (width : Nat) : Int := (1 <<< width : Nat)

/-- Whether a displacement fits its field: signed when it counts from the program counter, unsigned
otherwise. -/
def fits (flags : Flags) (width : Nat) (displacement : Int) : Bool :=
  if flags.p then -2048 ≤ displacement && displacement ≤ 2047
  else 0 ≤ displacement && displacement < fieldSpan width

/-- The code of an instruction on memory: six bits of opcode, six flags, and the displacement cut to
its field. -/
def memoryCode (opcode : Int) (flags : Flags) (width : Nat) (displacement : Int) : Int :=
  (opcode / 4 * 64 + flags.toNat) * fieldSpan width + displacement % fieldSpan width

/-- The code of the return instruction, which has no operand. -/
def returnCode : Int := 0x4F0000

/-- What the encoding of a machine instruction yields. -/
structure MachineCode where
  /-- The code as a number. -/
  code : Int
  /-- The fields left to the linker. -/
  modifications : List Modification := []
  /-- The warnings. -/
  log : List Remark := []

/-- The warning about a displacement that does not fit its field.  It names the location and the
displacement, so these have to be numbers that can be written. -/
def truncation (item : Item) (mnemonic : String) (width : Nat) (displacement : Int) :
    Except Failure (List Remark) :=
  if fits item.flags width displacement then .ok []
  else if item.statement.location.all Location.isWritable && Text.isWritable displacement then
    .ok [.truncated item.statement.location displacement mnemonic width]
  else .error .numberTooLong

/-- The code of an instruction on memory, with a warning if the displacement does not fit. -/
def memoryInstruction (tables : Tables) (item : Item) (mnemonic : String) (format : Format)
    (opcode : Int) : Except Failure MachineCode := do
  let (target, modifications) ← match item.statement.first? with
    | some operand => displacement tables item format operand
    | none => .ok (0, [])
  let width := fieldWidth format
  let log ← truncation item mnemonic width target
  return { code := memoryCode opcode item.flags width target, modifications, log }

/-- The code of a machine instruction whose flags are set. -/
def machineCode (tables : Tables) (item : Item) (mnemonic : String) (format : Format)
    (opcode : Int) : Except Failure MachineCode :=
  match format with
  | .one => .ok { code := opcode }
  | .two => (registerCode mnemonic opcode item.statement).map fun code => { code }
  | .three =>
    if mnemonic = "RSUB" then .ok { code := returnCode }
    else memoryInstruction tables item mnemonic .three opcode
  | .four => memoryInstruction tables item mnemonic .four opcode

/-- The sign under which a term can be relocated. -/
def relocationSign : Option Operator → Option String
  | none | some .add => some "+"
  | some .subtract => some "-"
  | some _ => none

/-- The modification that a symbol in a data item needs; a symbol of the section needs none. -/
def relocation (tables : Tables) (item : Item) (length : Nat) (term : Term) :
    Except Failure (List Modification) :=
  if tables.symbols.contains term.name then .ok []
  else if term.name ∈ tables.externals.imports then
    match relocationSign term.operator with
    | some sign => .ok [{ location := item.location, length, sign, symbol := term.name }]
    | none =>
      .error (item.statement.failure
        (.unrelocatable term.name (term.operator.getD .add)))
  else .error (item.statement.failure (.undefinedSymbol term.name))

/-- The modifications that the symbols among some terms need, up to the first failure. -/
def relocations (tables : Tables) (item : Item) (length : Nat) :
    List Term → List Modification × Except Failure Unit
  | [] => ([], .ok ())
  | term :: rest =>
    if Operand.isSymbol term.name then
      match relocation tables item length term with
      | .error failure => ([], .error failure)
      | .ok needed =>
        let later := relocations tables item length rest
        (needed ++ later.1, later.2)
    else relocations tables item length rest

/-- The number of bytes that hold a number. -/
def bytesFor (number : Nat) : Nat := if number = 0 then 0 else number.log2 / 8 + 1

/-- The code of a data form, filled with zeros on the left. -/
def formCode (instruction : Instruction) (statement : Statement) (operand : String) :
    Except Failure String :=
  match Form.hexOf operand with
  | .error cause => .error (statement.failure cause)
  | .ok data =>
    if 2 * instruction.size < data.length then
      .error (statement.failure
        (.dataOverflow instruction.mnemonic instruction.size ((data.length + 1) / 2)))
    else .ok (String.ofList (Text.Hex.fill (2 * instruction.size) data))

/-- The code of a number. -/
def numberCode (instruction : Instruction) (statement : Statement) (number : Nat) :
    Except Failure String :=
  if 1 <<< (8 * instruction.size) ≤ number then
    .error (statement.failure
      (.valueOverflow instruction.mnemonic instruction.size (bytesFor number)))
  else .ok (Text.Hex.padded (2 * instruction.size) number)

/-- The code of a data item and the modifications it needs.  The symbols in it count for nothing
here: those of other sections are left to the linker. -/
def dataCode (tables : Tables) (item : Item) (instruction : Instruction) :
    List Modification × Except Failure String :=
  match item.statement.first? with
  | none => ([], .error (item.statement.failure (.invalidData instruction.mnemonic none)))
  | some operand =>
    if Operand.isForm operand then ([], formCode instruction item.statement operand)
    else if Operand.isExpression operand || Operand.isSymbol operand then
      let needed := relocations tables item (2 * instruction.size) (Expression.split operand)
      let zeros := String.ofList (List.replicate (2 * instruction.size) '0')
      (needed.1, needed.2.map fun _ => zeros)
    else match Operand.numeral? operand with
      | some number => ([], number.bind (numberCode instruction item.statement))
      | none =>
        ([], .error (item.statement.failure (.invalidData instruction.mnemonic operand)))

end Encoding

namespace Item

/-- The same item with object code. -/
def withCode (item : Item) (code : String) : Item :=
  { item with code := some code, byteSize := code.length / 2 }

/-- An item that needs no code here; code that it has already counts its bytes. -/
def withOwnCode (item : Item) : Item :=
  match item.code with
  | some code => item.withCode code
  | none => item

/-- Encodes an item.  The state holds the item and the modifications that it asks for. -/
def encode (directory : Directory) (tables : Tables) (item : Item) :
    Outcome (Item × List Modification) Unit :=
  match item.identify directory.lookup with
  | .error diagnostic => .failed (item, []) (.ofDiagnostic diagnostic)
  | .ok (item, instruction) =>
    match instruction.action with
    | .machine format opcode =>
      let item :=
        if item.statement.operands.isEmpty then item
        else { item with
          flags := item.flags.union (Encoding.operandFlags format item.statement) }
      match Encoding.machineCode tables item instruction.mnemonic format opcode with
      | .error failure => .failed (item, []) failure
      | .ok written =>
        let code := Text.Hex.padded (2 * format.size) written.code
        ⟨(item.withCode code, written.modifications), written.log, .ok ()⟩
    | .directive .byte | .directive .word =>
      match Encoding.dataCode tables item instruction with
      | (modifications, .ok code) => .done (item.withCode code, modifications) ()
      | (modifications, .error failure) => .failed (item, modifications) failure
    | .directive _ => .done (item.withOwnCode, []) ()

end Item

namespace Section

/-- The second pass over a section. -/
def encode (rules : Rules) (part : Section) : Outcome Section Unit :=
  let swept := Outcome.sweep
    (fun modifications item =>
      (item.encode rules.directory part.toTables).mapState fun (item, added) =>
        (modifications ++ added, item))
    part.modifications part.items
  let reached : Section :=
    { part with modifications := swept.state.1, items := swept.state.2 }
  match swept.result with
  | .error failure => ⟨reached, swept.log, .error failure⟩
  | .ok () =>
    let remark := .encoded part.header.name reached.modifications.length
    ⟨reached, swept.log ++ [remark], .ok ()⟩

/-- Both passes over a section, one behind the other. -/
def assemble (rules : Rules) (part : Section) : Outcome Section Unit :=
  (part.layOut rules).andThen fun part _ => part.encode rules

end Section

end TwoPass
