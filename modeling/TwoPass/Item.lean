import TwoPass.Flags
import TwoPass.Statement

/-!
# Items

An item is a statement under assembly: the statement as it was read, and what the two passes find
out about it.
-/

namespace TwoPass

/-- A statement and the state of its assembly. -/
structure Item where
  /-- The statement as it was read. -/
  statement : Statement
  /-- The instruction that the operator names, once it was looked up. -/
  instruction : Option Instruction := none
  /-- The address that the first pass assigns. -/
  location : Int := 0
  /-- The addressing flags that the second pass sets. -/
  flags : Flags := {}
  /-- The object code that the second pass writes, in hexadecimal. -/
  code : Option String := none
  /-- The number of bytes of the object code. -/
  byteSize : Nat := 0
  /-- The texts of the literals placed here. -/
  pool : List String := []
  deriving DecidableEq, Repr

namespace Item

/-- Looks the operator up if that was not done before, and remembers the instruction. -/
def identify (item : Item) (lookup : String → Option Instruction) :
    Except Diagnostic (Item × Instruction) :=
  match item.instruction with
  | some instruction => .ok (item, instruction)
  | none => match item.statement.resolve (lookup item.statement.operator) with
    | .ok instruction => .ok ({ item with instruction := some instruction }, instruction)
    | .error diagnostic => .error diagnostic

/-- An item in one line. -/
def summary (item : Item) : String :=
  "Token(location=" ++ Text.Hex.padded 4 item.location ++
    ", label=" ++ Text.quotedOr item.statement.label ++
    ", operator=" ++ Text.quoted item.statement.operator ++
    ", operands=" ++ (if item.statement.operands.isEmpty then Text.quotedOr none
      else Text.quotedList item.statement.operands) ++
    ", nixbpe=" ++ item.flags.bits ++ ")"

end Item

end TwoPass
