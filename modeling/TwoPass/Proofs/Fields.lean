import TwoPass.Proofs.Encoded

/-!
# The fields of an instruction on memory

The code of an instruction on memory is one number: the upper six bits of the opcode, the six flags,
and the lowest bits for a displacement or an address.  A machine that knows the format finds the
flags and these bits again.  It takes the bits as a signed number if it counts from the program
counter, and as an unsigned one otherwise.
-/

namespace TwoPass

namespace Encoding

/-- The flags in the code of an instruction on memory. -/
def flagsIn (format : Format) (code : Int) : Flags :=
  Flags.ofNat (code / 2 ^ fieldWidth format % 64).toNat

/-- The lowest bits in the code of an instruction on memory. -/
def fieldIn (format : Format) (code : Int) : Int := code % 2 ^ fieldWidth format

/-- The displacement or the address that a machine finds in the code of an instruction on memory:
twelve signed bits from the program counter on, and unsigned bits otherwise. -/
def offsetIn (format : Format) (code : Int) : Int :=
  if (flagsIn format code).p then (fieldIn format code).bmod 4096 else fieldIn format code

variable (opcode : Int) (flags : Flags) (format : Format) (distance : Int)

/-- The flags of a code are found again. -/
@[simp]
theorem flagsIn_memoryCode :
    flagsIn format (memoryCode opcode flags (fieldWidth format) distance) = flags := by
  have small := flags.toNat_lt
  have own : (opcode / 4 * 64 + (flags.toNat : Int)) % 64 = flags.toNat := by omega
  rw [flagsIn, memoryCode_div, own, Int.toNat_natCast, Flags.ofNat_toNat]

/-- The lowest bits of a code are those of the displacement. -/
@[simp]
theorem fieldIn_memoryCode :
    fieldIn format (memoryCode opcode flags (fieldWidth format) distance) =
      distance % 2 ^ fieldWidth format := by
  rw [fieldIn, memoryCode, fieldSpan_eq, Int.add_comm, Int.add_mul_emod_self_right, Int.emod_emod]

end Encoding

namespace Item

/-- The object code of an item as a number. -/
def codeNumber? (item : Item) : Option Int :=
  item.code.bind fun code => Text.Hex.integer? code.toList

/-- Object code is read back as the number that was written. -/
theorem HasCode.codeNumber?_eq {item : Item} {width : Nat} {number : Int}
    (code : item.HasCode (Text.Hex.padded width number)) : item.codeNumber? = some number := by
  rw [codeNumber?, code.1, Option.bind_some, Text.Hex.padded, String.toList_ofList,
    Text.Hex.integer?_paddedChars]

end Item

end TwoPass
