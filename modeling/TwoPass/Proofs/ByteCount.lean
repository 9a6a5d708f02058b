import TwoPass.Proofs.Encoded

/-!
# How the bytes of code are counted

An item counts one byte for two digits of its code.  The count is exact if the digits come in pairs,
and as long as the opcode is a byte they do.  A directory that is read from a text may have any integer
for an opcode, and code that is too wide for its format takes up as many columns as it needs.
`Instruction.CountsBytes` says for every opcode whether the count is exact.
-/

namespace TwoPass

namespace Text.Hex

/-- The columns that an integer needs: its digits, and one for a minus sign. -/
def columnsOf (number : Int) : Nat := (digits number.natAbs).length + if number < 0 then 1 else 0

/-- A written integer fills its field, or takes up the columns that it needs. -/
theorem length_paddedChars_eq_max {width : Nat} (room : 0 < width) (number : Int) :
    (paddedChars width number).length = max width (columnsOf number) := by
  rw [paddedChars, columnsOf]
  split
  · rw [List.length_cons, length_fill]
    omega
  · rw [length_fill, Nat.add_zero]

/-- A number has digits. -/
theorem length_digits_pos (number : Nat) : 0 < (digits number).length := by
  rw [digits]
  split <;> simp

/-- The digits of a number are those of its front part and the ones that are cut off. -/
theorem length_digits_of_div {number front count : Nat} (positive : 0 < front)
    (own : number / 16 ^ count = front) :
    (digits number).length = (digits front).length + count := by
  induction count generalizing number with
  | zero =>
    rw [Nat.pow_zero, Nat.div_one] at own
    rw [own, Nat.add_zero]
  | succ count ih =>
    rw [Nat.pow_succ', ← Nat.div_div_eq_div_mul] at own
    have large : ¬ number < 16 := by
      intro small
      rw [Nat.div_eq_of_lt small, Nat.zero_div] at own
      omega
    rw [digits, if_neg large, List.length_append, ih own, List.length_singleton, Nat.add_assoc]

/-- A code that continues a number above a byte, but for the last digit of it, needs the columns of the
number and those behind it, and the number has more than two digits. -/
theorem columnsOf_of_div {number front : Int} {count : Nat} (large : 256 ≤ front)
    (own : number / 16 ^ (count + 1) = front / 16) :
    columnsOf number = (digits front.toNat).length + count ∧ 2 < (digits front.toNat).length := by
  have nonnegative : 0 ≤ number := by
    by_contra negative
    have below := Int.ediv_neg_of_neg_of_pos (Int.not_le.1 negative)
      (Int.pow_pos (by decide) : (0 : Int) < 16 ^ (count + 1))
    omega
  obtain ⟨whole, rfl⟩ := Int.eq_ofNat_of_zero_le nonnegative
  obtain ⟨high, rfl⟩ := Int.eq_ofNat_of_zero_le (by omega : 0 ≤ front)
  have cut : whole / 16 ^ (count + 1) = high / 16 := by exact_mod_cast own
  have all := length_digits_of_div (by omega) cut
  have short := @length_digits_of_div high (high / 16) 1 (by omega) (by rw [Nat.pow_one])
  have shorter := @length_digits_of_div (high / 16) (high / 16 / 16) 1 (by omega) (by rw [Nat.pow_one])
  have some_digit := length_digits_pos (high / 16 / 16)
  rw [columnsOf, if_neg (Int.not_lt.2 nonnegative), Int.natAbs_natCast, Int.toNat_natCast]
  omega

end Text.Hex

namespace Encoding

variable {tables : Tables} {item : Item}

/-- In front of its last two digits and its field, the code of an instruction on memory is the opcode
without its last digit. -/
theorem memoryInstruction_div {mnemonic : String} {format : Format} {opcode : Int}
    {written : MachineCode}
    (succeeds : memoryInstruction tables item mnemonic format opcode = .ok written) :
    written.code / 2 ^ fieldWidth format / 256 = opcode / 16 := by
  obtain ⟨distance, _, _, code⟩ := memoryInstruction_eq_ok succeeds
  have flagged := item.flags.toNat_lt
  rw [code, memoryCode_div]
  omega

/-- In front of its last digits the code of a machine instruction is the opcode without its last digit,
unless it is that of the return instruction. -/
theorem machineCode_div {mnemonic : String} {format : Format} {opcode : Int} {written : MachineCode}
    (succeeds : machineCode tables item mnemonic format opcode = .ok written)
    (other : ¬ (format = .three ∧ mnemonic = "RSUB")) :
    written.code / 16 ^ (2 * format.size - 1) = opcode / 16 := by
  cases format with
  | one =>
    cases succeeds
    rfl
  | two =>
    obtain ⟨code, found, rfl⟩ := map_eq_ok.1 succeeds
    obtain ⟨first, second, _, _, small, slight, rfl⟩ := exists_of_registerCode found
    simp only [Format.size]
    omega
  | three =>
    rw [machineCode, if_neg fun returns => other ⟨rfl, returns⟩] at succeeds
    have front := memoryInstruction_div succeeds
    simp only [Format.size, fieldWidth] at front ⊢
    omega
  | four =>
    have front := memoryInstruction_div succeeds
    simp only [Format.size, fieldWidth] at front ⊢
    omega

end Encoding

/-- How the bytes of the code that an instruction got are counted. -/
structure Instruction.CountsBytes (instruction : Instruction) (code : String) (count : Nat) :
    Prop where
  /-- The count is half the number of digits; a digit that is left over does not count. -/
  half : count = code.length / 2
  /-- No digit is left over if there is no opcode, or if it is a byte. -/
  bytes : instruction.hasByteOpcode = true → 2 * count = code.length
  /-- None is left over in the code of the return instruction, whatever its opcode. -/
  returns : ∀ opcode, instruction.action = .machine .three opcode → instruction.mnemonic = "RSUB" →
    2 * count = code.length
  /-- With an opcode above a byte none is left over exactly if the opcode has an even number of
  digits. -/
  wide : ∀ format opcode, instruction.action = .machine format opcode →
    ¬ (format = .three ∧ instruction.mnemonic = "RSUB") → 256 ≤ opcode →
      (2 * count = code.length ↔ (Text.Hex.digits opcode.toNat).length % 2 = 0)
  /-- With a negative opcode the code is a negative number that continues it, and none is left over
  exactly if the number with its sign fits into the format or needs an even number of columns. -/
  signed : ∀ format opcode, instruction.action = .machine format opcode →
    ¬ (format = .three ∧ instruction.mnemonic = "RSUB") → opcode < 0 →
      ∃ number < 0, code = Text.Hex.padded (2 * format.size) number ∧
        number / 16 ^ (2 * format.size - 1) = opcode / 16 ∧
        (2 * count = code.length ↔
          Text.Hex.columnsOf number ≤ 2 * format.size ∨ Text.Hex.columnsOf number % 2 = 0)

namespace Item

variable {directory : Directory} {tables : Tables} {item : Item} {instruction : Instruction}

/-- An item that holds code and can be encoded gets code, and counts its bytes. -/
theorem hasCode_of_encode (known : item.instruction = some instruction)
    (holds : instruction.holdsCode = true)
    (succeeds : (item.encode directory tables).result = .ok ()) :
    ∃ text, (item.encode directory tables).state.1.HasCode text := by
  rcases Instruction.holdsCode_cases holds with ⟨format, opcode, action⟩ | data
  · rw [encode_machine known action] at succeeds ⊢
    split at succeeds
    · cases succeeds
    · exact ⟨_, rfl, rfl⟩
  · rw [encode_data known data] at succeeds ⊢
    split at succeeds
    · exact ⟨_, rfl, rfl⟩
    · cases succeeds

/-- An item without code counts the bytes of the code that it gets. -/
theorem byteSize_of_encode (known : item.instruction = some instruction) (empty : item.code = none)
    {code : String} (written : (item.encode directory tables).state.1.code = some code) :
    (item.encode directory tables).state.1.byteSize = code.length / 2 := by
  cases result : (item.encode directory tables).result with
  | error failure =>
    rw [code_of_encode_error known result, empty] at written
    cases written
  | ok value =>
    cases holds : instruction.holdsCode with
    | false =>
      rw [encode_plain known holds, Outcome.done, withOwnCode, empty] at written
      cases empty.symm.trans written
    | true =>
      obtain ⟨text, own, size⟩ := hasCode_of_encode known holds result
      obtain rfl : text = code := Option.some.inj (own.symm.trans written)
      exact size

/-- Half the digits of a number that is written to a format are exact if the number fits into the format
or needs an even number of columns. -/
theorem twice_half_length_padded (format : Format) (number : Int) :
    2 * ((Text.Hex.padded (2 * format.size) number).length / 2) =
        (Text.Hex.padded (2 * format.size) number).length ↔
      Text.Hex.columnsOf number ≤ 2 * format.size ∨ Text.Hex.columnsOf number % 2 = 0 := by
  have room : 0 < 2 * format.size := by cases format <;> decide
  rw [Text.Hex.padded, String.length_ofList, Text.Hex.length_paddedChars_eq_max room]
  omega

/-- The bytes of the code that an instruction gets are counted. -/
theorem instruction_countsBytes_of_encode (known : item.instruction = some instruction)
    (empty : item.code = none) {code : String}
    (written : (item.encode directory tables).state.1.code = some code) :
    instruction.CountsBytes code (item.encode directory tables).state.1.byteSize := by
  have size := byteSize_of_encode known empty written
  refine ⟨size, fun byte => ?_, fun opcode action own => ?_, fun format opcode action other large => ?_,
    fun format opcode action other negative => ?_⟩
  · have length := (bytes_of_encode_code known byte empty written).2.length
    rw [String.length_toList] at length
    omega
  · obtain ⟨found, coded, rfl⟩ := exists_machineCode_of_encode known action empty written
    obtain ⟨least, most⟩ := (Encoding.machineCode_bounds_iff coded).2 (.inr ⟨rfl, own⟩)
    have length := (Encoding.bytes_padded (by decide) least most).length
    rw [String.length_toList] at length
    omega
  · obtain ⟨found, coded, rfl⟩ := exists_machineCode_of_encode known action empty written
    have front := Encoding.machineCode_div coded other
    have some_byte : 2 * format.size - 1 = 2 * (format.size - 1) + 1 := by cases format <;> rfl
    rw [some_byte] at front
    obtain ⟨columns, many⟩ := Text.Hex.columnsOf_of_div large front
    rw [size, twice_half_length_padded, columns]
    omega
  · obtain ⟨found, coded, rfl⟩ := exists_machineCode_of_encode known action empty written
    have front := Encoding.machineCode_div coded other
    have below : found.code < 0 := by
      by_contra least
      have positive : (0 : Int) < 16 ^ (2 * format.size - 1) := Int.pow_pos (by decide)
      have := Int.ediv_nonneg (Int.not_lt.1 least) (Int.le_of_lt positive)
      omega
    rw [size]
    exact ⟨found.code, below, rfl, front, twice_half_length_padded format found.code⟩

/-- Whether an item counts the bytes of its code, if it has any. -/
def CountsBytes (item : Item) : Prop :=
  ∀ code, item.code = some code →
    ∃ instruction, item.instruction = some instruction ∧ instruction.CountsBytes code item.byteSize

/-- An item without code counts the bytes of the code that it gets, if any. -/
theorem countsBytes_of_encode (known : item.instruction = some instruction)
    (empty : item.code = none) : (item.encode directory tables).state.1.CountsBytes := by
  intro code written
  obtain ⟨flags, text, count, same⟩ := encode_item known directory tables
  refine ⟨instruction, ?_, instruction_countsBytes_of_encode known empty written⟩
  rw [same]
  exact known

end Item

end TwoPass
