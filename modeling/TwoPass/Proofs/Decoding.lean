import TwoPass.Proofs.Encoded
import TwoPass.Proofs.ObjectFile

/-!
# Decoding object code

The object code of machine instructions can be taken apart again by a reader that knows nothing but
the built-in instructions.  The upper six bits of a byte name the instruction, its format or, for an
instruction on memory, the last of the flags tells how many digits belong to it, and the digits of
each field stand side by side.  `decode` is the reader: from the codes of the items of a section,
written one behind the other, it finds their instructions in order.
-/

namespace TwoPass

namespace Decoding

/-- What stands behind the opcode of an instruction. -/
inductive Fields where
  /-- Nothing. -/
  | none
  /-- Two fields of four bits. -/
  | registers (first second : Int)
  /-- The flags, and a displacement or an address. -/
  | memory (flags : Flags) (address : Int)
  deriving DecidableEq, Repr

/-- An instruction as its code shows it. -/
structure Decoded where
  /-- The name of the instruction, without the mark of the extended format. -/
  mnemonic : String
  /-- The format, which is the length in bytes. -/
  format : Format
  /-- What stands behind the opcode. -/
  fields : Fields
  deriving DecidableEq, Repr

/-- The built-in machine instruction whose opcode has the given upper six bits. -/
def entry? (bits : Int) : Option Instruction :=
  Directory.machineInstructions.find? fun instruction =>
    instruction.opcode?.any fun opcode => opcode / 4 = bits

/-- The fields of an instruction on memory, whose first byte is read already: the lower half of the
flags, of which the last tells the format, and the digits left of that format. -/
def decodeMemory (mnemonic : String) (byte : Int) (text : List Char) :
    Option (Decoded × List Char) := do
  let (low, text) ← ObjectFile.number 1 text
  let flags := Flags.ofNat (byte % 4 * 16 + low).toNat
  let format : Format := if flags.e then .four else .three
  let (address, text) ← ObjectFile.number (2 * format.size - 3) text
  return (⟨mnemonic, format, .memory flags address⟩, text)

/-- Reads one instruction and leaves the digits behind it. -/
def decodeOne (text : List Char) : Option (Decoded × List Char) := do
  let (byte, text) ← ObjectFile.number 2 text
  let entry ← entry? (byte / 4)
  match entry.action with
  | .machine .one _ => return (⟨entry.mnemonic, .one, .none⟩, text)
  | .machine .two _ => do
    let (first, text) ← ObjectFile.number 1 text
    let (second, text) ← ObjectFile.number 1 text
    return (⟨entry.mnemonic, .two, .registers first second⟩, text)
  | .machine _ _ => decodeMemory entry.mnemonic byte text
  | .directive _ => none

/-- A number is cut off in front of what is left. -/
theorem length_of_number {width : Nat} {text rest : List Char} {value : Int}
    (found : ObjectFile.number width text = some (value, rest)) :
    rest.length + width = text.length := by
  rw [ObjectFile.number, ObjectFile.field] at found
  by_cases long : width ≤ text.length
  · rw [if_pos long, Option.bind_eq_bind, Option.bind_some] at found
    obtain ⟨number, _, same⟩ := Option.bind_eq_some_iff.1 found
    cases same
    rw [List.length_drop]
    omega
  · rw [if_neg long] at found
    cases found

/-- An instruction takes up at least one byte. -/
theorem length_lt_of_decodeOne {text rest : List Char} {decoded : Decoded}
    (found : decodeOne text = some (decoded, rest)) : rest.length < text.length := by
  obtain ⟨⟨byte, behind⟩, first, found⟩ := Option.bind_eq_some_iff.1 found
  have byteLength := length_of_number first
  obtain ⟨entry, _, found⟩ := Option.bind_eq_some_iff.1 found
  have shorter : rest.length ≤ behind.length := by
    simp only at found
    split at found
    · cases found
      exact Nat.le_refl _
    · obtain ⟨⟨high, middle⟩, read, found⟩ := Option.bind_eq_some_iff.1 found
      obtain ⟨⟨low, last⟩, further, found⟩ := Option.bind_eq_some_iff.1 found
      have highLength : middle.length + 1 = behind.length := length_of_number read
      have lowLength : last.length + 1 = middle.length := length_of_number further
      cases found
      show last.length ≤ behind.length
      omega
    · obtain ⟨⟨low, middle⟩, read, found⟩ := Option.bind_eq_some_iff.1 found
      obtain ⟨⟨address, last⟩, further, found⟩ := Option.bind_eq_some_iff.1 found
      have lowLength : middle.length + 1 = behind.length := length_of_number read
      have addressLength : last.length + _ = middle.length := length_of_number further
      cases found
      omega
    · cases found
  omega

/-- Reads instructions up to the end of the text. -/
def decode (text : List Char) : Option (List Decoded) :=
  if text.isEmpty then some []
  else match _found : decodeOne text with
    | none => none
    | some (decoded, rest) => (decode rest).map fun later => decoded :: later
termination_by text.length
decreasing_by exact length_lt_of_decodeOne _found

/-- Nothing is left to read at the end of the text. -/
theorem decode_nil : decode [] = some [] := by
  rw [decode]
  rfl

/-- An instruction that is read in front of others is the first of them. -/
theorem decode_of_decodeOne {text rest : List Char} {decoded : Decoded}
    (found : decodeOne text = some (decoded, rest)) :
    decode text = (decode rest).map fun later => decoded :: later := by
  have filled : text.isEmpty = false := by
    have shorter := length_lt_of_decodeOne found
    cases text with
    | nil => exact absurd shorter (Nat.not_lt_zero _)
    | cons c others => rfl
  rw [decode, filled, if_neg Bool.false_ne_true]
  split
  · rename_i none
    rw [found] at none
    cases none
  · rename_i other behind again
    rw [found] at again
    cases again
    rfl

/-- A digit is read back. -/
theorem number_digit {value : Nat} (small : value ≤ 15) (rest : List Char) :
    ObjectFile.number 1 (Text.Hex.paddedChars 1 value ++ rest) = some ((value : Int), rest) :=
  ObjectFile.number_append (by decide) (Int.natCast_nonneg value) (by omega) rest

/-- A digit is four bits. -/
theorem two_pow_digits (digits : Nat) : (2 : Int) ^ (4 * digits) = 16 ^ digits := by
  rw [pow_mul]
  norm_num

/-- A number cut to the bits of some digits fits them. -/
theorem emod_digits (digits : Nat) (number : Int) :
    0 ≤ number % 2 ^ (4 * digits) ∧ number % 2 ^ (4 * digits) < 16 ^ digits := by
  have positive : (0 : Int) < 2 ^ (4 * digits) := by positivity
  rw [← two_pow_digits]
  exact ⟨Int.emod_nonneg number (Int.ne_of_gt positive), Int.emod_lt_of_pos number positive⟩

/-- The fields of an instruction on memory stand side by side: six bits of opcode and two flags, the
other four flags, and the displacement. -/
theorem padded_memoryCode {opcode : Int} (least : 0 ≤ opcode) (flags : Flags) {digits : Nat}
    (room : 0 < digits) (distance : Int) :
    Text.Hex.paddedChars (3 + digits) (Encoding.memoryCode opcode flags (4 * digits) distance) =
      Text.Hex.paddedChars 2 (opcode / 4 * 4 + (flags.toNat / 16 : Nat)) ++
        Text.Hex.paddedChars 1 (flags.toNat % 16 : Nat) ++
          Text.Hex.paddedChars digits (distance % 2 ^ (4 * digits)) := by
  have address := emod_digits digits distance
  have head : opcode / 4 * 64 + (flags.toNat : Int) =
      (opcode / 4 * 4 + (flags.toNat / 16 : Nat)) * 16 ^ 1 + (flags.toNat % 16 : Nat) := by
    omega
  have front : Text.Hex.paddedChars 3 (opcode / 4 * 64 + flags.toNat) =
      Text.Hex.paddedChars 2 (opcode / 4 * 4 + (flags.toNat / 16 : Nat)) ++
        Text.Hex.paddedChars 1 (flags.toNat % 16 : Nat) := by
    rw [head]
    exact Text.Hex.paddedChars_append (by decide) (by decide) (by omega) (by omega) (by omega)
  rw [Encoding.memoryCode, Encoding.fieldSpan_eq, ← front]
  rw [two_pow_digits] at address ⊢
  exact Text.Hex.paddedChars_append (by decide) room (by omega) address.1 address.2

section Fields

variable {entry : Instruction} {opcode : Int} (least : 0 ≤ opcode) (most : opcode < 256)
  (read : entry? (opcode / 4) = some entry)

include least most read

/-- An instruction of one byte is read back. -/
theorem decodeOne_one (action : entry.action = .machine .one opcode) (rest : List Char) :
    decodeOne (Text.Hex.paddedChars 2 opcode ++ rest) =
      some (⟨entry.mnemonic, .one, .none⟩, rest) := by
  rw [decodeOne, ObjectFile.number_append (by decide) least (by omega)]
  simp [read, action]

/-- An instruction on registers is read back. -/
theorem decodeOne_two (action : entry.action = .machine .two opcode) {high low : Nat}
    (upper : high ≤ 15) (lower : low ≤ 15) (rest : List Char) :
    decodeOne (Text.Hex.paddedChars 4 (opcode * 256 + high * 16 + low) ++ rest) =
      some (⟨entry.mnemonic, .two, .registers high low⟩, rest) := by
  have fields : Text.Hex.paddedChars 4 (opcode * 256 + high * 16 + low) =
      Text.Hex.paddedChars 2 opcode ++
        (Text.Hex.paddedChars 1 high ++ Text.Hex.paddedChars 1 low) := by
    rw [← Text.Hex.paddedChars_append (by decide) (by decide) (by omega) (by omega) (by omega),
      ← Text.Hex.paddedChars_append (by decide) (by decide) least (by omega) (by omega)]
    congr 1
    omega
  rw [fields, decodeOne, List.append_assoc,
    ObjectFile.number_append (by decide) least (by omega)]
  simp [read, action, number_digit upper, number_digit lower]

/-- An instruction on memory is read back, in the format that its last flag tells. -/
theorem decodeOne_memory (action : entry.action = .machine .three opcode) {format : Format}
    {flags : Flags} (wide : format = if flags.e then .four else .three) (distance : Int)
    (rest : List Char) :
    decodeOne (Text.Hex.paddedChars (2 * format.size)
        (Encoding.memoryCode opcode flags (Encoding.fieldWidth format) distance) ++ rest) =
      some (⟨entry.mnemonic, format, .memory flags (distance % 2 ^ Encoding.fieldWidth format)⟩,
        rest) := by
  have digits : Encoding.fieldWidth format = 4 * (2 * format.size - 3) ∧
      0 < 2 * format.size - 3 ∧ 2 * format.size = 3 + (2 * format.size - 3) := by
    rw [wide]
    cases flags.e <;> decide
  obtain ⟨width, room, length⟩ := digits
  have bits := flags.toNat_lt
  have low : flags.toNat % 16 ≤ 15 := by omega
  have byte : (opcode / 4 * 4 + (flags.toNat / 16 : Nat)) / 4 = opcode / 4 := by omega
  have upper : (opcode / 4 * 4 + (flags.toNat / 16 : Nat)) % 4 = (flags.toNat / 16 : Nat) := by omega
  have whole : ((flags.toNat / 16 : Nat) * 16 + (flags.toNat % 16 : Nat) : Int).toNat =
      flags.toNat := by omega
  rw [length, width, padded_memoryCode least flags room, decodeOne, List.append_assoc,
    List.append_assoc, ObjectFile.number_append (by decide) (by omega) (by omega)]
  simp only [Option.bind_eq_bind, Option.bind_some, byte, read, action, decodeMemory, upper,
    number_digit low, whole, Flags.ofNat_toNat, ← wide]
  have address := emod_digits (2 * format.size - 3) distance
  rw [ObjectFile.number_append room address.1 address.2]
  rfl

end Fields

section Table

variable {operator : String} {instruction : Instruction}

/-- Every listed opcode is a byte, and its upper six bits tell it from all others. -/
theorem entry?_of_listed : ∀ entry ∈ Directory.machineInstructions, ∀ opcode ∈ entry.opcode?,
    0 ≤ opcode ∧ opcode < 256 ∧ entry? (opcode / 4) = some entry := by
  decide +kernel

/-- No instruction is listed in the extended format, and of those on memory only the return needs no
operand. -/
theorem size_of_listed : ∀ entry ∈ Directory.machineInstructions, 0 ≤ entry.neededOperands ∧
    entry.size < 4 ∧ (entry.size = 3 → entry.mnemonic = "RSUB" ∨ 0 < entry.neededOperands) ∧
      (entry.mnemonic = "RSUB" → entry.opcode? = some 0x4C) := by
  decide +kernel

/-- A machine instruction of the built-in directory is a listed one or the extended variant of one. -/
theorem listed_of_lookup (found : Directory.builtin.lookup operator = some instruction)
    (machine : instruction.isDirective = false) :
    instruction ∈ Directory.machineInstructions ∨
      ∃ entry ∈ Directory.machineInstructions, entry.extended? = some instruction := by
  have listed {name : String} {entry : Instruction}
      (found : Directory.builtin.find? name = some entry) (machine : entry.isDirective = false) :
      entry ∈ Directory.machineInstructions := by
    obtain ⟨front, back, split, _⟩ := List.lookup_eq_some_iff.1 found
    have mem : (name, entry) ∈ Directory.builtin.entries.entries := by simp [split]
    obtain ⟨own, inside, same⟩ := List.mem_map.1 mem
    cases same
    rcases List.mem_append.1 inside with own | directive
    · exact own
    · obtain ⟨directive, _, rfl⟩ := List.mem_map.1 directive
      cases machine
  rw [Directory.lookup.eq_def] at found
  split at found
  · obtain ⟨entry, base, variant⟩ := Option.bind_eq_some_iff.1 found
    refine .inr ⟨entry, listed base ?_, variant⟩
    rw [Instruction.extended?] at variant
    split at variant
    · rename_i action
      simp [Instruction.isDirective, action]
    · cases variant
  · exact .inl (listed found machine)

/-- A machine instruction of the built-in directory is listed under its name, in format three if it is
extended; the operands that it needs are those of its entry. -/
theorem entry_of_lookup (found : Directory.builtin.lookup operator = some instruction)
    {format : Format} {opcode : Int} (action : instruction.action = .machine format opcode) :
    ∃ entry ∈ Directory.machineInstructions, entry.mnemonic = instruction.mnemonic ∧
      entry.neededOperands = instruction.neededOperands ∧
      entry.action = .machine (if format = .four then .three else format) opcode ∧
      (format = .four → entry.neededOperands ≠ 0) := by
  have machine : instruction.isDirective = false := by simp [Instruction.isDirective, action]
  rcases listed_of_lookup found machine with listed | ⟨entry, listed, variant⟩
  · have short : format ≠ .four := by
      rintro rfl
      have size := (size_of_listed instruction listed).2.1
      simp [Instruction.size, action, Format.size] at size
    exact ⟨instruction, listed, rfl, rfl, by rw [if_neg short, action], fun long => absurd long short⟩
  · refine ⟨entry, listed, ?_⟩
    rw [Instruction.extended?] at variant
    split at variant
    · rename_i own three
      by_cases none : entry.neededOperands = 0
      · rw [if_pos none] at variant
        cases variant
      · rw [if_neg none] at variant
        cases variant
        cases action
        exact ⟨rfl, rfl, three, fun _ => none⟩
    · cases variant

end Table

section Registers

variable {statement : Statement} {mnemonic : String}

/-- The second field of an instruction on registers. -/
inductive SecondField (mnemonic : String) (statement : Statement) : Nat → Prop
  /-- A shift count is a number. -/
  | count {operand : String} {value : Nat} (shift : Encoding.isShift mnemonic = true)
      (second : statement.second? = some operand)
      (spelled : Operand.numeral? operand = some (.ok value)) :
      SecondField mnemonic statement value
  /-- Other instructions have a register there. -/
  | register {name : String} {number : Nat} (plain : Encoding.isShift mnemonic = false)
      (second : statement.second? = some name)
      (named : Register.number name = .ok (some number)) : SecondField mnemonic statement number
  /-- Without a second operand the field is zero. -/
  | absent (plain : Encoding.isShift mnemonic = false) (blank : statement.second?.getD "" = "") :
      SecondField mnemonic statement 0

/-- A register operand names a register. -/
theorem register_eq_ok {name : Option String} {number : Nat}
    (found : Encoding.register statement name = .ok number) :
    ∃ given, name = some given ∧ Register.number given = .ok (some number) := by
  rw [Encoding.register.eq_def] at found
  simp only at found
  split at found
  · cases found
  · cases found
  · rename_i given _
    split at found
    · cases found
    · rename_i named
      cases found
      exact ⟨given, rfl, named⟩
    · cases found

/-- The second field is a shift count, a register or zero. -/
theorem secondField_of_ok {value : Nat}
    (found : Encoding.secondField mnemonic statement = .ok value) :
    SecondField mnemonic statement value := by
  rw [Encoding.secondField] at found
  by_cases shift : Encoding.isShift mnemonic = true
  · rw [if_pos shift] at found
    cases spelled : statement.second?.bind Operand.numeral? with
    | none =>
      rw [spelled] at found
      cases found
    | some number =>
      rw [spelled] at found
      obtain ⟨operand, second, numeral⟩ := Option.bind_eq_some_iff.1 spelled
      have read : number = .ok value := found
      rw [read] at numeral
      exact .count shift second numeral
  · have plain : Encoding.isShift mnemonic = false := Bool.not_eq_true _ ▸ shift
    rw [if_neg shift] at found
    split at found
    · rename_i second
      cases found
      exact .absent plain (by rw [second]; rfl)
    · rename_i second
      cases found
      exact .absent plain (by rw [second]; rfl)
    · rename_i name _ second
      obtain ⟨given, same, named⟩ := register_eq_ok found
      cases same
      exact .register plain second named

/-- The code of an instruction on registers holds its two fields. -/
theorem registerCode_eq_ok {opcode code : Int}
    (found : Encoding.registerCode mnemonic opcode statement = .ok code) :
    ∃ operand, ∃ first second : Nat, statement.first? = some operand ∧
      Register.number operand = .ok (some first) ∧ SecondField mnemonic statement second ∧
        first ≤ 15 ∧ second ≤ 15 ∧ code = opcode * 256 + first * 16 + second := by
  obtain ⟨first, second, named, further, small, slight, same⟩ :=
    Encoding.exists_of_registerCode found
  obtain ⟨operand, given, number⟩ := register_eq_ok named
  exact ⟨operand, first, second, given, number, secondField_of_ok further, small, slight, same⟩

end Registers

end Decoding

namespace Item

open Decoding

variable {tables : Tables} {item : Item} {instruction : Instruction} {format : Format} {opcode : Int}

/-- The digits of the object code of an item. -/
def codeText (item : Item) : List Char := (item.code.getD "").toList

/-- Whether the fields read behind an opcode are those of an item. -/
inductive HasFields (tables : Tables) (item : Item) (mnemonic : String) :
    Format → Decoding.Fields → Prop
  /-- An instruction of one byte has none. -/
  | one : HasFields tables item mnemonic .one .none
  /-- The first field of an instruction on registers is the number of a register. -/
  | two {operand : String} {first second : Nat} (given : item.statement.first? = some operand)
      (named : Register.number operand = .ok (some first))
      (further : SecondField mnemonic item.statement second) :
      HasFields tables item mnemonic .two (.registers first second)
  /-- The return instruction has one code, whatever its operands. -/
  | goBack (own : mnemonic = "RSUB") (code : item.code = some "4F0000") :
      HasFields tables item mnemonic .three (.memory Flags.simple 0)
  /-- An instruction on memory has the flags of the item and the displacement of its operand. -/
  | memory {format : Format} {operand : String} {distance : Int} {needed : List Modification}
      (wide : format = .three ∧ mnemonic ≠ "RSUB" ∨ format = .four)
      (given : item.statement.first? = some operand)
      (aims : Encoding.Aims tables item format operand distance needed) :
      HasFields tables item mnemonic format
        (.memory item.flags (distance % 2 ^ Encoding.fieldWidth format))

/-- Whether an instruction that was read is that of an item. -/
structure Shows (tables : Tables) (item : Item) (decoded : Decoded) : Prop where
  /-- The name and the format are those of the instruction of the item. -/
  instruction : ∃ instruction opcode, item.instruction = some instruction ∧
    instruction.mnemonic = decoded.mnemonic ∧ instruction.action = .machine decoded.format opcode
  /-- The length is the number of bytes of the item. -/
  size : item.byteSize = decoded.format.size
  /-- The fields are those of the item. -/
  fields : item.HasFields tables decoded.mnemonic decoded.format decoded.fields

/-- An instruction that needs an operand has one. -/
theorem Valid.exists_first {directory : Directory} (valid : item.Valid directory)
    (known : item.instruction = some instruction) (needs : 0 < instruction.neededOperands) :
    ∃ operand, item.statement.first? = some operand := by
  obtain ⟨own, resolved, same⟩ := valid
  rw [known] at same
  cases same
  rw [Statement.eq_of_resolve resolved, Statement.resolve] at resolved
  split at resolved
  · cases resolved
  · rename_i enough
    have filled : 0 < item.statement.operands.length := by omega
    exact ⟨item.statement.operands[0], List.getElem?_eq_getElem filled⟩

/-- The code of a machine instruction takes up as many bytes as its format says. -/
theorem HasCode.size_eq {written : Encoding.MachineCode} {mnemonic : String}
    (code : item.HasCode (Text.Hex.padded (2 * format.size) written.code)) (least : 0 ≤ opcode)
    (most : opcode < 256)
    (coded : Encoding.machineCode tables item mnemonic format opcode = .ok written) :
    item.byteSize = format.size := by
  have room : 0 < format.size := by cases format <;> decide
  have bounds := Encoding.machineCode_bounds least most coded
  have length := (Encoding.bytes_padded room bounds.1 bounds.2).length
  rw [String.length_toList] at length
  rw [code.2, length]
  omega

/-- The digits of the code that an item has. -/
theorem HasCode.codeText_eq {width : Nat} {number : Int}
    (code : item.HasCode (Text.Hex.padded width number)) :
    item.codeText = Text.Hex.paddedChars width number := by
  rw [codeText, code.1, Option.getD_some, Text.Hex.padded, String.toList_ofList]

section Read

variable {entry : Instruction} {written : Encoding.MachineCode}

/-- Whether the code that is written for an item is read as an instruction of a given name and format,
with the fields of the item. -/
def ReadsBack (tables : Tables) (item : Item) (mnemonic : String) (format : Format) (code : Int) :
    Prop :=
  ∃ fields, item.HasFields tables mnemonic format fields ∧ ∀ rest,
    Decoding.decodeOne (Text.Hex.paddedChars (2 * format.size) code ++ rest) =
      some (⟨mnemonic, format, fields⟩, rest)

/-- The code of an instruction on memory is read back. -/
theorem readsBack_memoryInstruction (least : 0 ≤ opcode) (most : opcode < 256)
    (read : entry? (opcode / 4) = some entry) (action : entry.action = .machine .three opcode)
    (wide : format = .three ∧ entry.mnemonic ≠ "RSUB" ∨ format = .four) {operand : String}
    (first : item.statement.first? = some operand)
    (flags : item.flags = Encoding.ownFlags format item.statement)
    (coded : Encoding.memoryInstruction tables item entry.mnemonic format opcode = .ok written) :
    item.ReadsBack tables entry.mnemonic format written.code := by
  obtain ⟨distance, aims, same⟩ := Encoding.aims_of_memoryInstruction flags first coded
  -- The last flag is set exactly in format four, so the reader takes the right number of digits.
  have extended : format = if item.flags.e then .four else .three := by
    rw [flags, Encoding.ownFlags_of_first first]
    rcases wide with ⟨rfl, _⟩ | rfl <;> cases Operand.addressing operand <;> rfl
  refine ⟨_, .memory wide first aims, fun rest => ?_⟩
  rw [same]
  exact decodeOne_memory least most read action extended distance rest

/-- The code of the return instruction is read back. -/
theorem readsBack_returnCode (read : entry? (0x4C / 4) = some entry)
    (action : entry.action = .machine .three 0x4C) (own : entry.mnemonic = "RSUB")
    (code : item.HasCode (Text.Hex.padded 6 Encoding.returnCode)) :
    item.ReadsBack tables entry.mnemonic .three Encoding.returnCode := by
  have text : Text.Hex.padded 6 Encoding.returnCode = "4F0000" := by decide +kernel
  have same : Encoding.returnCode = Encoding.memoryCode 0x4C Flags.simple 12 0 := by decide
  rw [text] at code
  refine ⟨_, .goBack own code.1, fun rest => ?_⟩
  rw [same]
  exact decodeOne_memory (by decide) (by decide) read action rfl 0 rest

/-- The code of a machine instruction is read back under the name of its entry. -/
theorem readsBack_machineCode (flags : item.flags = Encoding.ownFlags format item.statement)
    (coded : Encoding.machineCode tables item entry.mnemonic format opcode = .ok written)
    (code : item.HasCode (Text.Hex.padded (2 * format.size) written.code))
    (listed : entry ∈ Directory.machineInstructions)
    (action : entry.action = .machine (if format = .four then .three else format) opcode)
    (given : 0 < entry.neededOperands → ∃ operand, item.statement.first? = some operand)
    (needs : format = .four → entry.neededOperands ≠ 0) :
    item.ReadsBack tables entry.mnemonic format written.code := by
  have known : entry.opcode? = some opcode := by simp [Instruction.opcode?, action]
  obtain ⟨least, most, read⟩ := entry?_of_listed entry listed opcode known
  obtain ⟨sign, _, single, back⟩ := size_of_listed entry listed
  cases format with
  | one =>
    cases coded
    exact ⟨_, .one, decodeOne_one least most read action⟩
  | two =>
    obtain ⟨number, found, rfl⟩ := map_eq_ok.1 coded
    obtain ⟨operand, first, second, given, named, further, upper, lower, rfl⟩ :=
      registerCode_eq_ok found
    exact ⟨_, .two given named further, decodeOne_two least most read action upper lower⟩
  | three =>
    rw [Encoding.machineCode] at coded
    by_cases own : entry.mnemonic = "RSUB"
    · rw [if_pos own] at coded
      cases coded
      obtain rfl : opcode = 0x4C := Option.some.inj (known.symm.trans (back own))
      exact readsBack_returnCode read action own code
    · rw [if_neg own] at coded
      have size : entry.size = 3 := by simp [Instruction.size, action, Format.size]
      obtain ⟨operand, first⟩ := given ((single size).resolve_left own)
      exact readsBack_memoryInstruction least most read action (.inl ⟨rfl, own⟩) first flags coded
  | four =>
    have some_operand := needs rfl
    obtain ⟨operand, first⟩ := given (by omega)
    exact readsBack_memoryInstruction least most read action (.inr rfl) first flags coded

end Read

/-- The code of a machine instruction of the built-in directory is read back, whatever stands behind
it. -/
theorem Encoded.decodeOne {needed : List Modification} (encoded : item.Encoded tables needed)
    (valid : item.Valid .builtin) (machine : item.isMachine = true) :
    ∃ decoded, item.Shows tables decoded ∧
      ∀ rest, Decoding.decodeOne (item.codeText ++ rest) = some (decoded, rest) := by
  obtain ⟨instruction, format, opcode, known, action⟩ := exists_of_isMachine machine
  obtain ⟨flags, written, coded, _, code⟩ := encoded.machineCode known action
  obtain ⟨own, resolved, same⟩ := valid
  obtain rfl : own = instruction := Option.some.inj (same.symm.trans known)
  obtain ⟨entry, listed, mnemonic, operands, listedAction, needs⟩ :=
    entry_of_lookup (Statement.eq_of_resolve resolved) action
  have bounds := entry?_of_listed entry listed opcode (by simp [Instruction.opcode?, listedAction])
  have size := code.size_eq bounds.1 bounds.2.1 coded
  have given (needs : 0 < entry.neededOperands) : ∃ operand, item.statement.first? = some operand :=
    Valid.exists_first ⟨own, resolved, same⟩ known (operands ▸ needs)
  rw [← mnemonic] at coded
  obtain ⟨fields, ownFields, read⟩ :=
    readsBack_machineCode flags coded code listed listedAction given needs
  refine ⟨⟨entry.mnemonic, format, fields⟩, ⟨?_, size, ownFields⟩, fun rest => ?_⟩
  · exact ⟨own, opcode, known, mnemonic.symm, action⟩
  · rw [code.codeText_eq]
    exact read rest

end Item

namespace Section

open Decoding

variable {part : Section} {rules : Rules} {tables : Tables}

/-- The codes of machine instructions of the built-in directory, one behind the other, are read back
as these instructions in order. -/
theorem decode_codeText {items : List Item} {rows : List (List Modification)}
    (encoded : List.Forall₂ (Item.Encoded tables) items rows)
    (valid : ∀ item ∈ items, item.Valid .builtin) :
    ∃ decoded, decode ((items.filter Item.isMachine).flatMap Item.codeText) = some decoded ∧
      List.Forall₂ (Item.Shows tables) (items.filter Item.isMachine) decoded := by
  induction encoded with
  | nil => exact ⟨[], decode_nil, .nil⟩
  | @cons item needed items rows own _ ih =>
    obtain ⟨later, read, each⟩ := ih fun item mem => valid item (List.mem_cons_of_mem _ mem)
    by_cases machine : item.isMachine = true
    · obtain ⟨decoded, seen, front⟩ := own.decodeOne (valid item List.mem_cons_self) machine
      rw [List.filter_cons_of_pos machine, List.flatMap_cons]
      refine ⟨decoded :: later, ?_, .cons seen each⟩
      rw [decode_of_decodeOne (front _), read]
      rfl
    · rw [List.filter_cons_of_neg machine]
      exact ⟨later, read, each⟩

/-- The object code of the built-in machine instructions is uniquely decodable.  From the codes of
the machine instructions of a section alone, one behind the other, the reader finds for each of them
in order its name, its length and its fields. -/
theorem decode_objectCode (fresh : ∀ item ∈ part.items, item.Fresh .builtin)
    (succeeds : (part.assemble rules).result = .ok ()) :
    let machine := (part.assemble rules).state.items.filter Item.isMachine
    (machine.map fun item => (item.statement, item.instruction)) =
        ((part.items.filter Item.isMachine).map fun item => (item.statement, item.instruction)) ∧
      ∃ decoded, decode (machine.flatMap Item.codeText) = some decoded ∧
        List.Forall₂ (Item.Shows (part.layOut rules).state.toTables) machine decoded := by
  constructor
  · have kept := assemble_kept (known_of_fresh fresh) succeeds
    have same := congrArg (List.filter fun own : Statement × Option Instruction =>
      own.2.any fun instruction => !instruction.isDirective) kept
    rw [List.filter_map, List.filter_map] at same
    exact same
  · have valid := valid_assemble fresh succeeds
    obtain ⟨rows, items, encoded, reached⟩ := assemble_rows fresh succeeds
    rw [reached] at valid ⊢
    exact decode_codeText encoded valid

/-- A section with an instruction of each format: registers, a shift count, a return, a jump backward
and one to an imported name, marked operands, an index, and a literal. -/
def everyFormat : Section :=
  .ofStatements .builtin
    [.unplaced (some "MIX") "START" ["0"], .unplaced none "EXTREF" ["FAR"],
      .unplaced (some "LOOP") "FIX" [], .unplaced none "COMPR" ["A", "T"],
      .unplaced none "SHIFTL" ["S", "4"], .unplaced none "CLEAR" ["X"],
      .unplaced none "+JSUB" ["FAR"], .unplaced none "LDCH" ["BUF", "X"],
      .unplaced none "LDA" ["#9"], .unplaced none "J" ["@LOOP"], .unplaced none "LDT" ["=X'05'"],
      .unplaced none "RSUB" [], .unplaced (some "BUF") "RESB" ["1"], .unplaced none "END" []]

/-- The backward jump has a negative displacement, cut to twelve bits. -/
theorem decode_objectCode_everyFormat :
    let machine := (everyFormat.assemble ⟨.builtin, true⟩).state.items.filter Item.isMachine
    (∀ item ∈ everyFormat.items, item.Fresh .builtin) ∧
      (everyFormat.assemble ⟨.builtin, true⟩).result = .ok () ∧
      machine.filterMap Item.code = ["C4", "A005", "A444", "B410", "4B100000", "53A00C", "010009",
        "3E2FEC", "772004", "4F0000"] ∧
      ∃ decoded, decode (machine.flatMap Item.codeText) = some decoded ∧
        List.Forall₂ (Item.Shows (everyFormat.layOut ⟨.builtin, true⟩).state.toTables) machine
          decoded := by
  have fresh : ∀ item ∈ everyFormat.items, item.Fresh .builtin := by decide +kernel
  have succeeds : (everyFormat.assemble ⟨.builtin, true⟩).result = .ok () := by decide +kernel
  exact ⟨fresh, succeeds, by decide +kernel, (decode_objectCode fresh succeeds).2⟩

end Section

end TwoPass
