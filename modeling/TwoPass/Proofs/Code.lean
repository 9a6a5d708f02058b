import Mathlib.Tactic.NormNum
import TwoPass.Encoding
import TwoPass.Proofs.Form
import TwoPass.Proofs.LayoutStep

/-!
# The width of object code

The second pass writes as many bytes of code for an item as the first pass left room for, provided
that the opcodes of the directory are bytes.  It changes nothing else of an item but its flags and
its count of bytes, and the items that hold no code get none.
-/

namespace TwoPass

namespace Instruction

/-- Whether the opcode of an instruction, if it has one, is a byte. -/
def hasByteOpcode (instruction : Instruction) : Bool :=
  instruction.opcode?.all fun opcode => 0 ≤ opcode && opcode < 256

/-- The extended variant has the same opcode. -/
theorem opcode?_of_extended? {instruction variant : Instruction}
    (found : instruction.extended? = some variant) : variant.opcode? = instruction.opcode? := by
  rw [extended?] at found
  split at found
  · rename_i opcode action
    split at found
    · cases found
    · cases found
      simp [opcode?, action]
  · cases found

/-- The opcode of a machine instruction is in the range of a byte. -/
theorem opcode_bounds {instruction : Instruction} (byte : instruction.hasByteOpcode = true)
    {format : Format} {opcode : Int} (action : instruction.action = .machine format opcode) :
    0 ≤ opcode ∧ opcode < 256 := by
  simpa [hasByteOpcode, opcode?, action] using byte

end Instruction

namespace Directory

/-- A directory whose opcodes are bytes. -/
def HasByteOpcodes (directory : Directory) : Prop :=
  ∀ name instruction, directory.find? name = some instruction → instruction.hasByteOpcode = true

/-- Every instruction that an operator names has an opcode of the directory. -/
theorem HasByteOpcodes.lookup {directory : Directory} (bytes : directory.HasByteOpcodes)
    {operator : String} {instruction : Instruction}
    (found : directory.lookup operator = some instruction) :
    instruction.hasByteOpcode = true := by
  rw [Directory.lookup.eq_def] at found
  split at found
  · obtain ⟨base, listed, variant⟩ := Option.bind_eq_some_iff.1 found
    have own := bytes _ _ listed
    rwa [Instruction.hasByteOpcode, ← Instruction.opcode?_of_extended? variant] at own
  · exact bytes _ _ found

/-- The built-in opcodes are bytes. -/
theorem hasByteOpcodes_builtin : builtin.HasByteOpcodes := by
  have listed : ∀ entry ∈ builtin.entries.entries, entry.2.hasByteOpcode = true := by
    decide +kernel
  intro name instruction found
  obtain ⟨front, back, split, _⟩ := List.lookup_eq_some_iff.1 found
  exact listed (name, instruction) (by simp [split])

end Directory

namespace Encoding

variable {tables : Tables} {item : Item} {instruction : Instruction}

/-- The number of values of a field is a power of two. -/
theorem fieldSpan_eq (width : Nat) : fieldSpan width = 2 ^ width := by
  rw [fieldSpan, Nat.one_shiftLeft]
  norm_cast

/-- Above the field of a code stand the opcode and the flags. -/
theorem memoryCode_div (opcode : Int) (flags : Flags) (width : Nat) (displacement : Int) :
    memoryCode opcode flags width displacement / 2 ^ width = opcode / 4 * 64 + flags.toNat := by
  have positive : (0 : Int) < 2 ^ width := Int.pow_pos (by decide)
  have low := Int.emod_nonneg displacement (Int.ne_of_gt positive)
  have high := Int.emod_lt_of_pos displacement positive
  rw [memoryCode, fieldSpan_eq, Int.add_comm, Int.add_mul_ediv_right _ _ (Int.ne_of_gt positive),
    Int.ediv_eq_zero_of_lt low high, Int.zero_add]

/-- The code of an instruction on memory fits into its format exactly if the opcode is a byte. -/
theorem memoryCode_bounds_iff (opcode : Int) (flags : Flags) (width : Nat) (displacement : Int) :
    (0 ≤ memoryCode opcode flags width displacement ∧
        memoryCode opcode flags width displacement < 4096 * fieldSpan width) ↔
      0 ≤ opcode ∧ opcode < 256 := by
  have positive : (0 : Int) < 2 ^ width := Int.pow_pos (by decide)
  have flagged := flags.toNat_lt
  -- What stands above the field has to fit into twelve bits.
  rw [fieldSpan_eq, ← Int.ediv_nonneg_iff_of_pos positive, ← Int.ediv_lt_iff_lt_mul positive,
    memoryCode_div]
  omega

/-- A field of four bits holds the number that is given, which is below sixteen. -/
theorem nibble_eq_ok {statement : Statement} {value field : Nat}
    (succeeds : nibble statement value = .ok field) : field = value ∧ value ≤ 15 := by
  rw [nibble] at succeeds
  split at succeeds
  · cases succeeds
  · cases succeeds
    omega

/-- The code of an instruction on registers is the opcode and two fields of four bits. -/
theorem exists_of_registerCode {mnemonic : String} {opcode code : Int} {statement : Statement}
    (succeeds : registerCode mnemonic opcode statement = .ok code) :
    ∃ first second : Nat, register statement statement.first? = .ok first ∧
      secondField mnemonic statement = .ok second ∧ first ≤ 15 ∧ second ≤ 15 ∧
        code = opcode * 256 + first * 16 + second := by
  rw [registerCode] at succeeds
  obtain ⟨first, named, succeeds⟩ := bind_eq_ok.1 succeeds
  obtain ⟨second, further, succeeds⟩ := bind_eq_ok.1 succeeds
  obtain ⟨high, upper, succeeds⟩ := bind_eq_ok.1 succeeds
  obtain ⟨low, lower, succeeds⟩ := bind_eq_ok.1 succeeds
  cases succeeds
  obtain ⟨same, small⟩ := nibble_eq_ok upper
  obtain ⟨alike, slight⟩ := nibble_eq_ok lower
  refine ⟨first, second, named, further, small, slight, ?_⟩
  rw [same, alike]

/-- The code of an instruction on registers fits into its format exactly if the opcode is a byte. -/
theorem registerCode_bounds_iff {mnemonic : String} {opcode code : Int} {statement : Statement}
    (succeeds : registerCode mnemonic opcode statement = .ok code) :
    (0 ≤ code ∧ code < 16 ^ 4) ↔ 0 ≤ opcode ∧ opcode < 256 := by
  obtain ⟨first, second, _, _, small, slight, rfl⟩ := exists_of_registerCode succeeds
  omega

/-- The displacement of the first operand; without operands it is zero. -/
def target (tables : Tables) (item : Item) (format : Format) :
    Except Failure (Int × List Modification) :=
  match item.statement.first? with
  | some operand => displacement tables item format operand
  | none => .ok (0, [])

/-- An instruction on memory is encoded in three steps. -/
theorem memoryInstruction_eq (tables : Tables) (item : Item) (mnemonic : String) (format : Format)
    (opcode : Int) :
    memoryInstruction tables item mnemonic format opcode =
      target tables item format >>= fun found =>
        truncation item mnemonic (fieldWidth format) found.1 >>= fun log =>
          .ok ⟨memoryCode opcode item.flags (fieldWidth format) found.1, found.2, log⟩ := by
  rw [memoryInstruction, target]
  cases item.statement.first? <;> rfl

/-- The code of an instruction on memory is that of its displacement. -/
theorem memoryInstruction_eq_ok {mnemonic : String} {format : Format} {opcode : Int}
    {written : MachineCode}
    (succeeds : memoryInstruction tables item mnemonic format opcode = .ok written) :
    ∃ distance, target tables item format = .ok (distance, written.modifications) ∧
      truncation item mnemonic (fieldWidth format) distance = .ok written.log ∧
      written.code = memoryCode opcode item.flags (fieldWidth format) distance := by
  rw [memoryInstruction_eq] at succeeds
  obtain ⟨⟨distance, needed⟩, found, succeeds⟩ := bind_eq_ok.1 succeeds
  obtain ⟨log, warned, succeeds⟩ := bind_eq_ok.1 succeeds
  cases succeeds
  exact ⟨distance, found, warned, rfl⟩

/-- The code of a machine instruction fits into its format exactly if the opcode is a byte, or if it is
the return instruction, whose code is fixed. -/
theorem machineCode_bounds_iff {mnemonic : String} {format : Format} {opcode : Int}
    {written : MachineCode}
    (succeeds : machineCode tables item mnemonic format opcode = .ok written) :
    (0 ≤ written.code ∧ written.code < 16 ^ (2 * format.size)) ↔
      (0 ≤ opcode ∧ opcode < 256) ∨ format = .three ∧ mnemonic = "RSUB" := by
  have memory := memoryCode_bounds_iff opcode item.flags
  cases format with
  | one =>
    cases succeeds
    simp [Format.size]
  | two =>
    obtain ⟨code, found, rfl⟩ := map_eq_ok.1 succeeds
    simpa [Format.size] using registerCode_bounds_iff found
  | three =>
    rw [machineCode] at succeeds
    split at succeeds
    · rename_i returns
      cases succeeds
      simp [returns, returnCode, Format.size]
    · rename_i other
      obtain ⟨distance, _, _, code⟩ := memoryInstruction_eq_ok succeeds
      rw [code]
      exact (memory 12 distance).trans (by simp [other])
  | four =>
    obtain ⟨distance, _, _, code⟩ := memoryInstruction_eq_ok succeeds
    rw [code]
    exact (memory 20 distance).trans (by simp)

/-- The code of a machine instruction fits into its format if the opcode is a byte. -/
theorem machineCode_bounds {mnemonic : String} {format : Format} {opcode : Int}
    {written : MachineCode} (least : 0 ≤ opcode) (most : opcode < 256)
    (succeeds : machineCode tables item mnemonic format opcode = .ok written) :
    0 ≤ written.code ∧ written.code < 16 ^ (2 * format.size) :=
  (machineCode_bounds_iff succeeds).2 (.inl ⟨least, most⟩)

/-- Whether a text is a row of a given number of bytes: two upper-case digits for each. -/
structure Bytes (count : Nat) (text : List Char) : Prop where
  /-- There are two digits for each byte. -/
  length : text.length = 2 * count
  /-- The digits are upper-case. -/
  upper : ∀ c ∈ text, Text.Hex.isUpperDigit c = true

/-- A number that is in the range of some bytes is written as that many bytes. -/
theorem bytes_padded {count : Nat} {number : Int} (room : 0 < count) (least : 0 ≤ number)
    (bound : number < 16 ^ (2 * count)) :
    Bytes count (Text.Hex.padded (2 * count) number).toList := by
  rw [Text.Hex.padded, String.toList_ofList]
  refine ⟨Text.Hex.length_paddedChars (by omega) least bound, ?_⟩
  exact fun c written => Text.Hex.isUpperDigit_of_mem_paddedChars least written

/-- Only a number that is in the range of some bytes is written as that many bytes. -/
theorem bounds_of_bytes_padded {count : Nat} {number : Int}
    (bytes : Bytes count (Text.Hex.padded (2 * count) number).toList) :
    0 ≤ number ∧ number < 16 ^ (2 * count) := by
  rw [Text.Hex.padded, String.toList_ofList] at bytes
  have least : 0 ≤ number := by
    by_contra negative
    have signed : '-' ∈ Text.Hex.paddedChars (2 * count) number := by
      rw [Text.Hex.paddedChars, if_pos (Int.not_le.1 negative)]
      exact List.mem_cons_self
    exact absurd (bytes.upper '-' signed) (by decide)
  have spelled := Text.Hex.valueFrom_lt (@Text.Hex.value?_paddedChars (2 * count) number least)
  rw [bytes.length, Nat.zero_add, Nat.one_mul] at spelled
  refine ⟨least, ?_⟩
  rw [← Int.toNat_of_nonneg least]
  exact_mod_cast spelled

/-- The code of a data form is as wide as its instruction. -/
theorem formCode_bytes {statement : Statement} {operand code : String}
    (succeeds : formCode instruction statement operand = .ok code) :
    Bytes instruction.size code.toList := by
  rw [formCode] at succeeds
  split at succeeds
  · cases succeeds
  · rename_i data written
    split at succeeds
    · cases succeeds
    · rename_i narrow
      cases succeeds
      rw [String.toList_ofList]
      refine ⟨?_, fun c => Text.Hex.isUpperDigit_of_mem_fill (Form.hexOf_eq_ok written).2.2⟩
      rw [Text.Hex.length_fill]
      omega

/-- The code of a number is as wide as its instruction. -/
theorem numberCode_bytes {statement : Statement} {number : Nat} {code : String}
    (room : 0 < instruction.size)
    (succeeds : numberCode instruction statement number = .ok code) :
    Bytes instruction.size code.toList := by
  rw [numberCode] at succeeds
  split at succeeds
  · cases succeeds
  · rename_i small
    cases succeeds
    refine bytes_padded room (by omega) ?_
    rw [Nat.one_shiftLeft, show 8 * instruction.size = 4 * (2 * instruction.size) by omega,
      Nat.pow_mul] at small
    exact_mod_cast Nat.lt_of_not_le small

/-- The code of a data item is as wide as its instruction. -/
theorem dataCode_bytes {needed : List Modification} {code : String}
    (room : 0 < instruction.size)
    (succeeds : dataCode tables item instruction = (needed, .ok code)) :
    Bytes instruction.size code.toList := by
  rw [dataCode] at succeeds
  split at succeeds
  · cases succeeds
  · rename_i operand _
    split at succeeds
    · exact formCode_bytes (congrArg Prod.snd succeeds)
    · split at succeeds
      · obtain ⟨_, _, rfl⟩ := map_eq_ok.1 (congrArg Prod.snd succeeds)
        rw [String.toList_ofList]
        refine ⟨List.length_replicate, fun c written => ?_⟩
        rw [List.eq_of_mem_replicate written]
        decide
      · split at succeeds
        · rename_i number _
          obtain ⟨value, _, written⟩ := bind_eq_ok.1 (congrArg Prod.snd succeeds)
          exact numberCode_bytes room written
        · cases succeeds

end Encoding

namespace Item

variable {directory : Directory} {tables : Tables} {item : Item} {instruction : Instruction}

/-- Whether an item holds object code. -/
def holdsCode (item : Item) : Bool := item.instruction.any Instruction.holdsCode

/-- The item that is encoded as a machine instruction: operands set its flags. -/
def flagged (item : Item) (format : Format) : Item :=
  if item.statement.operands.isEmpty then item
  else { item with flags := item.flags.union (Encoding.operandFlags format item.statement) }

/-- Setting its flags changes nothing else of an item. -/
theorem flagged_kept (item : Item) (format : Format) :
    ∃ flags, item.flagged format = { item with flags } := by
  rw [flagged]
  split
  · exact ⟨item.flags, rfl⟩
  · exact ⟨_, rfl⟩

/-- How a machine instruction is encoded. -/
theorem encode_machine (known : item.instruction = some instruction) {format : Format}
    {opcode : Int} (action : instruction.action = .machine format opcode) (directory : Directory)
    (tables : Tables) :
    item.encode directory tables =
      match Encoding.machineCode tables (item.flagged format) instruction.mnemonic format opcode with
      | .error failure => .failed (item.flagged format, []) failure
      | .ok written =>
        ⟨((item.flagged format).withCode (Text.Hex.padded (2 * format.size) written.code),
          written.modifications), written.log, .ok ()⟩ := by
  simp only [encode, identify_of_known known, action]
  rfl

/-- How a data item is encoded. -/
theorem encode_data (known : item.instruction = some instruction)
    (data : instruction.action = .directive .byte ∨ instruction.action = .directive .word)
    (directory : Directory) (tables : Tables) :
    item.encode directory tables =
      match Encoding.dataCode tables item instruction with
      | (modifications, .ok code) => .done (item.withCode code, modifications) ()
      | (modifications, .error failure) => .failed (item, modifications) failure := by
  cases found : Encoding.dataCode tables item instruction with
  | mk changes result =>
    rcases data with action | action
    · cases result <;> simp [encode, identify_of_known known, action, found]
    · cases result <;> simp [encode, identify_of_known known, action, found]

/-- An item whose instruction holds no code keeps what it has. -/
theorem encode_plain (known : item.instruction = some instruction)
    (plain : instruction.holdsCode = false) (directory : Directory) (tables : Tables) :
    item.encode directory tables = .done (item.withOwnCode, []) () := by
  rw [Instruction.holdsCode] at plain
  rw [encode, identify_of_known known]
  split at plain
  · cases plain
  · cases plain
  · cases plain
  · rename_i machine byte word
    simp only
    split
    · rename_i action
      exact absurd action (machine _ _)
    · rename_i action
      exact absurd action byte
    · rename_i action
      exact absurd action word
    · rfl

/-- Encoding changes nothing of an item but its flags, its code and its count of bytes. -/
theorem encode_item (known : item.instruction = some instruction) (directory : Directory)
    (tables : Tables) :
    ∃ flags code byteSize,
      (item.encode directory tables).state.1 = { item with flags, code, byteSize } := by
  cases holds : instruction.holdsCode with
  | false =>
    rw [encode_plain known holds, withOwnCode]
    split
    · exact ⟨_, _, _, rfl⟩
    · exact ⟨_, _, _, rfl⟩
  | true =>
    rcases Instruction.holdsCode_cases holds with ⟨format, opcode, action⟩ | data
    · obtain ⟨flags, same⟩ := item.flagged_kept format
      rw [encode_machine known action, same]
      split
      · exact ⟨flags, _, _, rfl⟩
      · exact ⟨flags, _, _, rfl⟩
    · rw [encode_data known data]
      split
      · exact ⟨_, _, _, rfl⟩
      · exact ⟨_, _, _, rfl⟩

/-- An item whose instruction holds code gets as many bytes of it as the instruction takes up. -/
theorem encode_bytes (known : item.instruction = some instruction)
    (byte : instruction.hasByteOpcode = true) (holds : instruction.holdsCode = true)
    (succeeds : (item.encode directory tables).result = .ok ()) :
    ∃ code, (item.encode directory tables).state.1.code = some code ∧
      Encoding.Bytes instruction.size code.toList := by
  have room := (Instruction.size_pos_of_holdsCode holds).1
  rcases Instruction.holdsCode_cases holds with ⟨format, opcode, action⟩ | data
  · have size : instruction.size = format.size := by rw [Instruction.size, action]
    rw [size] at room ⊢
    obtain ⟨least, most⟩ := Instruction.opcode_bounds byte action
    rw [encode_machine known action] at succeeds ⊢
    split at succeeds
    · cases succeeds
    · rename_i written found
      obtain ⟨nonnegative, bound⟩ := Encoding.machineCode_bounds least most found
      exact ⟨_, rfl, Encoding.bytes_padded room nonnegative bound⟩
  · rw [encode_data known data] at succeeds ⊢
    split at succeeds
    · rename_i needed code found
      exact ⟨code, rfl, Encoding.dataCode_bytes room found⟩
    · cases succeeds

/-- An item that cannot be encoded keeps the code that it has. -/
theorem code_of_encode_error (known : item.instruction = some instruction) {failure : Failure}
    (fails : (item.encode directory tables).result = .error failure) :
    (item.encode directory tables).state.1.code = item.code := by
  cases holds : instruction.holdsCode with
  | false =>
    rw [encode_plain known holds] at fails
    cases fails
  | true =>
    rcases Instruction.holdsCode_cases holds with ⟨format, opcode, action⟩ | data
    · rw [encode_machine known action] at fails ⊢
      split at fails
      · simp only [Outcome.failed, flagged]
        split <;> rfl
      · cases fails
    · rw [encode_data known data] at fails ⊢
      split at fails
      · cases fails
      · rfl

/-- An item without code for a machine instruction gets the code of the instruction, written to the width
of the format. -/
theorem exists_machineCode_of_encode (known : item.instruction = some instruction) {format : Format}
    {opcode : Int} (action : instruction.action = .machine format opcode) (bare : item.code = none)
    {code : String} (written : (item.encode directory tables).state.1.code = some code) :
    ∃ found, Encoding.machineCode tables (item.flagged format) instruction.mnemonic format opcode =
        .ok found ∧ code = Text.Hex.padded (2 * format.size) found.code := by
  rw [encode_machine known action] at written
  split at written
  · obtain ⟨flags, same⟩ := item.flagged_kept format
    rw [Outcome.failed, same] at written
    cases bare.symm.trans written
  · rename_i found coded
    cases written
    exact ⟨found, coded, rfl⟩

/-- An item without code gets none, or it holds code and gets as many bytes of it as its instruction
takes up. -/
theorem bytes_of_encode_code (known : item.instruction = some instruction)
    (byte : instruction.hasByteOpcode = true) (bare : item.code = none) {code : String}
    (written : (item.encode directory tables).state.1.code = some code) :
    instruction.holdsCode = true ∧ Encoding.Bytes instruction.size code.toList := by
  cases holds : instruction.holdsCode with
  | false =>
    rw [encode_plain known holds, Outcome.done, withOwnCode, bare] at written
    cases bare.symm.trans written
  | true =>
    cases result : (item.encode directory tables).result with
    | error failure =>
      rw [code_of_encode_error known result] at written
      cases bare.symm.trans written
    | ok value =>
      obtain ⟨own, found, bytes⟩ := encode_bytes known byte holds result
      obtain rfl : own = code := Option.some.inj (found.symm.trans written)
      exact ⟨rfl, bytes⟩

end Item

namespace Section

/-- One step of the second pass: the modifications so far, and what an item adds to them. -/
def encodeStep (rules : Rules) (tables : Tables) (modifications : List Modification) (item : Item) :
    Outcome (List Modification × Item) Unit :=
  (item.encode rules.directory tables).mapState fun (item, added) => (modifications ++ added, item)

/-- The sweep of the second pass over a section. -/
def encoding (rules : Rules) (part : Section) : Outcome (List Modification × List Item) Unit :=
  Outcome.sweep (encodeStep rules part.toTables) part.modifications part.items

/-- The second pass is its sweep: it leaves the modifications and the items of the sweep, and nothing
else changes. -/
theorem encode_eq (rules : Rules) (part : Section) :
    (part.encode rules).result = (part.encoding rules).result ∧
      (part.encode rules).state =
        { part with
          modifications := (part.encoding rules).state.1
          items := (part.encoding rules).state.2 } := by
  simp only [encode]
  split
  · rename_i failure result
    exact ⟨result.symm, rfl⟩
  · rename_i result
    exact ⟨result.symm, rfl⟩

/-- The second pass changes nothing of an item but its flags, its code and its count of bytes. -/
theorem encoding_kept {part : Section}
    (known : ∀ item ∈ part.items, item.instruction.isSome = true) (rules : Rules) :
    List.Forall₂ (fun item done : Item => ∃ flags code byteSize,
        done = { item with flags, code, byteSize })
      part.items (part.encode rules).state.items := by
  rw [(encode_eq rules part).2]
  apply Outcome.forall₂_sweep
  · intro item _
    exact ⟨_, _, _, rfl⟩
  · intro _ item mem
    obtain ⟨instruction, found⟩ := Option.isSome_iff_exists.1 (known item mem)
    exact Item.encode_item found rules.directory part.toTables

/-- A second pass that succeeds encodes every item. -/
theorem encoding_items {part : Section} {rules : Rules}
    (succeeds : (part.encode rules).result = .ok ()) :
    List.Forall₂ (fun item done : Item =>
        (item.encode rules.directory part.toTables).result = .ok () ∧
          done = (item.encode rules.directory part.toTables).state.1)
      part.items (part.encode rules).state.items := by
  rw [(encode_eq rules part).1] at succeeds
  rw [(encode_eq rules part).2]
  exact (Outcome.runs_of_sweep succeeds).forall₂ fun _ item _ succeeds => ⟨succeeds, rfl⟩

end Section

end TwoPass
