import TwoPass.Proofs.Fields
import TwoPass.Proofs.Linkage

/-!
# Truncated displacements

A displacement that is too large for its field is cut, and a warning names it.  The range that is
checked is the one that the field can hold, signed or unsigned, so the warning is given exactly when
a machine finds another displacement in the code than the one that was meant.  Each item is warned
about once at most, and the warnings stand in the order of the items.  `Remark.warnings` is what a log
shows at the level of a warning, and `Item.truncationWarning` is the wording that is due.
-/

namespace TwoPass

/-- An instruction that holds no code has no operand in memory. -/
theorem Instruction.addressesMemory_of_not_holdsCode {instruction : Instruction}
    (plain : instruction.holdsCode = false) : instruction.addressesMemory = false := by
  rw [addressesMemory]
  split <;> rename_i action
  · simp [holdsCode, action] at plain
  · simp [holdsCode, action] at plain
  · rfl

namespace Remark

/-- The wording of the warnings among some remarks, in order. -/
def warnings (log : List Remark) : List String :=
  (log.filter fun remark => remark.level = .warning).map text

/-- The warnings of two logs stand one behind the other. -/
theorem warnings_append (front back : List Remark) :
    warnings (front ++ back) = warnings front ++ warnings back := by
  rw [warnings, List.filter_append, List.map_append, warnings, warnings]

/-- The warnings of a row of logs stand one behind the other. -/
theorem warnings_flatten (logs : List (List Remark)) :
    warnings logs.flatten = (logs.map warnings).flatten := by
  induction logs with
  | nil => rfl
  | cons log rest ih => rw [List.flatten_cons, warnings_append, ih, List.map_cons, List.flatten_cons]

end Remark

/-- The warning that a displacement is cut: where the item stands, the displacement, the instruction,
and the width of the field. -/
def Item.truncationWarning (item : Item) (mnemonic : String) (width : Nat) (distance : Int) : String :=
  item.statement.location.elim "line" Location.text ++ ": displacement " ++ toString distance ++
    " of '" ++ mnemonic ++ "' does not fit in " ++ toString width ++ " bits and is truncated"

/-- The remark about a displacement that is cut is that warning. -/
theorem Item.warnings_truncated (item : Item) (mnemonic : String) (width : Nat) (distance : Int) :
    Remark.warnings [.truncated item.statement.location distance mnemonic width] =
      [item.truncationWarning mnemonic width distance] := by
  rw [truncationWarning]
  cases item.statement.location with
  | none => rfl
  | some place => rfl

namespace Encoding

variable {tables : Tables} {item : Item} {format : Format}

/-- A number is in the range of twelve signed bits exactly when they hold it. -/
theorem bmod_eq_self_iff (number : Int) :
    (number % 4096).bmod 4096 = number ↔ -2048 ≤ number ∧ number ≤ 2047 := by
  rw [Int.bmod]
  split <;> omega

/-- A number is in the range of some unsigned bits exactly when they hold it. -/
theorem emod_eq_self_iff (width : Nat) (number : Int) :
    number % 2 ^ width = number ↔ 0 ≤ number ∧ number < 2 ^ width := by
  have positive : (0 : Int) < 2 ^ width := by positivity
  constructor
  · intro same
    rw [← same]
    exact ⟨Int.emod_nonneg number (Int.ne_of_gt positive), Int.emod_lt_of_pos number positive⟩
  · rintro ⟨least, bound⟩
    exact Int.emod_eq_of_lt least bound

/-- A displacement fits its field exactly when a machine finds it in the code. -/
theorem fits_iff_offsetIn {flags : Flags} (relative : flags.p = true → format = .three)
    (opcode distance : Int) :
    fits flags (fieldWidth format) distance = true ↔
      offsetIn format (memoryCode opcode flags (fieldWidth format) distance) = distance := by
  rw [fits, offsetIn, flagsIn_memoryCode, fieldIn_memoryCode]
  -- The flag chooses the range, here and where the field is read: signed only in format three.
  cases counts : flags.p with
  | true =>
    obtain rfl := relative counts
    rw [if_pos rfl, if_pos rfl, Bool.and_eq_true, decide_eq_true_eq, decide_eq_true_eq]
    exact (bmod_eq_self_iff distance).symm
  | false =>
    rw [if_neg Bool.false_ne_true, if_neg Bool.false_ne_true, Bool.and_eq_true, decide_eq_true_eq,
      decide_eq_true_eq, fieldSpan_eq]
    exact (emod_eq_self_iff (fieldWidth format) distance).symm

/-- The warning about a displacement is given exactly when it does not fit. -/
theorem truncation_eq_ok {mnemonic : String} {width : Nat} {distance : Int} {log : List Remark}
    (found : truncation item mnemonic width distance = .ok log) :
    log = if fits item.flags width distance then []
      else [.truncated item.statement.location distance mnemonic width] := by
  rw [truncation] at found
  split at found
  · rename_i whole
    cases found
    rw [if_pos whole]
  · rename_i cut
    split at found
    · cases found
      rw [if_neg cut]
    · cases found

/-- An instruction on memory is warned about exactly when a machine finds another displacement in its
code. -/
theorem log_of_memoryInstruction {mnemonic : String} {opcode : Int} {written : MachineCode}
    (relative : item.flags.p = true → format = .three)
    (coded : memoryInstruction tables item mnemonic format opcode = .ok written) :
    ∃ distance, target tables item format = .ok (distance, written.modifications) ∧
      written.log = if offsetIn format written.code = distance then []
        else [.truncated item.statement.location distance mnemonic (fieldWidth format)] := by
  obtain ⟨distance, found, warned, code⟩ := memoryInstruction_eq_ok coded
  refine ⟨distance, found, ?_⟩
  have exact := fits_iff_offsetIn relative opcode distance
  rw [truncation_eq_ok warned, code]
  simp only [exact]

/-- Only format three counts from the program counter. -/
theorem three_of_ownFlags {statement : Statement}
    (counts : (ownFlags format statement).p = true) : format = .three := by
  have unmarked (addressing : Operand.Addressing) : (flagsOf addressing).p = false := by
    cases addressing <;> rfl
  rw [ownFlags] at counts
  split at counts
  · cases counts
  · simp only [operandFlags, Flags.union, unmarked, Bool.false_or, decide_eq_true_eq] at counts
    exact counts.1

section Machine

variable {instruction : Instruction} {opcode : Int}
  (action : instruction.action = .machine format opcode)

include action

/-- An instruction with an operand in memory is encoded with its displacement. -/
theorem machineCode_of_addressesMemory (memory : instruction.addressesMemory = true) :
    machineCode tables item instruction.mnemonic format opcode =
      memoryInstruction tables item instruction.mnemonic format opcode := by
  rw [Instruction.addressesMemory, action] at memory
  cases format with
  | one => cases memory
  | two => cases memory
  | three => rw [machineCode, if_neg (of_decide_eq_true memory)]
  | four => rfl

/-- Nothing is logged about an instruction without an operand in memory. -/
theorem log_of_machineCode (plain : instruction.addressesMemory = false) {written : MachineCode}
    (coded : machineCode tables item instruction.mnemonic format opcode = .ok written) :
    written.log = [] := by
  rw [Instruction.addressesMemory, action] at plain
  cases format with
  | one =>
    cases coded
    rfl
  | two =>
    obtain ⟨code, _, rfl⟩ := map_eq_ok.1 coded
    rfl
  | three =>
    have own : instruction.mnemonic = "RSUB" := not_not.1 (of_decide_eq_false plain)
    rw [machineCode, if_pos own] at coded
    cases coded
    rfl
  | four => cases plain

end Machine

end Encoding

namespace Item

variable {directory : Directory} {tables : Tables} {item : Item} {instruction : Instruction}

/-- Whether an item is an instruction on memory with a given displacement, and has a given code. -/
structure Carries (tables : Tables) (item : Item) (instruction : Instruction) (format : Format)
    (distance code : Int) : Prop where
  /-- The instruction is that of the item. -/
  known : item.instruction = some instruction
  /-- It has a format. -/
  action : ∃ opcode, instruction.action = .machine format opcode
  /-- It has an operand in memory. -/
  memory : instruction.addressesMemory = true
  /-- The displacement is that of the operand. -/
  aims : ∃ needed, Encoding.target tables item format = .ok (distance, needed)
  /-- The code is that of the item. -/
  coded : item.codeNumber? = some code

/-- The warnings about an encoded item. -/
inductive Warned (tables : Tables) (item : Item) : List String → Prop
  /-- None, if a machine finds the displacement in the code. -/
  | whole {instruction : Instruction} {format : Format} {distance code : Int}
      (carries : item.Carries tables instruction format distance code)
      (same : Encoding.offsetIn format code = distance) : Warned tables item []
  /-- One, if a machine finds another displacement in the code. -/
  | truncated {instruction : Instruction} {format : Format} {distance code : Int}
      (carries : item.Carries tables instruction format distance code)
      (cut : Encoding.offsetIn format code ≠ distance) :
      Warned tables item
        [item.truncationWarning instruction.mnemonic (Encoding.fieldWidth format) distance]
  /-- None, if the item has no operand in memory. -/
  | other (plain : item.instruction.any Instruction.addressesMemory = false) : Warned tables item []

/-- The warnings about an instruction on memory. -/
theorem warned_of_memoryInstruction {format : Format} {opcode : Int} {written : Encoding.MachineCode}
    (known : item.instruction = some instruction)
    (action : instruction.action = .machine format opcode)
    (memory : instruction.addressesMemory = true)
    (flags : item.flags = Encoding.ownFlags format item.statement)
    (coded : Encoding.memoryInstruction tables item instruction.mnemonic format opcode = .ok written)
    (code : item.HasCode (Text.Hex.padded (2 * format.size) written.code)) :
    item.Warned tables (Remark.warnings written.log) := by
  have relative (counts : item.flags.p = true) : format = .three :=
    Encoding.three_of_ownFlags (flags ▸ counts)
  obtain ⟨distance, found, log⟩ := Encoding.log_of_memoryInstruction relative coded
  have carries : item.Carries tables instruction format distance written.code :=
    ⟨known, ⟨opcode, action⟩, memory, ⟨_, found⟩, code.codeNumber?_eq⟩
  rw [log]
  split
  · rename_i same
    exact .whole carries same
  · rename_i cut
    rw [item.warnings_truncated]
    exact .truncated carries cut

/-- The warnings while an item without flags and without code is encoded. -/
theorem warned_of_encode (known : item.instruction = some instruction) (unset : item.flags = {})
    (empty : item.code = none) (succeeds : (item.encode directory tables).result = .ok ()) :
    (item.encode directory tables).state.1.Warned tables
      (Remark.warnings (item.encode directory tables).log) := by
  cases holds : instruction.holdsCode with
  | false =>
    have kept : item.withOwnCode = item := by rw [withOwnCode, empty]
    rw [encode_plain known holds, kept]
    exact .other (by simpa [known, Outcome.done] using
      Instruction.addressesMemory_of_not_holdsCode holds)
  | true =>
    rcases Instruction.holdsCode_cases holds with ⟨format, opcode, action⟩ | data
    · have flags := flagged_eq unset format
      rw [encode_machine known action] at succeeds ⊢
      split at succeeds
      · cases succeeds
      · rename_i written coded
        rw [flags] at coded ⊢
        by_cases memory : instruction.addressesMemory = true
        · rw [Encoding.machineCode_of_addressesMemory action memory] at coded
          exact warned_of_memoryInstruction known action memory rfl coded ⟨rfl, rfl⟩
        · have plain : instruction.addressesMemory = false := Bool.not_eq_true _ ▸ memory
          simp only [Encoding.log_of_machineCode action plain coded]
          exact .other (by simpa [known, withCode] using plain)
    · have plain := Instruction.addressesMemory_of_storesData (Instruction.storesData_iff.2 data)
      rw [encode_data known data] at succeeds ⊢
      split at succeeds
      · exact .other (by simpa [known, withCode, Outcome.done] using plain)
      · cases succeeds

end Item

namespace Section

variable {directory : Directory} {part : Section} {rules : Rules}

/-- A second pass that succeeds logs what its steps log, item by item, and then that it has ended. -/
theorem log_encode (succeeds : (part.encode rules).result = .ok ()) :
    (part.encode rules).log =
      (part.items.map fun item => (item.encode rules.directory part.toTables).log).flatten ++
        [.encoded part.header.name (part.encode rules).state.modifications.length] := by
  have swept : (part.encoding rules).result = .ok () := (encode_eq rules part).1 ▸ succeeds
  have log : (part.encoding rules).log =
      part.items.flatMap fun item => (item.encode rules.directory part.toTables).log :=
    Outcome.log_sweep (fun _ _ => rfl) swept
  rw [(encode_eq rules part).2, ← List.flatMap_def, ← log]
  simp only [encode]
  split
  · rename_i failure fails
    cases swept.symm.trans fails
  · rfl

/-- A second pass over items without flags and without code warns about each of them as is due. -/
theorem encode_warns (known : ∀ item ∈ part.items, item.instruction.isSome = true)
    (unset : ∀ item ∈ part.items, item.flags = {}) (empty : ∀ item ∈ part.items, item.code = none)
    (succeeds : (part.encode rules).result = .ok ()) :
    List.Forall₂ (fun item done : Item =>
        done.Warned part.toTables
          (Remark.warnings (item.encode rules.directory part.toTables).log))
      part.items (part.encode rules).state.items := by
  rw [(encode_eq rules part).1] at succeeds
  rw [(encode_eq rules part).2]
  refine (Outcome.runs_of_sweep succeeds).forall₂ fun _ item mem encodes => ?_
  obtain ⟨instruction, found⟩ := Option.isSome_iff_exists.1 (known item mem)
  exact Item.warned_of_encode found (unset item mem) (empty item mem) encodes

/-- Truncation is never silent and never reported falsely.  The warnings that the second pass logs are,
item by item and in their order, one for each instruction on memory in whose code a machine finds
another displacement than that of the operand, and none for any other item. -/
theorem truncation_logged (fresh : ∀ item ∈ part.items, item.Fresh directory)
    (succeeds : (part.assemble rules).result = .ok ()) :
    let laid := (part.layOut rules).state
    let logs := laid.items.map fun item => (item.encode rules.directory laid.toTables).log
    (laid.encode rules).log = logs.flatten ++
        [.encoded laid.header.name (part.assemble rules).state.modifications.length] ∧
      Remark.warnings (laid.encode rules).log = (logs.map Remark.warnings).flatten ∧
      List.Forall₂ (Item.Warned laid.toTables) (part.assemble rules).state.items
        (logs.map Remark.warnings) := by
  obtain ⟨_, encodes, reached⟩ := assemble_eq_ok succeeds
  have laid := laid_of_fresh fresh rules
  rw [reached]
  refine ⟨log_encode encodes, ?_, ?_⟩
  · -- The remark that the pass has ended is no warning.
    rw [log_encode encodes, Remark.warnings_append, Remark.warnings_flatten]
    exact List.append_nil _
  · rw [List.forall₂_map_right_iff, List.forall₂_map_right_iff]
    have known := known_layOut (known_of_fresh fresh) rules
    exact (encode_warns known (fun item mem => (laid item mem).2.1)
      (fun item mem => (laid item mem).2.2) encodes).flip

/-- A section with displacements at both sides of each limit: forward and backward from the program
counter, as a datum, and as an address. -/
def limits : Section :=
  .ofStatements .builtin
    [.unplaced (some "A") "RESB" ["2045"], .unplaced none "J" ["A"], .unplaced none "J" ["A"],
      .unplaced none "LDA" ["2047"], .unplaced none "LDA" ["@2048"], .unplaced none "LDA" ["#4095"],
      .unplaced none "LDA" ["#4096"], .unplaced none "+LDA" ["#1048575"],
      .unplaced none "+LDA" ["1048576"], .unplaced none "+LDA" ["=X'05'"], .unplaced none "LTORG" [],
      .unplaced none "+LDA" ["=X'05'"], .unplaced none "RSUB" []]

/-- Of each pair the second is cut, and the literal behind its use is not reached backward. -/
theorem truncation_logged_limits :
    let laid := (limits.layOut ⟨.builtin, true⟩).state
    let logs := laid.items.map fun item => (item.encode .builtin laid.toTables).log
    (∀ item ∈ limits.items, item.Fresh .builtin) ∧
      (limits.assemble ⟨.builtin, true⟩).result = .ok () ∧
      Remark.warnings (laid.encode ⟨.builtin, true⟩).log =
        ["line: displacement -2051 of 'J' does not fit in 12 bits and is truncated",
          "line: displacement 2048 of 'LDA' does not fit in 12 bits and is truncated",
          "line: displacement 4096 of 'LDA' does not fit in 12 bits and is truncated",
          "line: displacement 1048576 of 'LDA' does not fit in 20 bits and is truncated",
          "line: displacement -5 of 'LDA' does not fit in 20 bits and is truncated"] ∧
      Remark.warnings (laid.encode ⟨.builtin, true⟩).log = (logs.map Remark.warnings).flatten ∧
      List.Forall₂ (Item.Warned laid.toTables) (limits.assemble ⟨.builtin, true⟩).state.items
        (logs.map Remark.warnings) := by
  have fresh : ∀ item ∈ limits.items, item.Fresh .builtin := by decide +kernel
  have succeeds : (limits.assemble ⟨.builtin, true⟩).result = .ok () := by decide +kernel
  obtain ⟨_, warned, each⟩ := truncation_logged fresh succeeds
  exact ⟨fresh, succeeds, by decide +kernel, warned, each⟩

end Section

end TwoPass
