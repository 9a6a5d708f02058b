import TwoPass.Proofs.Encoded
import TwoPass.Proofs.LoadedDirectory

/-!
# The width of loaded instructions

The first pass leaves as many bytes for a machine instruction as its format says.  The second pass
writes the opcode of the directory into them, and a directory that is read from a text may have any
integer for an opcode.  The main statement, `Directory.width_loaded`, says that the code has the width
of the format exactly if the opcode in the entry line is a byte; the return instruction has a code of
its own, and no opcode is needed for it.
-/

namespace TwoPass

/-- Only a machine instruction has an extended variant. -/
theorem Instruction.isDirective_of_extended? {instruction variant : Instruction}
    (found : instruction.extended? = some variant) : instruction.isDirective = false := by
  rw [extended?] at found
  split at found
  · rename_i action
    rw [isDirective, action]
  · cases found

/-- The first pass leaves the bytes of its format for a machine instruction, whatever else happens. -/
theorem Layout.counter_step_machine {item : Item} {instruction : Instruction}
    (known : item.instruction = some instruction) {format : Format} {opcode : Int}
    (action : instruction.action = .machine format opcode) (rules : Rules) (progress : Progress) :
    (step rules progress item).state.1.counter = progress.counter + instruction.size := by
  obtain ⟨symbols, literals, reached⟩ := step_state rules known progress
  have obeys : obeyed instruction progress item =
      .done (progress.past instruction, progress.locate item) () := by
    rw [obeyed, obey, action]
  rw [reached, obeys]
  rfl

/-- The code of a machine instruction has the width of its format exactly if the opcode is a byte, or
if it is the return instruction. -/
theorem Item.encode_width_iff {item : Item} {instruction : Instruction}
    (known : item.instruction = some instruction) {format : Format} {opcode : Int}
    (action : instruction.action = .machine format opcode) {directory : Directory} {tables : Tables}
    (succeeds : (item.encode directory tables).result = .ok ()) :
    ∃ code, (item.encode directory tables).state.1.HasCode code ∧
      (Encoding.Bytes instruction.size code.toList ↔
        (0 ≤ opcode ∧ opcode < 256) ∨ format = .three ∧ instruction.mnemonic = "RSUB") := by
  have size : instruction.size = format.size := by rw [Instruction.size, action]
  have room : 0 < format.size := by cases format <;> decide
  rw [encode_machine known action] at succeeds ⊢
  split at succeeds
  · cases succeeds
  · rename_i written found
    refine ⟨_, ⟨rfl, rfl⟩, ?_⟩
    rw [size, ← Encoding.machineCode_bounds_iff found]
    exact ⟨Encoding.bounds_of_bytes_padded, fun bounds => Encoding.bytes_padded room bounds.1 bounds.2⟩

namespace Directory

/-- Putting entries in adds no other entries. -/
theorem mem_of_find?_foldl_put {instructions : List Instruction} {directory : Directory}
    {name : String} {instruction : Instruction}
    (found : (instructions.foldl put directory).find? name = some instruction) :
    directory.find? name = some instruction ∨ instruction ∈ instructions := by
  induction instructions generalizing directory with
  | nil => exact .inl found
  | cons first rest ih =>
    rcases ih found with before | later
    · have either : (if name = first.mnemonic then some first else directory.find? name) =
          some instruction := (OrderedMap.find?_put _ _ _ _).symm.trans before
      split at either
      · cases either
        exact .inr List.mem_cons_self
      · exact .inl either
    · exact .inr (List.mem_cons_of_mem first later)

/-- Only directives are found among the directives. -/
theorem isDirective_of_find?_directives {name : String} {instruction : Instruction}
    (found : directives.find? name = some instruction) : instruction.isDirective = true := by
  obtain ⟨front, back, split, _⟩ := List.lookup_eq_some_iff.1 found
  have listed : (name, instruction) ∈ directives.entries.entries := by rw [split]; simp
  obtain ⟨entry, mem, same⟩ := List.mem_map.1 listed
  obtain ⟨directive, _, rfl⟩ := List.mem_map.1 mem
  cases same
  rfl

/-- The opcode of an entry line is a byte. -/
def HasByte (words : List (List Char)) : Prop :=
  ∃ byte : Nat, byte < 256 ∧ (words[2]?).bind (Text.integer? 16) = some (byte : Int)

/-- A machine instruction that a loaded directory gives to an operator is the entry of a line, or the
extended variant of one. -/
theorem exists_entry {file text : String} {directory : Directory}
    (loaded : ofText file text = .ok directory) {operator : String} {instruction : Instruction}
    (found : directory.lookup operator = some instruction)
    (machine : instruction.isDirective = false) :
    ∃ words ∈ entryLines text, ∃ entry, Declares words entry ∧
      (instruction = entry ∨ entry.extended? = some instruction) := by
  obtain ⟨instructions, declared, rfl⟩ := addLines_eq_ok loaded
  have listed {name : String} {entry : Instruction}
      (known : (instructions.foldl put directives).find? name = some entry)
      (own : entry.isDirective = false) : ∃ words ∈ entryLines text, Declares words entry := by
    rcases mem_of_find?_foldl_put known with former | mem
    · rw [isDirective_of_find?_directives former] at own
      cases own
    · exact exists_mem_of_forall₂ declared mem
  rw [lookup.eq_def] at found
  split at found
  · obtain ⟨entry, known, variant⟩ := Option.bind_eq_some_iff.1 found
    obtain ⟨words, mem, declares⟩ := listed known (Instruction.isDirective_of_extended? variant)
    exact ⟨words, mem, entry, declares, .inr variant⟩
  · obtain ⟨words, mem, declares⟩ := listed found machine
    exact ⟨words, mem, instruction, declares, .inl rfl⟩

/-- The code of the machine instructions of a loaded directory.  For each that an operator names, with
or without a plus sign, there is the entry line that declares it.  The first pass leaves the bytes of
its format for every item that has the instruction.  A second pass that succeeds writes code for it,
and the code has exactly two upper-case digits for each of these bytes, and is counted as that many
bytes, if and only if the opcode in the entry line is a byte or the instruction is the return
instruction of format three. -/
theorem width_loaded {file text : String} {directory : Directory}
    (loaded : ofText file text = .ok directory) {operator : String} {instruction : Instruction}
    (found : directory.lookup operator = some instruction)
    (machine : instruction.isDirective = false) :
    ∃ words ∈ entryLines text, ∃ entry, Declares words entry ∧
      (instruction = entry ∨ entry.extended? = some instruction) ∧
      ∀ rules : Rules,
        (∀ progress item, item.instruction = some instruction →
          (Layout.step rules progress item).state.1.counter =
            progress.counter + instruction.size) ∧
        ∀ part : Section, (part.encode rules).result = .ok () →
          List.Forall₂ (fun item done : Item => item.instruction = some instruction →
            ∃ code, done.HasCode code ∧
              (Encoding.Bytes instruction.size code.toList ∧ done.byteSize = instruction.size ↔
                HasByte words ∨ instruction.size = 3 ∧ instruction.mnemonic = "RSUB"))
            part.items (part.encode rules).state.items := by
  obtain ⟨words, mem, entry, declares, variant⟩ := exists_entry loaded found machine
  refine ⟨words, mem, entry, declares, variant, fun rules => ?_⟩
  cases action : instruction.action with
  | directive directive => simp [Instruction.isDirective, action] at machine
  | machine format opcode =>
    have own : (words[2]?).bind (Text.integer? 16) = some opcode := by
      have same : instruction.opcode? = entry.opcode? := by
        rcases variant with rfl | extended
        · rfl
        · exact Instruction.opcode?_of_extended? extended
      rw [declares.opcode, ← same, Instruction.opcode?, action]
    have size : instruction.size = format.size := by rw [Instruction.size, action]
    have three : instruction.size = 3 ↔ format = .three := by
      rw [size]
      cases format <;> decide
    have byte : HasByte words ↔ 0 ≤ opcode ∧ opcode < 256 := by
      rw [HasByte, own]
      constructor
      · rintro ⟨byte, small, same⟩
        cases same
        omega
      · rintro ⟨least, most⟩
        exact ⟨opcode.toNat, by omega, by rw [Int.toNat_of_nonneg least]⟩
    constructor
    · intro progress item known
      exact Layout.counter_step_machine known action rules progress
    · intro part succeeds
      refine (Section.encoding_items succeeds).imp ?_
      rintro item done ⟨encodes, rfl⟩ known
      obtain ⟨code, written, width⟩ := Item.encode_width_iff known action encodes
      refine ⟨code, written, ?_⟩
      rw [byte, three, ← width, and_iff_left_iff_imp]
      intro bytes
      have length := bytes.length
      rw [String.length_toList] at length
      rw [written.2]
      omega

/-- A table with an instruction for memory and one of a single byte, whose opcode has two bytes. -/
def mixed : String := "Far 3 0xFe 1\nBIG\t1\t1234\t0\n"

/-- The extended variant of the first entry is written in four bytes. -/
theorem width_loaded_extended :
    ∃ directory instruction, ofText "inst.txt" mixed = .ok directory ∧
      directory.lookup "+far" = some instruction ∧ instruction.isDirective = false ∧
      let part := Section.ofStatements directory [.unplaced none "+FAR" ["#7"]]
      (part.encode ⟨directory, true⟩).result = .ok () ∧
      ∀ done ∈ (part.encode ⟨directory, true⟩).state.items,
        ∃ code, done.HasCode code ∧ Encoding.Bytes 4 code.toList ∧ done.byteSize = 4 := by
  have read : (ofText "inst.txt" mixed).map (fun directory =>
      let part := Section.ofStatements directory [.unplaced none "+FAR" ["#7"]]
      (directory.lookup "+far", part.items.map Item.instruction,
        (part.encode ⟨directory, true⟩).result)) =
      .ok (some (.machine "FAR" .four 0xFE 1), [some (.machine "FAR" .four 0xFE 1)], .ok ()) := by
    decide +kernel
  obtain ⟨directory, loaded, same⟩ := map_eq_ok.1 read
  simp only [Prod.mk.injEq] at same
  obtain ⟨found, items, succeeds⟩ := same
  refine ⟨directory, _, loaded, found, rfl, succeeds, fun done mem => ?_⟩
  obtain ⟨words, _, entry, declares, variant, passes⟩ := width_loaded loaded found rfl
  have byte : HasByte words := by
    refine ⟨0xFE, by decide, ?_⟩
    rcases variant with rfl | extended
    · exact declares.opcode
    · rw [declares.opcode, ← Instruction.opcode?_of_extended? extended]
      rfl
  obtain ⟨item, listed, wide⟩ := exists_mem_of_forall₂ ((passes ⟨directory, true⟩).2 _ succeeds) mem
  have known := List.mem_map_of_mem (f := Item.instruction) listed
  rw [items, List.mem_singleton] at known
  obtain ⟨code, written, width⟩ := wide known
  exact ⟨code, written, width.2 (.inl byte)⟩

/-- An instruction of one byte whose opcode has two bytes is written in four digits, and counted as two
bytes, though one byte is left for it. -/
theorem code_exceeds_format :
    ((ofText "inst.txt" mixed).map fun directory =>
      let done := (Section.ofStatements directory [.unplaced none "BIG" []]).assemble ⟨directory, true⟩
      ((directory.lookup "BIG").map Instruction.size, done.result.isOk,
        done.state.items.map fun item => (item.code, item.byteSize))) =
      .ok (some 1, true, [(some "1234", 2)]) := by
  decide +kernel

end Directory

end TwoPass
