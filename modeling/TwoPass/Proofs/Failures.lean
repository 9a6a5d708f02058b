import TwoPass.Proofs.Cover
import TwoPass.Proofs.Reading

/-!
# How an assembly can fail

A source that cannot be assembled is refused with a diagnostic, or because a number in it has more
digits than are read or written.  There is one exception.  A register operand of digit signs is read
as a number, and some digit signs have no decimal value; such an operand stops the assembly without a
diagnostic.
-/

namespace TwoPass

namespace Operand

/-- A register operand without the blanks around it, in upper case. -/
def registerText (operand : String) : List Char := Text.upper (Text.trim operand.toList)

/-- Whether a register operand is made of digit signs, and they have no decimal value. -/
def isOddNumeral (operand : String) : Bool :=
  !(registerText operand).isEmpty && (registerText operand).all Text.isDigitSign &&
    (Text.decimal? (registerText operand)).isNone

end Operand

/-- An item on registers one of whose operands is made of digit signs without decimal value. -/
structure Item.Misread (text : String) (item : Item) : Prop where
  /-- The instruction is one on registers. -/
  onRegisters : ∃ instruction opcode, item.instruction = some instruction ∧
    instruction.action = .machine .two opcode
  /-- The text is that of an operand. -/
  operand : ∃ operand ∈ item.statement.operands, Operand.isOddNumeral operand = true ∧
    text = String.ofList (Operand.registerText operand)

namespace Encoding

variable {tables : Tables} {item : Item} {statement : Statement} {failure : Failure}

/-- A register operand is refused for what the source says, unless it is made of digit signs without
decimal value. -/
theorem register_eq_error {name : Option String} (fails : register statement name = .error failure) :
    statement.Refuses failure ∨ ∃ operand, name = some operand ∧
      Operand.isOddNumeral operand = true ∧
      failure = .notANumber (String.ofList (Operand.registerText operand)) := by
  rw [register.eq_def] at fails
  simp only at fails
  split at fails
  · cases fails
    exact .inl (.operands rfl)
  · cases fails
    exact .inl (.operands rfl)
  · rename_i operand _
    split at fails
    · rename_i refused found
      cases fails
      rw [Register.number] at found
      split at found
      · rename_i signs
        simp only at found
        split at found
        · rename_i long
          cases found
          exact .inl (.numeral long)
        · split at found
          · cases found
          · rename_i unread
            cases found
            refine .inr ⟨operand, rfl, ?_, rfl⟩
            rw [Operand.isOddNumeral, Operand.registerText, signs, unread]
            rfl
      · cases found
    · cases fails
    · cases fails
      exact .inl (.operands rfl)

/-- The second field of an instruction on registers is refused for what the source says, unless the
second operand is made of digit signs without decimal value. -/
theorem secondField_eq_error {mnemonic : String}
    (fails : secondField mnemonic statement = .error failure) :
    statement.Refuses failure ∨ ∃ operand, statement.second? = some operand ∧
      Operand.isOddNumeral operand = true ∧
      failure = .notANumber (String.ofList (Operand.registerText operand)) := by
  rw [secondField] at fails
  split at fails
  · split at fails
    · rename_i number found
      obtain ⟨operand, _, numeral⟩ := Option.bind_eq_some_iff.1 found
      rw [fails] at numeral
      exact .inl (Operand.refuses_of_numeral? numeral statement)
    · cases fails
      exact .inl (.operands rfl)
  · split at fails
    · cases fails
    · cases fails
    · rename_i name _ found
      rw [found]
      exact register_eq_error fails

/-- The code of an instruction on registers is refused for what the source says, unless an operand is
made of digit signs without decimal value. -/
theorem registerCode_eq_error {mnemonic : String} {opcode : Int}
    (fails : registerCode mnemonic opcode statement = .error failure) :
    statement.Refuses failure ∨ ∃ operand ∈ statement.operands,
      Operand.isOddNumeral operand = true ∧
      failure = .notANumber (String.ofList (Operand.registerText operand)) := by
  have nibbles {value : Nat} (refused : nibble statement value = .error failure) :
      statement.Refuses failure := by
    rw [nibble] at refused
    split at refused
    · cases refused
      exact .operands rfl
    · cases refused
  rw [registerCode] at fails
  rcases bind_eq_error.1 fails with first | ⟨_, _, fails⟩
  · refine (register_eq_error first).imp_right ?_
    rintro ⟨operand, found, odd⟩
    exact ⟨operand, List.mem_of_getElem? found, odd⟩
  · rcases bind_eq_error.1 fails with second | ⟨_, _, fails⟩
    · refine (secondField_eq_error second).imp_right ?_
      rintro ⟨operand, found, odd⟩
      exact ⟨operand, List.mem_of_getElem? found, odd⟩
    · rcases bind_eq_error.1 fails with high | ⟨_, _, fails⟩
      · exact .inl (nibbles high)
      · rcases bind_eq_error.1 fails with low | ⟨_, _, fails⟩
        · exact .inl (nibbles low)
        · cases fails

/-- The displacement of a symbol is refused for what the source says. -/
theorem refuses_of_symbolDisplacement {format : Format} {symbol : String}
    (fails : symbolDisplacement tables item format symbol = .error failure) :
    item.statement.Refuses failure := by
  rw [symbolDisplacement] at fails
  split at fails
  · cases fails
  · split at fails
    · cases fails
    · cases fails
      exact .operands rfl

/-- The displacement of an operand is refused for what the source says. -/
theorem refuses_of_displacement {format : Format} {operand : String}
    (fails : displacement tables item format operand = .error failure) :
    item.statement.Refuses failure := by
  unfold displacement at fails
  simp only at fails
  split at fails
  · split at fails
    · cases fails
    · cases fails
      exact .operands rfl
  · generalize (if (item.flags.n && item.flags.i) = true then operand
      else String.ofList (operand.toList.drop 1)) = bare at fails
    split at fails
    · exact refuses_of_symbolDisplacement fails
    · split at fails
      · rename_i number found
        rcases bind_eq_error.1 (map_eq_error.1 fails) with refused | ⟨_, _, fails⟩
        · rw [refused] at found
          exact Operand.refuses_of_numeral? found item.statement
        · cases fails
      · cases fails
        exact .operands rfl

/-- The code of an instruction on memory is refused for what the source says. -/
theorem refuses_of_memoryInstruction {mnemonic : String} {format : Format} {opcode : Int}
    (fails : memoryInstruction tables item mnemonic format opcode = .error failure) :
    item.statement.Refuses failure := by
  rw [memoryInstruction_eq] at fails
  rcases bind_eq_error.1 fails with missed | ⟨_, _, fails⟩
  · rw [target.eq_def] at missed
    split at missed
    · exact refuses_of_displacement missed
    · cases missed
  · rcases bind_eq_error.1 fails with wide | ⟨_, _, fails⟩
    · rw [truncation] at wide
      split at wide
      · cases wide
      · split at wide
        · cases wide
        · cases wide
          exact .number
    · cases fails

/-- The code of a machine instruction is refused for what the source says, unless it is one on
registers with an operand made of digit signs without decimal value. -/
theorem machineCode_eq_error {mnemonic : String} {format : Format} {opcode : Int}
    (fails : machineCode tables item mnemonic format opcode = .error failure) :
    item.statement.Refuses failure ∨ format = .two ∧ ∃ operand ∈ item.statement.operands,
      Operand.isOddNumeral operand = true ∧
      failure = .notANumber (String.ofList (Operand.registerText operand)) := by
  cases format with
  | one => cases fails
  | two => exact (registerCode_eq_error (map_eq_error.1 fails)).imp_right fun odd => ⟨rfl, odd⟩
  | three =>
    rw [machineCode] at fails
    split at fails
    · cases fails
    · exact .inl (refuses_of_memoryInstruction fails)
  | four => exact .inl (refuses_of_memoryInstruction fails)

/-- The terms of a data item are refused for what the source says. -/
theorem refuses_of_relocations {length : Nat} {terms : List Term}
    (fails : (relocations tables item length terms).2 = .error failure) :
    item.statement.Refuses failure := by
  induction terms with
  | nil => cases fails
  | cons term rest ih =>
    rw [relocations] at fails
    split at fails
    · split at fails
      · rename_i refused found
        cases fails
        rw [relocation] at found
        split at found
        · cases found
        · split at found
          · split at found
            · cases found
            · cases found
              exact .operands rfl
          · cases found
            exact .operands rfl
      · exact ih fails
    · exact ih fails

/-- The code of a data item is refused for what the source says. -/
theorem refuses_of_dataCode {instruction : Instruction}
    (fails : (dataCode tables item instruction).2 = .error failure) :
    item.statement.Refuses failure := by
  unfold dataCode at fails
  split at fails
  · cases fails
    exact .operands rfl
  · split at fails
    · simp only [formCode] at fails
      split at fails
      · rename_i unread
        cases fails
        exact .operands (Form.isOfOperands_of_hexOf unread)
      · split at fails
        · cases fails
          exact .operands rfl
        · cases fails
    · split at fails
      · exact refuses_of_relocations (map_eq_error.1 fails)
      · split at fails
        · rename_i number found
          rcases bind_eq_error.1 fails with refused | ⟨_, _, fails⟩
          · rw [refused] at found
            exact Operand.refuses_of_numeral? found item.statement
          · rw [numberCode] at fails
            split at fails
            · cases fails
              exact .operands rfl
            · cases fails
        · cases fails
          exact .operands rfl

end Encoding

/-- An item is encoded, or it is refused for what the source says, unless it is one on registers with
an operand made of digit signs without decimal value. -/
theorem Item.encode_eq_error {item : Item} {instruction : Instruction}
    (known : item.instruction = some instruction) {directory : Directory} {tables : Tables}
    {failure : Failure} (fails : (item.encode directory tables).result = .error failure) :
    item.statement.Refuses failure ∨ ∃ text, failure = .notANumber text ∧ item.Misread text := by
  cases holds : instruction.holdsCode with
  | false =>
    rw [encode_plain known holds] at fails
    cases fails
  | true =>
    rcases Instruction.holdsCode_cases holds with ⟨format, opcode, action⟩ | data
    · rw [encode_machine known action] at fails
      split at fails
      · rename_i refused found
        cases fails
        obtain ⟨flags, kept⟩ := item.flagged_kept format
        rw [kept] at found
        refine (Encoding.machineCode_eq_error found).imp_right ?_
        rintro ⟨rfl, operand, mem, odd, rfl⟩
        exact ⟨_, rfl, ⟨instruction, opcode, known, action⟩, operand, mem, odd, rfl⟩
      · cases fails
    · rw [encode_data known data] at fails
      split at fails
      · cases fails
      · rename_i found
        cases fails
        refine .inl (Encoding.refuses_of_dataCode (?_ : (Encoding.dataCode tables item
          instruction).2 = _))
        rw [found]

namespace Section

variable {part : Section} {failure : Failure}

/-- A second pass that fails stops at an item that it refuses. -/
theorem encode_eq_error {rules : Rules} (fails : (part.encode rules).result = .error failure) :
    ∃ place item,
      Outcome.StopsAt (fun items => (({ part with items } : Section).encode rules).result)
        part.items place item failure ∧
      (item.encode rules.directory part.toTables).result = .error failure := by
  rw [(encode_eq rules part).1, encoding] at fails
  obtain ⟨place, item, _, _, ⟨here, before, stops⟩, _, refused⟩ := Outcome.exists_stopsAt fails
  refine ⟨place, item, ⟨here, ?_, ?_⟩, refused⟩
  · exact (encode_eq rules _).1.trans before
  · exact (encode_eq rules _).1.trans stops

/-- How the passes over a section fail: one of them stops at an item, for what its statement says or
because the item is one on registers with an operand made of digit signs without decimal value. -/
inductive PassStops (rules : Rules) (part : Section) (failure : Failure) : Prop
  /-- The first pass stops. -/
  | layingOut {place : Nat} {item : Item}
      (stops : Outcome.StopsAt (fun items => (({ part with items } : Section).layOut rules).result)
        part.items place item failure)
      (told : item.statement.Stops failure) : PassStops rules part failure
  /-- The second pass stops. -/
  | encoding {place : Nat} {item : Item} (lays : (part.layOut rules).result = .ok ())
      (stops : Outcome.StopsAt
        (fun items => (({ (part.layOut rules).state with items } : Section).encode rules).result)
        (part.layOut rules).state.items place item failure)
      (told : item.statement.Stops failure ∨ ∃ text, failure = .notANumber text ∧ item.Misread text) :
      PassStops rules part failure

/-- The passes over a fresh section fail in no other way. -/
theorem passStops_of_assemble {directory : Directory} (fresh : part.Fresh directory) {rules : Rules}
    (fails : (part.assemble rules).result = .error failure) : part.PassStops rules failure := by
  rcases Outcome.andThen_eq_error.1 fails with lays | ⟨_, lays, encodes⟩
  · rw [layOut_result] at lays
    obtain ⟨place, item, ⟨here, before, stops⟩, told⟩ := laying_stops fresh lays
    exact .layingOut ⟨here, (layOut_result rules _).trans before, (layOut_result rules _).trans stops⟩
      told
  · obtain ⟨place, item, stops, refused⟩ := encode_eq_error encodes
    obtain ⟨instruction, known⟩ := Option.isSome_iff_exists.1
      (known_layOut fresh.known rules item (List.mem_of_getElem? stops.here))
    exact .encoding lays stops ((Item.encode_eq_error known refused).imp_left .inl)

/-- The passes over a fresh section fail for what the source says, unless an item on registers has an
operand made of digit signs without decimal value. -/
theorem assemble_eq_error {directory : Directory} (fresh : part.Fresh directory) {rules : Rules}
    (fails : (part.assemble rules).result = .error failure) :
    failure.isOfSource = true ∨
      ∃ text, failure = .notANumber text ∧ ∃ item ∈ part.items, item.Misread text := by
  cases passStops_of_assemble fresh fails with
  | layingOut stops told => exact .inl told.isOfSource
  | encoding lays stops told =>
    obtain ⟨item, read, location, pool, rfl, _⟩ :=
      exists_read fresh.known (List.mem_of_getElem? stops.here)
    refine told.imp (fun told => told.isOfSource) ?_
    rintro ⟨text, same, misread⟩
    exact ⟨text, same, item, read, misread.onRegisters, misread.operand⟩

/-- An object program is refused for an exported name without value only, once both passes have been
over the section. -/
theorem isDiagnostic_of_objectProgram (assembled : part.Assembled) {limit : Int}
    (positive : 2 ≤ limit) (even : limit % 2 = 0)
    (fails : part.objectProgram limit = .error failure) : failure.isDiagnostic = true := by
  have accepted : RecordLimit.ofInt limit = .ok ⟨limit.toNat, by omega, by omega⟩ :=
    dif_pos ⟨positive, even⟩
  rw [objectProgram, if_neg (by omega)] at fails
  rcases bind_eq_error.1 fails with exports | ⟨_, _, fails⟩
  · obtain ⟨names, _, refused⟩ := exists_of_mapM_error (map_eq_error.1 exports)
    obtain ⟨name, _, missing⟩ := exists_of_mapM_error (map_eq_error.1 refused)
    rw [Externals.exportEntry] at missing
    split at missing
    · cases missing
    · cases missing
      rfl
  · rcases bind_eq_error.1 fails with texts | ⟨_, _, fails⟩
    · obtain ⟨records, written, _⟩ := assembled.textRecords accepted
      rw [written] at texts
      cases texts
    · cases fails

end Section

namespace Assembly

variable {failure : Failure}

/-- Reading lines stops at a line that is refused, with the diagnostic of that line. -/
theorem addLines_eq_error {directory : Directory} {file : String} {assembly : Assembly}
    {number : Nat} {rows : List (List Char)}
    (fails : (addLines directory file assembly number rows).result = .error failure) :
    ∃ place line reached found,
      Outcome.StopsAt (fun rows => (addLines directory file assembly number rows).result)
        rows place line failure ∧
      failure = .diagnostic found ∧
      addLine directory reached (String.ofList line) (some ⟨file, (number + place : Nat), 1⟩) =
        .error found := by
  induction rows generalizing assembly number with
  | nil => cases fails
  | cons line rest ih =>
    cases accepted : assembly.addLine directory (String.ofList line) (some ⟨file, number, 1⟩) with
    | error found =>
      have stops : (addLines directory file assembly number [line]).result =
          .error (.diagnostic found) := by
        rw [addLines, accepted]
        rfl
      rw [addLines, accepted] at fails
      cases fails
      exact ⟨0, line, assembly, found, ⟨rfl, rfl, stops⟩, rfl, accepted⟩
    | ok reached =>
      have step (row : List (List Char)) : addLines directory file assembly number (line :: row) =
          addLines directory file reached.1 (number + 1) row := by
        rw [addLines, accepted]
      rw [step] at fails
      obtain ⟨place, other, behind, found, ⟨here, before, stops⟩, same, refused⟩ := ih fails
      refine ⟨place + 1, other, behind, found, ⟨by simpa using here, ?_, ?_⟩, same, ?_⟩
      · rw [List.take_succ_cons, step]
        exact before
      · rw [List.take_succ_cons, step]
        exact stops
      · rwa [Nat.add_comm place 1, ← Nat.add_assoc]

/-- The passes over a row of sections stop at a section over which they fail. -/
theorem assembleSections_eq_error {rules : Rules} {assembly : Assembly}
    (fails : (assembly.assembleSections rules).result = .error failure) :
    ∃ place part,
      Outcome.StopsAt
        (fun sections => (({ assembly with sections } : Assembly).assembleSections rules).result)
        assembly.sections place part failure ∧
      (part.assemble rules).result = .error failure := by
  rw [assembleSections, Outcome.mapState] at fails
  obtain ⟨place, part, _, _, stops, _, refused⟩ := Outcome.exists_stopsAt fails
  exact ⟨place, part, stops, refused⟩

/-- Object programs are refused for an exported name without value only, once both passes have been
over the sections. -/
theorem isDiagnostic_of_objectPrograms {limit : Int} (positive : 2 ≤ limit) (even : limit % 2 = 0)
    {sections : List Section} (assembled : ∀ part ∈ sections, part.Assembled)
    (fails : objectPrograms limit sections = .error failure) : failure.isDiagnostic = true := by
  induction sections with
  | nil => cases fails
  | cons part rest ih =>
    rw [List.forall_mem_cons] at assembled
    rw [objectPrograms] at fails
    split at fails
    · rename_i refused
      cases fails
      exact Section.isDiagnostic_of_objectProgram assembled.1 positive even refused
    · exact ih assembled.2 (map_eq_error.1 fails)

/-- Assembling a source fails for what the source says, unless an item on registers has an operand
made of digit signs without decimal value. -/
theorem assemble_eq_error {strict : Bool} {limit : Int} (positive : 2 ≤ limit)
    (even : limit % 2 = 0) {source file : String}
    (fails : (assemble ⟨.builtin, strict⟩ limit source file).result = .error failure) :
    failure.isOfSource = true ∨ ∃ text, failure = .notANumber text ∧
      ∃ part ∈ (addSource .builtin {} source file).state.sections,
        ∃ item ∈ part.items, item.Misread text := by
  have diagnosed (found : failure.isDiagnostic = true) : failure.isOfSource = true := by
    cases failure <;> first | rfl | cases found
  have fresh := fun part mem => (addSource_fresh .builtin source file part mem).1
  rw [assemble] at fails
  rcases Outcome.andThen_eq_error.1 fails with refused | ⟨_, both, writes⟩
  · rcases Outcome.andThen_eq_error.1 refused with reads | ⟨_, _, passes⟩
    · obtain ⟨_, _, _, found, _, rfl, _⟩ := addLines_eq_error reads
      exact .inl rfl
    · obtain ⟨_, part, stops, stopped⟩ := assembleSections_eq_error passes
      have mem := List.mem_of_getElem? stops.here
      refine (Section.assemble_eq_error (fresh part mem) stopped).imp_right ?_
      rintro ⟨text, same, item, inside, misread⟩
      exact ⟨text, same, part, mem, item, inside, misread⟩
  · obtain ⟨_, reads, passes⟩ := Outcome.andThen_eq_ok.1 both
    obtain ⟨each, state⟩ := assembleSections_spec ⟨.builtin, strict⟩
      (addSource .builtin {} source file).state
    rw [Outcome.state_andThen_of_ok reads, state passes] at writes
    refine .inl (diagnosed (isDiagnostic_of_objectPrograms positive even ?_ writes))
    intro part mem
    obtain ⟨source, read, rfl⟩ := List.mem_map.1 mem
    exact Section.assembled (fresh source read) Directory.hasByteOpcodes_builtin
      (each.1 passes source read)

/-- Assembling a source gives an object program, or it fails in one of four ways: with a diagnostic;
because a numeral has more digits than are read; because a number has more digits than are written; or
because a register operand is made of digit signs without decimal value. -/
theorem assemble_cases (strict : Bool) {limit : Int} (positive : 2 ≤ limit) (even : limit % 2 = 0)
    (source file : String) :
    (∃ program, (assemble ⟨.builtin, strict⟩ limit source file).result = .ok program) ∨
      ∃ failure, (assemble ⟨.builtin, strict⟩ limit source file).result = .error failure ∧
        (failure.isDiagnostic = true ∨
          (∃ digits, Text.digitLimit < digits ∧ failure = .numeralTooLong digits) ∨
          failure = .numberTooLong ∨
          ∃ text, failure = .notANumber text ∧
            ∃ part ∈ (addSource .builtin {} source file).state.sections,
              ∃ item ∈ part.items, item.Misread text) := by
  cases result : (assemble ⟨.builtin, strict⟩ limit source file).result with
  | ok program => exact .inl ⟨program, rfl⟩
  | error failure =>
    refine .inr ⟨failure, rfl, ?_⟩
    rcases assemble_eq_error positive even result with said | misread
    · rcases Failure.cases_of_isOfSource said with found | long | long
      · exact .inl found
      · exact .inr (.inl long)
      · exact .inr (.inr (.inl long))
    · exact .inr (.inr (.inr misread))

/-- A source that names a register by a raised digit. -/
def raised : String := "\tCLEAR\t²\n"

/-- The raised digit is the register operand that stops the assembly. -/
theorem assemble_cases_raised :
    (assemble ⟨.builtin, true⟩ 60 raised "<input>").result = .error (.notANumber "²") ∧
      ∃ part ∈ (addSource .builtin {} raised "<input>").state.sections,
        ∃ item ∈ part.items, item.Misread "²" := by
  have stops : (assemble ⟨.builtin, true⟩ 60 raised "<input>").result =
      .error (.notANumber "²") := by
    decide +kernel
  refine ⟨stops, ?_⟩
  rcases assemble_cases true (show (2 : Int) ≤ 60 by decide) (by decide) raised "<input>" with
    ⟨program, succeeds⟩ | ⟨failure, fails, ways⟩
  · rw [stops] at succeeds
    cases succeeds
  · rw [stops] at fails
    cases fails
    rcases ways with wrong | ⟨_, _, wrong⟩ | wrong | ⟨text, same, misread⟩
    · cases wrong
    · cases wrong
    · cases wrong
    · cases same
      exact misread

/-- It stops the assembly without a diagnostic. -/
theorem assemble_not_diagnostic :
    ∃ failure, (assemble ⟨.builtin, false⟩ 60 raised "<input>").result = .error failure ∧
      failure.isDiagnostic = false := by
  refine ⟨.notANumber "²", ?_, rfl⟩
  decide +kernel

end Assembly

end TwoPass
