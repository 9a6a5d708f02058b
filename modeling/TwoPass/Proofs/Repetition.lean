import TwoPass.Proofs.Truncation

/-!
# Encoding again

The flags of an item are only ever added to, and the addressing is read back from them, so a second
pass over encoded items starts from other flags than the first one did.  It finds the same: an item
that was encoded is encoded alike, whatever its flags were before.  A pass that succeeds therefore
succeeds again, and changes nothing but the modifications, to which it appends the same ones.
-/

namespace TwoPass

/-- Flags that are set already can be set again. -/
@[simp]
theorem Flags.union_union_self (left right : Flags) :
    (left.union right).union right = left.union right := by
  simp [union]

namespace Encoding

variable (tables : Tables) (changes : List Modification)

/-- The modifications so far are not looked at when a machine instruction is encoded. -/
theorem machineCode_withModifications :
    machineCode { tables with modifications := changes } = machineCode tables := by
  funext item mnemonic format opcode
  cases format <;> rfl

/-- The modifications so far are not looked at when a data item is encoded. -/
theorem dataCode_withModifications :
    dataCode { tables with modifications := changes } = dataCode tables := by
  have terms (item : Item) (length : Nat) (row : List Term) :
      relocations { tables with modifications := changes } item length row =
        relocations tables item length row := by
    induction row with
    | nil => rfl
    | cons term rest ih =>
      rw [relocations, relocations, ih]
      rfl
  funext item instruction
  simp only [dataCode, terms]

end Encoding

namespace Item

variable {directory : Directory} {tables : Tables} {item : Item} {instruction : Instruction}

/-- The modifications so far are not looked at when an item is encoded. -/
theorem encode_withModifications (directory : Directory) (tables : Tables)
    (changes : List Modification) (item : Item) :
    item.encode directory { tables with modifications := changes } =
      item.encode directory tables := by
  simp only [encode, Encoding.machineCode_withModifications, Encoding.dataCode_withModifications]

/-- The flags that the operands ask for are set once. -/
theorem flagged_flagged (item : Item) (format : Format) :
    (item.flagged format).flagged format = item.flagged format := by
  by_cases none : item.statement.operands.isEmpty = true
  · simp [flagged, none]
  · simp [flagged, none]

/-- The flags of an item do not depend on its code. -/
theorem flagged_withCode (item : Item) (code : String) (format : Format) :
    (item.withCode code).flagged format = (item.flagged format).withCode code := by
  by_cases none : item.statement.operands.isEmpty = true
  · simp [flagged, withCode, none]
  · simp [flagged, withCode, none]

/-- An item that was encoded is encoded alike: it keeps its flags, its code and its count of bytes,
asks the linker for the same, and is warned about alike. -/
theorem encode_encode (known : item.instruction = some instruction)
    (succeeds : (item.encode directory tables).result = .ok ()) :
    (item.encode directory tables).state.1.encode directory tables =
      item.encode directory tables := by
  cases holds : instruction.holdsCode with
  | false =>
    have own : item.withOwnCode.instruction = some instruction := by
      rw [withOwnCode]
      split <;> exact known
    have twice : item.withOwnCode.withOwnCode = item.withOwnCode := by
      cases code : item.code with
      | none => simp [withOwnCode, code]
      | some text => simp [withOwnCode, code, withCode]
    rw [encode_plain known holds, Outcome.done, encode_plain own holds, twice]
    rfl
  | true =>
    rcases Instruction.holdsCode_cases holds with ⟨format, opcode, action⟩ | data
    · rw [encode_machine known action] at succeeds ⊢
      split at succeeds
      · cases succeeds
      · rename_i written coded
        have own (text : String) :
            ((item.flagged format).withCode text).instruction = some instruction := by
          obtain ⟨flags, same⟩ := item.flagged_kept format
          rw [same]
          exact known
        -- The flags of the first time are those of the second, so the same code is found.
        rw [encode_machine (own _) action, flagged_withCode, flagged_flagged,
          Encoding.machineCode_withCode, coded]
        rfl
    · rw [encode_data known data] at succeeds ⊢
      split at succeeds
      · rename_i needed text coded
        have own : (item.withCode text).instruction = some instruction := known
        rw [Outcome.done, encode_data own data, Encoding.dataCode_withCode, coded]
        rfl
      · cases succeeds

end Item

namespace Section

variable {directory : Directory} {part : Section} {rules : Rules}

/-- A second pass succeeds only if each item can be encoded. -/
theorem each_of_encode (succeeds : (part.encode rules).result = .ok ()) :
    ∀ item ∈ part.items, (item.encode rules.directory part.toTables).result = .ok () := by
  intro item mem
  obtain ⟨_, _, own, _⟩ := exists_mem_of_forall₂ (encoding_items succeeds).flip mem
  exact own

/-- A second pass over items each of which can be encoded succeeds: it encodes each of them, and
appends what they ask of the linker to the modifications. -/
theorem encode_of_each
    (each : ∀ item ∈ part.items, (item.encode rules.directory part.toTables).result = .ok ()) :
    (part.encode rules).result = .ok () ∧
      (part.encode rules).state =
        { part with
          modifications := part.modifications ++
            part.items.flatMap fun item => (item.encode rules.directory part.toTables).state.2
          items := part.items.map fun item =>
            (item.encode rules.directory part.toTables).state.1 } := by
  have swept (changes : List Modification) (items : List Item)
      (each : ∀ item ∈ items, (item.encode rules.directory part.toTables).result = .ok ()) :
      (Outcome.sweep (encodeStep rules part.toTables) changes items).result = .ok () ∧
        (Outcome.sweep (encodeStep rules part.toTables) changes items).state =
          (changes ++ items.flatMap fun item =>
              (item.encode rules.directory part.toTables).state.2,
            items.map fun item => (item.encode rules.directory part.toTables).state.1) := by
    induction items generalizing changes with
    | nil => simp [Outcome.sweep, Outcome.done]
    | cons item rest ih =>
      obtain ⟨own, others⟩ := List.forall_mem_cons.1 each
      have head : (encodeStep rules part.toTables changes item).result = .ok () := own
      obtain ⟨result, state⟩ := ih (encodeStep rules part.toTables changes item).state.1 others
      simp only [Outcome.sweep, head, result, state]
      simp [encodeStep, Outcome.mapState]
  obtain ⟨result, state⟩ := swept part.modifications part.items each
  obtain ⟨same, reached⟩ := encode_eq rules part
  rw [same, reached, encoding, state]
  exact ⟨result, rfl⟩

/-- A pass that succeeds does so again.  It changes nothing but the modifications, appends to them
what it appended before, and makes the same remarks up to the last, which counts them. -/
theorem encode_encode (known : ∀ item ∈ part.items, item.instruction.isSome = true)
    (succeeds : (part.encode rules).result = .ok ()) :
    let done := (part.encode rules).state
    ∃ added, done.modifications = part.modifications ++ added ∧
      (done.encode rules).result = .ok () ∧
      (done.encode rules).state = { done with modifications := done.modifications ++ added } ∧
      (done.encode rules).log.dropLast = (part.encode rules).log.dropLast := by
  intro done
  have each := each_of_encode succeeds
  have reached : done = _ := (encode_of_each each).2
  have tables : done.toTables = { part.toTables with modifications := done.modifications } := by
    rw [reached]
  have items : done.items = part.items.map fun item =>
      (item.encode rules.directory part.toTables).state.1 := by
    rw [reached]
  -- What the pass leaves of an item is encoded as the item was.
  have alike : ∀ item ∈ part.items,
      (item.encode rules.directory part.toTables).state.1.encode rules.directory done.toTables =
        item.encode rules.directory part.toTables := by
    intro item mem
    obtain ⟨instruction, found⟩ := Option.isSome_iff_exists.1 (known item mem)
    rw [tables, Item.encode_withModifications, Item.encode_encode found (each item mem)]
  obtain ⟨result, state⟩ := @encode_of_each done rules (by
    intro item mem
    rw [items] at mem
    obtain ⟨read, inside, rfl⟩ := List.mem_map.1 mem
    rw [alike read inside, each read inside])
  refine ⟨part.items.flatMap fun item =>
    (item.encode rules.directory part.toTables).state.2, by rw [reached], result, ?_, ?_⟩
  · have same : (done.items.map fun item =>
        (item.encode rules.directory done.toTables).state.1) = done.items := by
      rw [items, List.map_map]
      exact List.map_congr_left fun item mem => congrArg (·.state.1) (alike item mem)
    have asked : (done.items.flatMap fun item =>
        (item.encode rules.directory done.toTables).state.2) =
          part.items.flatMap fun item =>
            (item.encode rules.directory part.toTables).state.2 := by
      rw [items, List.flatMap_map]
      exact List.flatMap_congr fun item mem => congrArg (·.state.2) (alike item mem)
    rw [state, same, asked]
  · rw [log_encode result, log_encode succeeds, List.dropLast_concat, List.dropLast_concat, items,
      List.map_map]
    exact congrArg List.flatten
      (List.map_congr_left fun item mem => congrArg Outcome.log (alike item mem))

/-- The second pass over a fresh section on which both passes succeed can be run again.  It succeeds,
leaves every item and every table but the modifications as they are, asks the linker once more for
what it asked before, and warns of the same displacements. -/
theorem encode_again (fresh : part.Fresh directory)
    (succeeds : (part.assemble rules).result = .ok ()) :
    let done := (part.assemble rules).state
    let again := done.encode rules
    again.result = .ok () ∧
      again.state = { done with modifications := done.modifications ++ done.modifications } ∧
      again.log.dropLast = ((part.layOut rules).state.encode rules).log.dropLast := by
  obtain ⟨lays, encodes, reached⟩ := assemble_eq_ok succeeds
  obtain ⟨added, changes, result, state, log⟩ :=
    encode_encode (known_layOut fresh.known rules) encodes
  rw [fresh.modifications_layOut lays, List.nil_append] at changes
  rw [reached]
  refine ⟨result, ?_, log⟩
  rw [state, changes]

/-- A section with each addressing and each format, which refers to an imported name in an instruction
and in a datum, and one of whose displacements is cut. -/
def everyAddressing : Section :=
  .ofStatements .builtin
    [.unplaced (some "ALL") "START" ["0"], .unplaced none "EXTREF" ["FAR"],
      .unplaced none "+LDA" ["@FAR"], .unplaced none "LDA" ["#4096"],
      .unplaced (some "HERE") "STCH" ["HERE", "X"], .unplaced none "J" ["@HERE"],
      .unplaced none "TD" ["=X'05'"], .unplaced none "CLEAR" ["X"], .unplaced none "FIX" [],
      .unplaced none "WORD" ["FAR-HERE-FAR"], .unplaced none "RSUB" [], .unplaced none "END" []]

/-- The section has its code and its flags after the first run as after the second, and three
modifications twice. -/
theorem encode_again_everyAddressing :
    let done := (everyAddressing.assemble ⟨.builtin, true⟩).state
    let again := done.encode ⟨.builtin, true⟩
    everyAddressing.Fresh .builtin ∧ (everyAddressing.assemble ⟨.builtin, true⟩).result = .ok () ∧
      done.items.map Item.code = [none, none, some "02100000", some "010000", some "57AFFD",
        some "3E2FFA", some "E32009", some "B410", some "C4", some "000000", some "4F0000", none] ∧
      done.modifications =
        [⟨1, 5, "+", "FAR"⟩, ⟨19, 6, "+", "FAR"⟩, ⟨19, 6, "-", "FAR"⟩] ∧
      again.log.dropLast = [.truncated none 4096 "LDA" 12] ∧
      again.result = .ok () ∧
      again.state = { done with modifications := done.modifications ++ done.modifications } := by
  have fresh : everyAddressing.Fresh .builtin := by decide +kernel
  have succeeds : (everyAddressing.assemble ⟨.builtin, true⟩).result = .ok () := by decide +kernel
  obtain ⟨result, state, log⟩ := encode_again fresh succeeds
  have warned : ((everyAddressing.layOut ⟨.builtin, true⟩).state.encode
      ⟨.builtin, true⟩).log.dropLast = [.truncated none 4096 "LDA" 12] := by decide +kernel
  exact ⟨fresh, succeeds, by decide +kernel, by decide +kernel, log.trans warned, result, state⟩

end Section

end TwoPass
