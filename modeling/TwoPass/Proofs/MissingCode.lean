import TwoPass.Proofs.Cover

/-!
# Text records of a section that is not encoded

Text records can be asked for before the second pass has been over a section, and after it has stopped
at an item.  They are refused at the first machine instruction without code.  Where there is none, they
are written, and a data item without code is passed over: the records then lack its bytes, and nothing
says so.
-/

namespace TwoPass

namespace Item

/-- Whether an item is a machine instruction without code. -/
def isUnencoded (item : Item) : Bool := item.isMachine && item.code.isNone

/-- A machine instruction that is not without code has some. -/
theorem code_of_isUnencoded {item : Item} (encoded : item.isUnencoded = false)
    (machine : item.isMachine = true) : item.code ≠ none := by
  intro none
  simp [isUnencoded, machine, none] at encoded

/-- What packing asks of an item that is not without code: the instruction is known, the literals of its
pool have addresses and can be written, and the code of a machine instruction is not empty. -/
structure Packable (literals : LiteralTable) (item : Item) : Prop where
  /-- The instruction is known. -/
  known : item.instruction.isSome = true
  /-- The literals of the pool have addresses. -/
  laid : literals.Laid item.location item.pool
  /-- The literals of the pool can be written. -/
  storable : ∀ text ∈ item.pool, Form.Storable text
  /-- A machine instruction with code has digits in it. -/
  filled : item.isMachine = true → item.code ≠ some ""

/-- An item that is laid out can be packed. -/
theorem LaidOut.packable {literals : LiteralTable} {item : Item} (laid : item.LaidOut literals) :
    item.Packable literals := by
  refine ⟨laid.known, laid.laid, laid.storable, fun machine empty => ?_⟩
  obtain ⟨holds, bytes⟩ := laid.code "" empty
  obtain ⟨instruction, known⟩ := Option.isSome_iff_exists.1 laid.known
  have own : instruction.holdsCode = true := by simpa [holdsCode, known] using holds
  have positive := (Instruction.size_pos_of_holdsCode own).1
  have size : item.size = instruction.size := by simp [Item.size, known]
  have length : 0 = 2 * item.size := bytes.length
  omega

/-- Encoding an item that has no code leaves it so that it can be packed. -/
theorem Packable.encode {directory : Directory} {tables : Tables} {literals : LiteralTable}
    {item : Item} (packable : item.Packable literals) (bare : item.code = none) :
    (item.encode directory tables).state.1.Packable literals := by
  obtain ⟨instruction, known⟩ := Option.isSome_iff_exists.1 packable.known
  obtain ⟨flags, code, byteSize, same⟩ := encode_item known directory tables
  refine ⟨?_, ?_, ?_, fun machine empty => ?_⟩
  · rw [same]
    exact packable.known
  · rw [same]
    exact packable.laid
  · rw [same]
    exact packable.storable
  · have own : item.isMachine = true := by
      rw [same] at machine
      exact machine
    obtain ⟨_, format, opcode, found, action⟩ := exists_of_isMachine own
    obtain rfl := Option.some.inj (known.symm.trans found)
    -- The code is filled with zeros up to the width of its format.
    obtain ⟨written, _, none⟩ := exists_machineCode_of_encode known action bare empty
    have wide := Text.Hex.le_length_paddedChars (2 * format.size) written.code
    have room : 0 < format.size := by cases format <;> decide
    rw [Text.Hex.padded, eq_comm, String.ofList_eq_empty_iff] at none
    rw [none, List.length_nil] at wide
    omega

end Item

namespace Section

/-- What the second pass can leave of a section that the first has laid out, unless it succeeds. -/
inductive Unfinished (rules : Rules) (part : Section) : Section → Prop
  /-- The second pass has not begun. -/
  | untouched : Unfinished rules part (part.layOut rules).state
  /-- The second pass has stopped at an item. -/
  | stopped {failure : Failure}
      (fails : ((part.layOut rules).state.encode rules).result = .error failure) :
      Unfinished rules part ((part.layOut rules).state.encode rules).state

variable {limit : RecordLimit} {literals : LiteralTable} {packer : Packer}

/-- A machine instruction without code is refused. -/
theorem packItem_of_isUnencoded {item : Item} (unencoded : item.isUnencoded = true) :
    packItem limit literals packer item =
      .error (item.statement.failure (.codeMissing item.statement.operator)) := by
  rw [Item.isUnencoded, Bool.and_eq_true, Option.isNone_iff_eq_none] at unencoded
  obtain ⟨machine, none⟩ := unencoded
  obtain ⟨instruction, format, opcode, known, action⟩ := Item.exists_of_isMachine machine
  simp [packItem, none, known, action]

/-- Items behind others are packed on top of those. -/
theorem packItems_append {front : List Item} {later : Packer}
    (packs : packItems limit literals packer front = .ok later) (back : List Item) :
    packItems limit literals packer (front ++ back) = packItems limit literals later back := by
  induction front generalizing packer with
  | nil =>
    cases packs
    rfl
  | cons item rest ih =>
    rw [packItems] at packs
    rw [List.cons_append, packItems]
    cases first : packItem limit literals packer item with
    | error failure =>
      rw [first] at packs
      cases packs
    | ok middle =>
      rw [first] at packs
      exact ih packs

/-- A pool that is laid out can be packed. -/
theorem exists_packPool {address : Int} {pool : List String} (laid : literals.Laid address pool)
    (storable : ∀ text ∈ pool, Form.Storable text) (packer : Packer) :
    ∃ later, packPool limit literals packer pool = .ok later := by
  induction pool generalizing packer address with
  | nil => exact ⟨packer, rfl⟩
  | cons text rest ih =>
    obtain ⟨⟨literal, entry, located⟩, further⟩ := laid
    rw [List.forall_mem_cons] at storable
    obtain ⟨bytes, _, _, first⟩ := packLiteral_eq entry located storable.1
    rw [packPool, first]
    exact ih further storable.2 _

/-- An item that can be packed is packed, unless it is a machine instruction without code. -/
theorem exists_packItem {item : Item} (packable : item.Packable literals)
    (encoded : item.isUnencoded = false) (packer : Packer) :
    ∃ later, packItem limit literals packer item = .ok later := by
  obtain ⟨instruction, known⟩ := Option.isSome_iff_exists.1 packable.known
  rw [packItem.eq_def]
  split
  · exact ⟨_, rfl⟩
  · rename_i empty
    rw [known]
    cases action : instruction.action with
    | machine format opcode =>
      have machine : item.isMachine = true := by
        simp [Item.isMachine, known, Instruction.isDirective, action]
      have filled := packable.filled machine
      cases found : item.code with
      | none => exact absurd found (Item.code_of_isUnencoded encoded machine)
      | some code =>
        have none : code = "" := by simpa [found] using empty
        exact absurd (found.trans (congrArg some none)) filled
    | directive directive =>
      simp only [Option.map_some, action]
      cases directive with
      | resb => exact ⟨_, rfl⟩
      | resw => exact ⟨_, rfl⟩
      | ltorg => exact exists_packPool packable.laid packable.storable packer
      | finish => exact exists_packPool packable.laid packable.storable packer
      | _ => exact ⟨_, rfl⟩

/-- Items that can be packed are packed, if no machine instruction among them is without code. -/
theorem exists_packItems {items : List Item} (packable : ∀ item ∈ items, item.Packable literals)
    (encoded : ∀ item ∈ items, item.isUnencoded = false) (packer : Packer) :
    ∃ later, packItems limit literals packer items = .ok later := by
  induction items generalizing packer with
  | nil => exact ⟨packer, rfl⟩
  | cons item rest ih =>
    rw [List.forall_mem_cons] at packable encoded
    obtain ⟨middle, first⟩ := exists_packItem packable.1 encoded.1 packer
    rw [packItems, first]
    exact ih packable.2 encoded.2 middle

/-- How the text records of a section cover it that was not encoded to its end. -/
structure PartlyCovered (part : Section) (records : List TextRecord) : Prop where
  /-- Every record holds whole bytes. -/
  whole : ∀ record ∈ records, record.payload.length % 2 = 0
  /-- The bytes of the records are those that the items emit, in source order. -/
  bytes : records.flatMap TextRecord.bytes = part.items.flatMap (Item.emitted part.literals)
  /-- The addresses increase. -/
  increasing : ((records.flatMap TextRecord.bytes).map AddressedByte.address).Pairwise (· < ·)
  /-- The addresses are those of the section without the reserved ones and without those of the code
  that is missing. -/
  addresses : ∀ address,
    address ∈ (records.flatMap TextRecord.bytes).map AddressedByte.address ↔
      0 ≤ address ∧ address < part.header.length ∧
        ∀ item ∈ part.items, ¬ item.Reserves address ∧ ¬ item.Lacks address

/-- The text records of a section are refused at the first machine instruction without code. -/
theorem textRecords_refused {part : Section} {limit : Int} {digits : RecordLimit}
    (packable : ∀ item ∈ part.items, item.Packable part.literals)
    (accepted : RecordLimit.ofInt limit = .ok digits) {front back : List Item} {item : Item}
    (split : part.items = front ++ item :: back) (unencoded : item.isUnencoded = true)
    (earlier : ∀ other ∈ front, other.isUnencoded = false) :
    part.textRecords limit =
      .error (item.statement.failure (.codeMissing item.statement.operator)) := by
  have inside : ∀ other ∈ front, other.Packable part.literals := by
    intro other mem
    exact packable other (by rw [split]; exact List.mem_append_left _ mem)
  obtain ⟨later, packs⟩ := @exists_packItems digits part.literals front inside earlier {}
  rw [Section.textRecords, accepted, split]
  simp only [packItems_append packs, packItems, packItem_of_isUnencoded unencoded]
  rfl

/-- The text records of a section that is laid out are written if no machine instruction is without
code, and they lack the code that is missing. -/
theorem LaidOut.partlyCovered {part : Section} (laid : part.LaidOut) {limit : Int}
    {digits : RecordLimit} (accepted : RecordLimit.ofInt limit = .ok digits)
    (encoded : ∀ item ∈ part.items, item.isUnencoded = false) :
    ∃ records, part.textRecords limit = .ok records ∧ PartlyCovered part records := by
  obtain ⟨records, written, within, emitted⟩ :=
    laid.textRecords (fun item mem => Item.code_of_isUnencoded (encoded item mem)) accepted
  obtain ⟨increasing, inside⟩ := laid.contiguous.laidOut_addresses laid.items
  refine ⟨records, written, fun record mem => (within record mem).even, emitted, ?_, ?_⟩
  · rwa [emitted]
  · intro address
    rw [emitted, inside, laid.length]
    simp

section Unfinished

variable {directory : Directory} {part reached : Section} {rules : Rules}

/-- The items of a section that the second pass has not encoded to its end can be packed. -/
theorem Unfinished.packable (unfinished : part.Unfinished rules reached)
    (fresh : part.Fresh directory) (lays : (part.layOut rules).result = .ok ()) :
    ∀ item ∈ reached.items, item.Packable reached.literals := by
  have laid : ∀ item ∈ (part.layOut rules).state.items,
      item.Packable (part.layOut rules).state.literals :=
    fun item mem => ((fresh.laidOut lays).items item mem).packable
  cases unfinished with
  | untouched => exact laid
  | stopped fails =>
    have each : List.Forall₂ (fun _ done : Item =>
        done.Packable (part.layOut rules).state.literals) (part.layOut rules).state.items
        ((part.layOut rules).state.encode rules).state.items := by
      rw [(encode_eq rules _).2]
      apply Outcome.forall₂_sweep
      · exact fun item mem => laid item mem
      · exact fun _ item mem => (laid item mem).encode (fresh.bare mem).1
    intro done mem
    obtain ⟨_, _, packable⟩ := exists_mem_of_forall₂ each mem
    rwa [(encode_eq rules _).2]

/-- A section that the second pass has not encoded to its end has no text records if a machine
instruction is without code: they are refused at the first one, whatever the directory is.  Otherwise,
if the opcodes are bytes, it has text records, which lack the bytes of every data item without code. -/
theorem textRecords_unfinished {limit : Int} (fresh : part.Fresh directory)
    (lays : (part.layOut rules).result = .ok ()) (unfinished : part.Unfinished rules reached)
    (room : 2 ≤ limit) (even : limit % 2 = 0) :
    (∀ front item back, reached.items = front ++ item :: back → item.isUnencoded = true →
      (∀ other ∈ front, other.isUnencoded = false) →
        reached.textRecords limit =
          .error (item.statement.failure (.codeMissing item.statement.operator))) ∧
      (directory.HasByteOpcodes → (∀ item ∈ reached.items, item.isUnencoded = false) →
        ∃ records, reached.textRecords limit = .ok records ∧ PartlyCovered reached records) := by
  have accepted : RecordLimit.ofInt limit = .ok ⟨limit.toNat, by omega, by omega⟩ :=
    dif_pos ⟨room, even⟩
  constructor
  · intro front item back split unencoded earlier
    exact textRecords_refused (unfinished.packable fresh lays) accepted split unencoded earlier
  · intro bytes encoded
    have laid : reached.LaidOut := by
      cases unfinished with
      | untouched => exact fresh.laidOut lays
      | stopped fails => exact fresh.laidOut_encode bytes lays
    exact laid.partlyCovered accepted encoded

end Unfinished

/-- A section whose second pass stops at a word with a name that nothing defines. -/
def stalled : Section :=
  .ofStatements .builtin
    [.unplaced none "LDA" ["#1"], .unplaced none "WORD" ["NOWHERE"], .unplaced none "RESB" ["2"],
      .unplaced none "BYTE" ["X'FF'"]]

/-- Before the second pass the records of the section are refused at its first item; after it has
stopped they are written, without the word and without the byte. -/
theorem textRecords_unfinished_stalled :
    let laid := (stalled.layOut ⟨.builtin, true⟩).state
    let reached := (laid.encode ⟨.builtin, true⟩).state
    stalled.Fresh .builtin ∧ (stalled.layOut ⟨.builtin, true⟩).result = .ok () ∧
      (laid.encode ⟨.builtin, true⟩).result =
        .error ((Statement.unplaced none "WORD" ["NOWHERE"]).failure (.undefinedSymbol "NOWHERE")) ∧
      laid.textRecords 60 =
        .error ((Statement.unplaced none "LDA" ["#1"]).failure (.codeMissing "LDA")) ∧
      ∃ records, reached.textRecords 60 = .ok records ∧ PartlyCovered reached records := by
  have fresh : stalled.Fresh .builtin := by decide +kernel
  have lays : (stalled.layOut ⟨.builtin, true⟩).result = .ok () := by decide +kernel
  have fails : ((stalled.layOut ⟨.builtin, true⟩).state.encode ⟨.builtin, true⟩).result =
      .error ((Statement.unplaced none "WORD" ["NOWHERE"]).failure
        (.undefinedSymbol "NOWHERE")) := by decide +kernel
  have before := (textRecords_unfinished fresh lays .untouched (by decide : (2 : Int) ≤ 60)
    (by decide)).1
  have after := (textRecords_unfinished fresh lays (.stopped fails)
    (by decide : (2 : Int) ≤ 60) (by decide)).2 Directory.hasByteOpcodes_builtin
  refine ⟨fresh, lays, fails, ?_, after (by decide +kernel)⟩
  exact before [] _ _ (by rfl) (by decide +kernel) (by simp)

/-- The records of the section hold nothing of the word at 3, which has no code and is not reserved. -/
theorem textRecords_short :
    let laid := (stalled.layOut ⟨.builtin, true⟩).state
    let reached := (laid.encode ⟨.builtin, true⟩).state
    stalled.Fresh .builtin ∧ (stalled.layOut ⟨.builtin, true⟩).result = .ok () ∧
      (laid.encode ⟨.builtin, true⟩).result.isOk = false ∧
      (∃ item ∈ reached.items, item.holdsCode = true ∧ item.code = none ∧ item.location = 3) ∧
      reached.textRecords 60 = .ok [⟨0, ['0', '1', '0', '0', '0', '1']⟩] ∧
      3 < reached.header.length ∧ ∀ item ∈ reached.items, ¬ item.Reserves 3 := by
  decide +kernel

end Section

end TwoPass
