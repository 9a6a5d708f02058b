import TwoPass.Proofs.Packing
import TwoPass.Proofs.Passes
import TwoPass.Record.Object

/-!
# The text records cover the section

After both passes over a fresh section its text records can be written.  Read as bytes with their
addresses they are the code of the items and the literals of the pools, in source order.  The
addresses increase, and they are all those of the section without the ones that are reserved.
-/

namespace TwoPass

/-- The bytes of a literal at its address. -/
def LiteralTable.bytesOf (literals : LiteralTable) (text : String) : List AddressedByte :=
  match literals.entry? text with
  | some literal => match literal.location, literal.hex with
    | some location, .ok bytes => bytesFrom location bytes
    | _, _ => []
  | none => []

namespace Item

/-- The bytes that an item puts into the object program: its code at its address, or the literals of
its pool at theirs. -/
def emitted (literals : LiteralTable) (item : Item) : List AddressedByte :=
  if item.holdsCode then bytesFrom item.location (item.code.getD "").toList
  else if item.placesLiterals then item.pool.flatMap literals.bytesOf
  else []

/-- Whether an address is among the bytes that an item reserves. -/
def Reserves (item : Item) (address : Int) : Prop :=
  item.location ≤ address ∧ address < item.location + item.reserved

/-- The number of bytes that an item takes up for code that it does not have. -/
def missing (item : Item) : Nat := if item.holdsCode ∧ item.code = none then item.size else 0

/-- Whether an address is among the bytes of the code that an item does not have. -/
def Lacks (item : Item) (address : Int) : Prop :=
  item.location ≤ address ∧ address < item.location + item.missing

instance (item : Item) (address : Int) : Decidable (item.Reserves address) :=
  inferInstanceAs (Decidable (_ ∧ _))

end Item

namespace LiteralTable

variable {literals : LiteralTable}

/-- A literal that is placed and can be written has its bytes at its address. -/
theorem bytesOf_eq {text : String} {literal : Literal} {location : Int} {bytes : List Char}
    (entry : literals.entry? text = some literal) (located : literal.location = some location)
    (written : literal.hex = .ok bytes) : literals.bytesOf text = bytesFrom location bytes := by
  simp [bytesOf, entry, located, written]

/-- The text of an entry is the one that it was looked up by. -/
theorem text_of_entry? {text : String} {literal : Literal}
    (entry : literals.entry? text = some literal) : literal.text = text := by
  unfold entry? at entry
  simpa using List.find?_some entry

/-- The literals of a pool that is laid out lie one behind the other. -/
theorem Laid.addresses {address : Int} {pool : List String} (laid : literals.Laid address pool)
    (storable : ∀ text ∈ pool, Form.Storable text) :
    (pool.flatMap literals.bytesOf).map AddressedByte.address =
      consecutive address (pool.map Form.lengthOf).sum := by
  induction pool generalizing address with
  | nil => rfl
  | cons text rest ih =>
    obtain ⟨⟨literal, entry, located⟩, further⟩ := laid
    obtain ⟨bytes, written⟩ := (storable text List.mem_cons_self).written
    have own : literal.hex = .ok bytes := by rw [Literal.hex, text_of_entry? entry, written]
    have length : bytes.length / 2 = Form.lengthOf text := by
      rw [(Form.hexOf_eq_ok written).2.1]
      omega
    rw [List.flatMap_cons, List.map_append, bytesOf_eq entry located own, map_address_bytesFrom,
      length, ih further fun other mem => storable other (List.mem_cons_of_mem text mem),
      List.map_cons, List.sum_cons, consecutive_append]

end LiteralTable

namespace Item

variable {literals : LiteralTable} {item : Item}

/-- An item over which both passes have been misses no code. -/
theorem Ready.missing_eq (ready : item.Ready literals) : item.missing = 0 := by
  rw [missing, if_neg]
  rintro ⟨holds, none⟩
  obtain ⟨code, found, _⟩ := ready.code holds
  cases none.symm.trans found

/-- The bytes that an item emits lie from its address on, as many as it fills and does not miss. -/
theorem LaidOut.addresses (laid : item.LaidOut literals) :
    (item.emitted literals).map AddressedByte.address =
      consecutive item.location (item.filled - item.missing) := by
  obtain ⟨instruction, known⟩ := Option.isSome_iff_exists.1 laid.known
  have holds : item.holdsCode = instruction.holdsCode := by simp [holdsCode, known]
  have places : item.placesLiterals = instruction.placesLiterals := by simp [placesLiterals, known]
  have size : item.size = instruction.size := by simp [Item.size, known]
  rw [emitted, filled]
  split
  · rename_i own
    have plain : item.placesLiterals = false := by
      by_contra wrong
      rw [Bool.not_eq_false, places] at wrong
      rw [holds, (Instruction.plain_of_places wrong).2.2] at own
      cases own
    rw [laid.plain plain, map_address_bytesFrom]
    cases found : item.code with
    | none => simp [missing, own, found, consecutive]
    | some code => simp [missing, found, (laid.code code found).2.length]
  · rename_i bare
    have none : item.missing = 0 := if_neg fun both => bare both.1
    rw [none, Nat.sub_zero]
    rw [holds, Bool.not_eq_true] at bare
    rw [size, Instruction.size_eq_zero_of_not_holdsCode bare, Nat.zero_add]
    split
    · exact laid.laid.addresses laid.storable
    · rename_i plain
      rw [laid.plain (Bool.not_eq_true _ ▸ plain)]
      rfl

/-- The bytes that an item emits lie from its address on, as many as it fills. -/
theorem Ready.addresses (ready : item.Ready literals) :
    (item.emitted literals).map AddressedByte.address = consecutive item.location item.filled := by
  rw [ready.laidOut.addresses, ready.missing_eq, Nat.sub_zero]

/-- An item that reserves bytes fills none, and it misses no more than it fills. -/
theorem LaidOut.filled_or_reserved (laid : item.LaidOut literals) :
    (item.filled = 0 ∨ item.reserved = 0) ∧
      (item.missing = 0 ∨ item.missing = item.filled) := by
  obtain ⟨instruction, known⟩ := Option.isSome_iff_exists.1 laid.known
  have reserved : item.reserved = instruction.reservedUnit * item.count := by
    simp [Item.reserved, known]
  have own : item.holdsCode = instruction.holdsCode := by simp [holdsCode, known]
  have asks : item.placesLiterals = instruction.placesLiterals := by simp [placesLiterals, known]
  cases holds : instruction.holdsCode with
  | true =>
    have plain : item.placesLiterals = false := by
      cases places : instruction.placesLiterals with
      | false => rw [asks, places]
      | true =>
        rw [(Instruction.plain_of_places places).2.2] at holds
        cases holds
    refine ⟨.inr ?_, ?_⟩
    · rw [reserved, (Instruction.size_pos_of_holdsCode holds).2, Nat.zero_mul]
    · rw [missing, filled, laid.plain plain]
      split
      · exact .inr rfl
      · exact .inl rfl
  | false =>
    refine ⟨?_, .inl ?_⟩
    · cases places : instruction.placesLiterals with
      | true =>
        right
        rw [reserved, (Instruction.plain_of_places places).2.1, Nat.zero_mul]
      | false =>
        left
        have size : item.size = 0 := by
          simp [Item.size, known, Instruction.size_eq_zero_of_not_holdsCode holds]
        rw [filled, size, laid.plain (asks.trans places)]
        rfl
    · rw [missing, own, holds, if_neg]
      exact fun both => Bool.false_ne_true both.1

/-- An item that gives a label a value takes up no bytes. -/
theorem LaidOut.advance_of_equates (laid : item.LaidOut literals) (equates : item.equates = true) :
    item.advance = 0 := by
  obtain ⟨instruction, known⟩ := Option.isSome_iff_exists.1 laid.known
  have action : instruction.action = .directive .equ := by simpa [Item.equates, known] using equates
  have plain : item.placesLiterals = false := by
    simp [placesLiterals, known, Instruction.placesLiterals, action]
  rw [advance, filled, laid.plain plain]
  simp [Item.size, Item.reserved, known, Instruction.size, Instruction.reservedUnit, action,
    Directive.size]

end Item

namespace Layout

variable {literals : LiteralTable}

/-- The first of some items that lie one behind the other has their address, if it takes up bytes. -/
theorem Contiguous.location_head {address : Nat} {item : Item} {rest : List Item}
    (contiguous : Contiguous address (item :: rest)) (laid : item.LaidOut literals)
    (positive : 0 < item.advance) : item.location = address := by
  apply contiguous.1
  by_contra wrong
  have none := laid.advance_of_equates (Bool.not_eq_false _ ▸ wrong)
  omega

/-- An item that takes up bytes lies at or behind the address where its row begins. -/
theorem Contiguous.le_location {address : Nat} {items : List Item}
    (contiguous : Contiguous address items) (laid : ∀ item ∈ items, item.LaidOut literals) :
    ∀ item ∈ items, 0 < item.advance → (address : Int) ≤ item.location := by
  induction items generalizing address with
  | nil => simp
  | cons first rest ih =>
    intro item mem positive
    rcases List.mem_cons.1 mem with rfl | later
    · exact Int.le_of_eq (contiguous.location_head (laid item mem) positive).symm
    · have behind := ih contiguous.2 (fun other mem => laid other (List.mem_cons_of_mem _ mem)) item
        later positive
      omega

/-- Items that lie one behind the other emit bytes at increasing addresses: those between the first
and the last that are not reserved and for which no code is missing. -/
theorem Contiguous.laidOut_addresses {address : Nat} {items : List Item}
    (contiguous : Contiguous address items) (laid : ∀ item ∈ items, item.LaidOut literals) :
    let addresses := (items.flatMap (Item.emitted literals)).map AddressedByte.address
    addresses.Pairwise (· < ·) ∧ ∀ place, place ∈ addresses ↔
      (address : Int) ≤ place ∧ place < (address + (items.map Item.advance).sum : Nat) ∧
        ∀ item ∈ items, ¬ item.Reserves place ∧ ¬ item.Lacks place := by
  induction items generalizing address with
  | nil =>
    refine ⟨.nil, fun place => ?_⟩
    simp
  | cons first rest ih =>
    have head := laid first List.mem_cons_self
    have others : ∀ item ∈ rest, item.LaidOut literals :=
      fun other mem => laid other (List.mem_cons_of_mem _ mem)
    have located := contiguous.location_head head
    have apart := head.filled_or_reserved
    have whole : first.advance = first.filled + first.reserved := rfl
    have behind : ∀ place : Int, place < (address + first.advance : Nat) →
        ∀ item ∈ rest, ¬ item.Reserves place ∧ ¬ item.Lacks place := by
      intro place small item mem
      have covers : item.advance = item.filled + item.reserved := rfl
      have within := (others item mem).filled_or_reserved
      have later := contiguous.2.le_location others item mem
      rw [Item.Reserves, Item.Lacks]
      omega
    obtain ⟨increasing, inside⟩ := ih contiguous.2 others
    simp only [List.flatMap_cons, List.map_append, head.addresses]
    constructor
    · refine List.pairwise_append.2 ⟨pairwise_consecutive _ _, increasing, ?_⟩
      intro low front high back
      have bounds := mem_consecutive.1 front
      have after := ((inside high).1 back).1
      have start := located (by omega)
      omega
    · intro place
      rw [List.mem_append, mem_consecutive, inside place, List.map_cons, List.sum_cons,
        List.forall_mem_cons, Item.Reserves, Item.Lacks]
      constructor
      · rintro (⟨low, high⟩ | ⟨low, high, free⟩)
        · have start := located (by omega)
          exact ⟨by omega, by omega, by omega, behind place (by omega)⟩
        · refine ⟨by omega, by omega, ?_, free⟩
          by_cases empty : first.advance = 0
          · omega
          · have start := located (by omega)
            omega
      · rintro ⟨low, high, own, free⟩
        by_cases small : place < (address + first.advance : Nat)
        · have start := located (by omega)
          exact .inl (by omega)
        · exact .inr ⟨by omega, by omega, free⟩

/-- Items over which both passes have been and that lie one behind the other emit bytes at increasing
addresses: those between the first and the last that are not reserved. -/
theorem Contiguous.addresses {address : Nat} {items : List Item}
    (contiguous : Contiguous address items) (ready : ∀ item ∈ items, item.Ready literals) :
    let addresses := (items.flatMap (Item.emitted literals)).map AddressedByte.address
    addresses.Pairwise (· < ·) ∧ ∀ place, place ∈ addresses ↔
      (address : Int) ≤ place ∧ place < (address + (items.map Item.advance).sum : Nat) ∧
        ∀ item ∈ items, ¬ item.Reserves place := by
  obtain ⟨increasing, inside⟩ :=
    contiguous.laidOut_addresses fun item mem => (ready item mem).laidOut
  refine ⟨increasing, fun place => (inside place).trans ?_⟩
  have complete : ∀ item ∈ items, ¬ item.Lacks place := by
    intro item mem lacks
    rw [Item.Lacks, (ready item mem).missing_eq] at lacks
    omega
  constructor
  · exact fun ⟨low, high, free⟩ => ⟨low, high, fun item mem => (free item mem).1⟩
  · exact fun ⟨low, high, free⟩ =>
      ⟨low, high, fun item mem => ⟨free item mem, complete item mem⟩⟩

end Layout

namespace Section

variable {limit : RecordLimit} {literals : LiteralTable} {packer : Packer}

/-- What it is to pack some bytes: they go behind those that are packed already, and the limit is
kept. -/
def Packs (limit : RecordLimit) (packer : Packer) (bytes : List AddressedByte)
    (result : Except Failure Packer) : Prop :=
  ∃ later, result = .ok later ∧ later.WithinLimit limit ∧ later.bytes = packer.bytes ++ bytes

/-- A literal that has an address and can be written is packed there, in whole bytes. -/
theorem packLiteral_eq {text : String} {literal : Literal} {address : Int}
    (entry : literals.entry? text = some literal) (located : literal.location = some address)
    (storable : Form.Storable text) :
    ∃ bytes, literal.hex = .ok bytes ∧ bytes.length % 2 = 0 ∧
      packLiteral limit literals packer text = .ok (packer.add limit address bytes) := by
  obtain ⟨bytes, written⟩ := storable.written
  have own : literal.hex = .ok bytes := by
    rw [Literal.hex, LiteralTable.text_of_entry? entry, written]
  refine ⟨bytes, own, ?_, by simp only [packLiteral, entry, own, located]⟩
  rw [(Form.hexOf_eq_ok written).2.1]
  omega

/-- The literals of a pool that is laid out are packed. -/
theorem packPool_packs (kept : packer.WithinLimit limit) {address : Int} {pool : List String}
    (laid : literals.Laid address pool) (storable : ∀ text ∈ pool, Form.Storable text) :
    Packs limit packer (pool.flatMap literals.bytesOf) (packPool limit literals packer pool) := by
  induction pool generalizing packer address with
  | nil => exact ⟨packer, rfl, kept, by simp⟩
  | cons text rest ih =>
    obtain ⟨⟨literal, entry, located⟩, further⟩ := laid
    obtain ⟨bytes, own, even, first⟩ := packLiteral_eq entry located (storable text List.mem_cons_self)
    obtain ⟨added, within⟩ := packer.add_spec kept address even
    obtain ⟨later, packs, limited, all⟩ := ih within further fun other mem =>
      storable other (List.mem_cons_of_mem text mem)
    refine ⟨later, ?_, limited, ?_⟩
    · rw [packPool, first]
      exact packs
    · rw [all, added, List.flatMap_cons, LiteralTable.bytesOf_eq entry located own,
        List.append_assoc]

/-- An item that is laid out is packed, unless it is a machine instruction without code. -/
theorem packItem_packs (kept : packer.WithinLimit limit) {item : Item}
    (laid : item.LaidOut literals) (encoded : item.isMachine = true → item.code ≠ none) :
    Packs limit packer (item.emitted literals) (packItem limit literals packer item) := by
  obtain ⟨instruction, known⟩ := Option.isSome_iff_exists.1 laid.known
  have holds : item.holdsCode = instruction.holdsCode := by simp [Item.holdsCode, known]
  have unchanged : Packs limit packer [] (.ok packer) := ⟨packer, rfl, kept, by simp⟩
  rw [packItem.eq_def, Item.emitted]
  cases found : item.code with
  | some code =>
    obtain ⟨own, bytes⟩ := laid.code code found
    have positive := (Instruction.size_pos_of_holdsCode (holds ▸ own)).1
    have size : item.size = instruction.size := by simp [Item.size, known]
    have length := bytes.length
    have filled : code ≠ "" := by
      rintro rfl
      simp at length
      omega
    obtain ⟨added, within⟩ := packer.add_spec kept item.location
      (show code.toList.length % 2 = 0 by omega)
    rw [Option.getD_some, if_pos filled, if_pos own]
    exact ⟨_, rfl, within, added⟩
  | none =>
    rw [known]
    simp only [Option.getD_none, ne_eq, not_true_eq_false, if_false, Option.map_some]
    cases action : instruction.action with
    | machine format opcode =>
      have machine : item.isMachine = true := by
        simp [Item.isMachine, known, Instruction.isDirective, action]
      exact absurd found (encoded machine)
    | directive directive =>
      have data : item.holdsCode =
          (decide (directive = .byte) || decide (directive = .word)) := by
        rw [holds]
        cases directive <;> simp [Instruction.holdsCode, action]
      have pool : item.placesLiterals =
          (decide (directive = .ltorg) || decide (directive = .finish)) := by
        simp [Item.placesLiterals, known, Instruction.placesLiterals, action]
      have closed : Packs limit packer [] (.ok packer.flush) :=
        ⟨packer.flush, rfl, by simpa [Packer.WithinLimit] using kept, by simp [Packer.bytes]⟩
      rw [data, pool]
      cases directive with
      | resb => exact closed
      | resw => exact closed
      | ltorg => exact packPool_packs kept laid.laid laid.storable
      | finish => exact packPool_packs kept laid.laid laid.storable
      | _ => exact unchanged

/-- Items that are laid out are packed in order, if no machine instruction among them is without
code. -/
theorem packItems_packs (kept : packer.WithinLimit limit) {items : List Item}
    (laid : ∀ item ∈ items, item.LaidOut literals)
    (encoded : ∀ item ∈ items, item.isMachine = true → item.code ≠ none) :
    Packs limit packer (items.flatMap (Item.emitted literals))
      (packItems limit literals packer items) := by
  induction items generalizing packer with
  | nil => exact ⟨packer, rfl, kept, by simp⟩
  | cons item rest ih =>
    rw [List.forall_mem_cons] at laid encoded
    obtain ⟨middle, first, within, own⟩ := packItem_packs kept laid.1 encoded.1
    obtain ⟨later, packs, limited, all⟩ := ih within laid.2 encoded.2
    refine ⟨later, ?_, limited, ?_⟩
    · rw [packItems, first]
      exact packs
    · rw [all, own, List.flatMap_cons, List.append_assoc]

/-- A section that is laid out has text records that hold what its items emit, if no machine
instruction in it is without code. -/
theorem LaidOut.textRecords {part : Section} (laid : part.LaidOut)
    (encoded : ∀ item ∈ part.items, item.isMachine = true → item.code ≠ none) {limit : Int}
    {digits : RecordLimit} (accepted : RecordLimit.ofInt limit = .ok digits) :
    ∃ records, part.textRecords limit = .ok records ∧
      (∀ record ∈ records, record.WithinLimit digits) ∧
      records.flatMap TextRecord.bytes = part.items.flatMap (Item.emitted part.literals) := by
  obtain ⟨later, packs, limited, bytes⟩ :=
    packItems_packs (Packer.withinLimit_empty digits) laid.items encoded
  refine ⟨later.records, ?_, limited, bytes⟩
  simp only [Section.textRecords, accepted, packs]
  rfl

/-- An assembled section has text records that hold what its items emit. -/
theorem Assembled.textRecords {part : Section} (assembled : part.Assembled) {limit : Int}
    {digits : RecordLimit} (accepted : RecordLimit.ofInt limit = .ok digits) :
    ∃ records, part.textRecords limit = .ok records ∧
      (∀ record ∈ records, record.WithinLimit digits) ∧
      records.flatMap TextRecord.bytes = part.items.flatMap (Item.emitted part.literals) := by
  apply assembled.laidOut.textRecords _ accepted
  intro item mem machine none
  obtain ⟨instruction, format, opcode, known, action⟩ := Item.exists_of_isMachine machine
  have holds : item.holdsCode = true := by
    simp [Item.holdsCode, known, Instruction.holdsCode, action]
  obtain ⟨code, found, _⟩ := (assembled.items item mem).code holds
  cases none.symm.trans found

/-- How the text records of a section cover it. -/
structure Covered (part : Section) (records : List TextRecord) : Prop where
  /-- Every item that holds code has two digits for each byte of its instruction. -/
  code : ∀ item ∈ part.items, item.holdsCode = true →
    ∃ code, item.code = some code ∧ code.length = 2 * item.size
  /-- Every literal of a pool has an address and bytes. -/
  literals : ∀ item ∈ part.items, ∀ text ∈ item.pool, ∃ literal location bytes,
    part.literals.entry? text = some literal ∧ literal.location = some location ∧
      literal.hex = .ok bytes
  /-- Every record holds whole bytes. -/
  whole : ∀ record ∈ records, record.payload.length % 2 = 0
  /-- The bytes of the records are those that the items emit, in source order. -/
  bytes : records.flatMap TextRecord.bytes = part.items.flatMap (Item.emitted part.literals)
  /-- The addresses increase. -/
  increasing : ((records.flatMap TextRecord.bytes).map AddressedByte.address).Pairwise (· < ·)
  /-- The addresses are those of the section without the reserved ones. -/
  addresses : ∀ address,
    address ∈ (records.flatMap TextRecord.bytes).map AddressedByte.address ↔
      0 ≤ address ∧ address < part.header.length ∧ ∀ item ∈ part.items, ¬ item.Reserves address

/-- Both passes over a fresh section keep its statements, and then its text records can be written
and cover it. -/
theorem textRecords_cover {directory : Directory} {part : Section} {rules : Rules} {limit : Int}
    (fresh : part.Fresh directory) (bytes : directory.HasByteOpcodes)
    (succeeds : (part.assemble rules).result = .ok ()) (room : 2 ≤ limit) (even : limit % 2 = 0) :
    let reached := (part.assemble rules).state
    (reached.items.map fun item => (item.statement, item.instruction)) =
        (part.items.map fun item => (item.statement, item.instruction)) ∧
      ∃ records, reached.textRecords limit = .ok records ∧ Covered reached records := by
  have assembled := assembled fresh bytes succeeds
  have accepted : ∃ digits, RecordLimit.ofInt limit = .ok digits := by
    rw [RecordLimit.ofInt, dif_pos ⟨room, even⟩]
    exact ⟨_, rfl⟩
  obtain ⟨digits, accepted⟩ := accepted
  obtain ⟨records, written, within, emitted⟩ := assembled.textRecords accepted
  obtain ⟨increasing, inside⟩ := assembled.contiguous.addresses assembled.items
  refine ⟨fresh.kept succeeds, records, written, ?_⟩
  refine
    { code := fun item mem holds => ?_
      literals := fun item mem text inPool => ?_
      whole := fun record mem => (within record mem).even
      bytes := emitted
      increasing := by rwa [emitted]
      addresses := fun address => ?_ }
  · obtain ⟨code, found, bytes⟩ := (assembled.items item mem).code holds
    exact ⟨code, found, by rw [← bytes.length, String.length_toList]⟩
  · have ready := assembled.items item mem
    obtain ⟨before, after, split⟩ := List.append_of_mem inPool
    have laid := ready.laid
    rw [split] at laid
    obtain ⟨literal, entry, located⟩ := laid.location
    obtain ⟨bytes, hex⟩ := (ready.storable text inPool).written
    refine ⟨literal, _, bytes, entry, located, ?_⟩
    rw [Literal.hex, LiteralTable.text_of_entry? entry, hex]
  · rw [emitted, inside, assembled.length]
    simp

/-- A section with code of several widths, data, reserved space in two places, a label with a value of
its own, and two pools. -/
def gaps : Section :=
  .ofStatements .builtin
    [.unplaced (some "GAPS") "START" ["4096"], .unplaced none "LDA" ["=C'EOF'"],
      .unplaced none "RESW" ["2"], .unplaced none "BYTE" ["X'F1'"], .unplaced none "LTORG" [],
      .unplaced (some "A") "EQU" ["5"], .unplaced none "+LDA" ["#3"], .unplaced none "RESB" ["1"],
      .unplaced none "CLEAR" ["X"], .unplaced none "LDA" ["=X'05'"], .unplaced none "END" []]

/-- The records of the section leave out the bytes from 3 to 8 and the byte 17. -/
theorem textRecords_cover_gaps :
    let reached := (gaps.assemble ⟨.builtin, true⟩).state
    gaps.Fresh .builtin ∧ Directory.builtin.HasByteOpcodes ∧
      (gaps.assemble ⟨.builtin, true⟩).result = .ok () ∧ reached.header.length = 24 ∧
      (reached.items.flatMap (Item.emitted reached.literals)).map AddressedByte.address =
        [0, 1, 2, 9, 10, 11, 12, 13, 14, 15, 16, 18, 19, 20, 21, 22, 23] ∧
      ∃ records, reached.textRecords 14 = .ok records ∧ Covered reached records := by
  have fresh : gaps.Fresh .builtin := by decide +kernel
  have succeeds : (gaps.assemble ⟨.builtin, true⟩).result = .ok () := by decide +kernel
  have bytes := Directory.hasByteOpcodes_builtin
  exact ⟨fresh, bytes, succeeds, by decide +kernel, by decide +kernel,
    (textRecords_cover fresh bytes succeeds (by decide) (by decide)).2⟩

end Section

end TwoPass
