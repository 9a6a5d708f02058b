import TwoPass.Proofs.Declarations
import TwoPass.Proofs.Relocation
import TwoPass.Proofs.Rendering

/-!
# Object programs are read back

The object program of an assembled source is a row of images, and an image that fits its columns is
read back.  So it is left to show that the images fit: an assembled section emits upper-case digits at
addresses below its length, asks for modifications inside its code, and shares names that were read
from one line.  Only the start address, the length and the shared names can be too long for their
columns, and these are bounded by assumption.
-/

namespace TwoPass

/-- The bytes of a literal are written in upper-case digits. -/
theorem LiteralTable.upper_of_mem_bytesOf {literals : LiteralTable} {text : String}
    {byte : AddressedByte} (mem : byte ∈ literals.bytesOf text) :
    Text.Hex.isUpperDigit byte.high = true ∧ Text.Hex.isUpperDigit byte.low = true := by
  rw [bytesOf] at mem
  split at mem
  · split at mem
    · rename_i bytes _ written
      obtain ⟨_, _, upper⟩ := Form.hexOf_eq_ok written
      obtain ⟨high, low⟩ := digits_of_mem_bytesFrom mem
      exact ⟨upper _ high, upper _ low⟩
    · cases mem
  · cases mem

/-- The bytes that an item emits are written in upper-case digits. -/
theorem Item.Ready.upper_of_mem_emitted {literals : LiteralTable} {item : Item}
    (ready : item.Ready literals) {byte : AddressedByte} (mem : byte ∈ item.emitted literals) :
    Text.Hex.isUpperDigit byte.high = true ∧ Text.Hex.isUpperDigit byte.low = true := by
  rw [emitted] at mem
  split at mem
  · rename_i own
    obtain ⟨code, found, bytes⟩ := ready.code own
    rw [found, Option.getD_some] at mem
    obtain ⟨high, low⟩ := digits_of_mem_bytesFrom mem
    exact ⟨bytes.upper _ high, bytes.upper _ low⟩
  · split at mem
    · obtain ⟨text, _, own⟩ := List.mem_flatMap.1 mem
      exact LiteralTable.upper_of_mem_bytesOf own
    · cases mem

/-- A symbol stands on one line. -/
theorem Operand.newline_not_mem_of_isSymbol {text : String} (named : isSymbol text = true) :
    '\n' ∉ text.toList := by
  rw [isSymbol] at named
  split at named
  · rename_i empty
    simp [empty]
  · rename_i first rest split
    rw [Bool.and_eq_true, List.all_eq_true] at named
    rw [split]
    intro mem
    rcases List.mem_cons.1 mem with rfl | later
    · exact absurd named.1 (by decide)
    · exact absurd (named.2 _ later) (by decide)

namespace Section

/-- A section whose start address, length and shared names fit their columns. -/
structure FitsColumns (part : Section) : Prop where
  /-- The start address has at most six digits. -/
  start : part.header.start < 0x1000000
  /-- The length has at most six digits. -/
  length : part.header.length < 0x1000000
  /-- Exported names have at most six characters. -/
  exports : ∀ item ∈ part.items, ∀ name ∈ item.exported, name.length ≤ 6
  /-- Imported names have at most six characters. -/
  imports : ∀ item ∈ part.items, ∀ name ∈ item.imported, name.length ≤ 6

instance (part : Section) : Decidable part.FitsColumns :=
  decidable_of_iff (part.header.start < 0x1000000 ∧ part.header.length < 0x1000000 ∧
      (∀ item ∈ part.items, ∀ name ∈ item.exported, name.length ≤ 6) ∧
      ∀ item ∈ part.items, ∀ name ∈ item.imported, name.length ≤ 6)
    ⟨fun ⟨start, length, exports, imports⟩ => ⟨start, length, exports, imports⟩,
      fun fits => ⟨fits.start, fits.length, fits.exports, fits.imports⟩⟩

variable {part : Section}

/-- What an item of an assembled section fills lies inside the section. -/
theorem Assembled.inside (assembled : part.Assembled) {item : Item} (mem : item ∈ part.items)
    {place : Int} (low : item.location ≤ place) (high : place < item.location + item.filled) :
    0 ≤ place ∧ place < part.header.length := by
  have own : place ∈ (item.emitted part.literals).map AddressedByte.address := by
    rw [(assembled.items item mem).addresses]
    exact mem_consecutive.2 ⟨low, high⟩
  obtain ⟨byte, emitted, rfl⟩ := List.mem_map.1 own
  have listed := List.mem_map_of_mem (f := AddressedByte.address)
    (List.mem_flatMap_of_mem mem emitted)
  obtain ⟨least, most, _⟩ := ((assembled.contiguous.addresses assembled.items).2 _).1 listed
  rw [assembled.length]
  omega

/-- A limit that is accepted is the number of digits of a record. -/
theorem digits_of_textRecords {limit : Int} {texts : List TextRecord}
    (written : part.textRecords limit = .ok texts) :
    ∃ digits, RecordLimit.ofInt limit = .ok digits ∧ (digits.digits : Int) = limit := by
  rw [textRecords] at written
  split at written
  · cases written
  · rename_i digits accepted
    exact ⟨digits, accepted, RecordLimit.digits_of_ofInt accepted⟩

/-- The text records of an assembled section fit their columns. -/
theorem Assembled.text_fits (assembled : part.Assembled) (small : part.header.length < 0x1000000)
    {limit : Int} (most : limit ≤ 510) {texts : List TextRecord}
    (written : part.textRecords limit = .ok texts) :
    ∀ record ∈ texts, (ObjectFile.Record.text record).Fits := by
  obtain ⟨digits, accepted, width⟩ := digits_of_textRecords written
  obtain ⟨records, same, within, bytes⟩ := assembled.textRecords accepted
  rw [same] at written
  cases written
  intro record mem
  have own := within record mem
  have bound := own.bound
  have nonempty := own.nonempty
  have even := own.even
  -- Every byte of the record is a byte that an item emits.
  have emitted : ∀ byte ∈ record.bytes, ∃ item ∈ part.items, byte ∈ item.emitted part.literals := by
    intro byte inside
    have listed := List.mem_flatMap_of_mem mem inside
    rw [bytes] at listed
    exact List.mem_flatMap.1 listed
  refine ⟨?_, even, by omega, ?_⟩
  · obtain ⟨byte, inside, starts⟩ := List.mem_map.1 own.start_mem
    obtain ⟨item, listed, holds⟩ := emitted byte inside
    have place := List.mem_map_of_mem (f := AddressedByte.address) holds
    rw [(assembled.items item listed).addresses, starts] at place
    obtain ⟨low, high⟩ := mem_consecutive.1 place
    obtain ⟨least, below⟩ := assembled.inside listed low high
    exact ⟨least, by omega⟩
  · intro newline
    obtain ⟨byte, inside, digit⟩ := exists_byte_of_mem record.start even newline
    obtain ⟨item, listed, holds⟩ := emitted byte inside
    obtain ⟨high, low⟩ := (assembled.items item listed).upper_of_mem_emitted holds
    rcases digit with digit | digit
    · rw [← digit] at high
      exact absurd high (by decide)
    · rw [← digit] at low
      exact absurd low (by decide)

/-- The modifications that the items of an assembled section ask for fit their columns. -/
theorem Assembled.modification_fits (assembled : part.Assembled)
    (small : part.header.length < 0x1000000) {item : Item} (mem : item ∈ part.items)
    {instruction : Instruction} (known : item.instruction = some instruction)
    {change : Modification} (own : change.Of instruction item.location) :
    (ObjectFile.Record.modification change).Fits := by
  obtain ⟨low, high⟩ := own.location_bounds
  have filled : instruction.size ≤ item.filled := by simp [Item.filled, Item.size, known]
  obtain ⟨least, most⟩ := assembled.inside mem low (by omega)
  have signs : ∀ sign : String, sign = "+" ∨ sign = "-" →
      sign.length = 1 ∧ '\n' ∉ sign.toList := by
    rintro _ (rfl | rfl) <;> decide
  refine ⟨⟨least, by omega⟩, ?_⟩
  cases own with
  | address action memory named =>
    obtain ⟨single, plain⟩ := signs "+" (.inl rfl)
    exact ⟨by simp, single, plain, Operand.newline_not_mem_of_isSymbol named⟩
  | data action signed named =>
    obtain ⟨single, plain⟩ := signs _ signed
    refine ⟨?_, single, plain, Operand.newline_not_mem_of_isSymbol named⟩
    rcases action with action | action <;> simp [Instruction.size, action, Directive.size]

/-- A declared name that is short enough fits its columns. -/
theorem nameFits_of_plain {name : String} (short : name.length ≤ 6) {statement : Statement}
    (plain : statement.Plain) (mem : name ∈ statement.operands) : ObjectFile.NameFits name :=
  ⟨short, plain.trimmed name mem, fun newline => by
    have inside := plain.operands name mem _ newline
    exact absurd inside (by decide)⟩

/-- The header of an assembled section fits its columns if the section does. -/
theorem Assembled.header_fits (assembled : part.Assembled) (small : part.FitsColumns)
    (sound : part.header.Sound) (texts : List TextRecord) :
    (ObjectFile.Record.header (part.image texts).name (part.image texts).start
      (part.image texts).length).Fits := by
  have short : (String.ofList (part.header.name.toList.take Externals.nameWidth)).length ≤
      Externals.nameWidth := by
    rw [String.length_ofList, List.length_take]
    omega
  have width : (part.image texts).name.length = Externals.nameWidth := by
    simp only [image, ObjectFile.length_nameColumns short]
  have oneLine : '\n' ∉ (part.image texts).name := by
    apply mt ObjectFile.newline_mem_nameColumns.1
    rw [String.toList_ofList]
    intro newline
    have inside := sound.name _ (List.mem_of_mem_take newline)
    exact absurd inside (by decide)
  have whole : 0 ≤ part.header.length := by
    rw [assembled.length]
    exact Int.natCast_nonneg _
  have starts : ObjectFile.AddressFits part.header.start := ⟨sound.start, small.start⟩
  have lengths : ObjectFile.AddressFits part.header.length := ⟨whole, small.length⟩
  exact ⟨width, oneLine, starts, lengths⟩

/-- The names that a section declares as shared fit their columns if the section does. -/
theorem FitsColumns.names (small : part.FitsColumns)
    (declared : Layout.Declared part.items part.toTables)
    (plain : ∀ item ∈ part.items, item.statement.Plain) :
    (∀ name ∈ part.externals.exports, ObjectFile.NameFits name) ∧
      ∀ name ∈ part.externals.imports, ObjectFile.NameFits name := by
  constructor
  · intro name exported
    rw [declared.exports, List.mem_eraseDups] at exported
    obtain ⟨item, among, names⟩ := List.mem_flatMap.1 exported
    exact nameFits_of_plain (small.exports item among name names) (plain item among)
      (Item.mem_operands_of_exported names)
  · intro name imported
    rw [declared.imports, List.mem_eraseDups] at imported
    obtain ⟨item, among, names⟩ := List.mem_flatMap.1 imported
    exact nameFits_of_plain (small.imports item among name names) (plain item among)
      (Item.mem_operands_of_imported names)

/-- The image of an assembled section fits its columns if the section does. -/
theorem Assembled.image_fits (assembled : part.Assembled) (small : part.FitsColumns)
    (declared : Layout.Declared part.items part.toTables)
    (plain : ∀ item ∈ part.items, item.statement.Plain)
    (asked : ∀ change ∈ part.modifications, ∃ item ∈ part.items, ∃ instruction,
      item.instruction = some instruction ∧ change.Of instruction item.location)
    {limit : Int} (most : limit ≤ 510) {texts : List TextRecord}
    (written : part.textRecords limit = .ok texts) : (part.image texts).Fits := by
  obtain ⟨exported, imported⟩ := small.names declared plain
  intro record mem
  simp only [ObjectFile.Image.records, List.mem_cons, List.mem_append, List.mem_map,
    List.not_mem_nil, or_false] at mem
  rcases mem with rfl | ⟨group, inside, rfl⟩ | ⟨group, inside, rfl⟩ | ⟨record, inside, rfl⟩ |
    ⟨change, inside, rfl⟩ | rfl
  · exact assembled.header_fits small declared.header texts
  · intro entry own
    have listed := List.mem_flatten_of_mem inside own
    rw [flatten_groupsOf] at listed
    obtain ⟨name, among, rfl⟩ := List.mem_map.1 listed
    have value : ObjectFile.AddressFits (Externals.exportOf part.symbols name).2 := by
      rw [Externals.exportOf, ObjectFile.AddressFits]
      omega
    exact ⟨exported name among, value⟩
  · intro name own
    have listed := List.mem_flatten_of_mem inside own
    rw [flatten_groupsOf] at listed
    exact imported name listed
  · exact assembled.text_fits small.length most written record inside
  · obtain ⟨item, among, instruction, known, own⟩ := asked change inside
    exact assembled.modification_fits small.length among known own
  · intro address own
    rw [image] at own
    split at own
    · cases own
      exact ⟨declared.header.start, small.start⟩
    · cases own

variable {directory : Directory} {rules : Rules}

/-- Both passes keep the statements of a fresh section on one line each. -/
theorem Fresh.plain_assemble (fresh : part.Fresh directory)
    (plain : ∀ item ∈ part.items, item.statement.Plain)
    (succeeds : (part.assemble rules).result = .ok ()) :
    ∀ item ∈ (part.assemble rules).state.items, item.statement.Plain := by
  intro item mem
  obtain ⟨source, read, statement, _⟩ := exists_source fresh.known succeeds item mem
  rw [← statement]
  exact plain source read

/-- A section shares the names that its items declare after both passes as well. -/
theorem Fresh.declared_assemble (fresh : part.Fresh directory)
    (plain : ∀ item ∈ part.items, item.statement.Plain)
    (succeeds : (part.assemble rules).result = .ok ()) :
    Layout.Declared (part.assemble rules).state.items (part.assemble rules).state.toTables := by
  obtain ⟨lays, _, reached⟩ := assemble_eq_ok succeeds
  obtain ⟨sound, exports, imports⟩ := laying_declared fresh plain lays
  have names (view : Statement × Option Instruction → List String) :
      ((part.assemble rules).state.items.flatMap fun item =>
          view (item.statement, item.instruction)) =
        part.items.flatMap fun item => view (item.statement, item.instruction) := by
    have kept := congrArg (List.flatMap view) (fresh.kept succeeds)
    rwa [List.flatMap_map, List.flatMap_map] at kept
  have exported : (part.assemble rules).state.items.flatMap Item.exported =
      part.items.flatMap Item.exported :=
    names fun source => Item.exported { statement := source.1, instruction := source.2 }
  have imported : (part.assemble rules).state.items.flatMap Item.imported =
      part.items.flatMap Item.imported :=
    names fun source => Item.imported { statement := source.1, instruction := source.2 }
  have externals : (part.assemble rules).state.externals =
      (part.laying rules).state.1.tables.externals := by
    obtain ⟨header, state⟩ := layOut_state rules part
    rw [reached, (encode_eq rules _).2, state]
  have header : (part.assemble rules).state.header =
      { (part.laying rules).state.1.tables.header with
        length := (part.laying rules).state.1.counter } := by
    rw [reached, (encode_eq rules _).2, ← layOut_header lays]
  refine ⟨?_, ?_, ?_⟩
  · rw [header]
    exact ⟨sound.start, sound.name⟩
  · rw [externals, exports, exported]
  · rw [externals, imports, imported]

/-- What an object program with a given limit says about a section. -/
structure ReadAs (part : Section) (limit : Int) (image : ObjectFile.Image) : Prop where
  /-- The name, cut or filled with spaces to six columns. -/
  name : image.name = (padRight 6 (String.ofList (part.header.name.toList.take 6))).toList
  /-- The start address. -/
  start : image.start = part.header.start
  /-- The length. -/
  length : image.length = part.header.length
  /-- The names declared as exported, in order of first mention and each once. -/
  exports : image.exports.map Prod.fst = (part.items.flatMap Item.exported).eraseDups
  /-- The value of each exported name. -/
  values : ∀ entry ∈ image.exports, ∃ value, part.symbols.find? entry.1 = some value ∧
    entry.2 = value % 2 ^ 24
  /-- The names declared as imported, in order of first mention and each once. -/
  imports : image.imports = (part.items.flatMap Item.imported).eraseDups
  /-- The bytes. -/
  texts : part.textRecords limit = .ok image.texts
  /-- The fields left to the linker. -/
  modifications : image.modifications = part.modifications
  /-- The start address, if execution begins in the section. -/
  entry : image.entry = if part.header.isMain then some part.header.start else none

/-- The image of a section that declares its shared names says so. -/
theorem readAs_image (declared : Layout.Declared part.items part.toTables)
    (known : ∀ name ∈ part.externals.exports, (part.symbols.find? name).isSome = true) {limit : Int}
    {texts : List TextRecord} (written : part.textRecords limit = .ok texts) :
    part.ReadAs limit (part.image texts) where
  name := by simp only [image, ObjectFile.nameColumns, Externals.nameWidth]
  start := rfl
  length := rfl
  exports := by
    rw [← declared.exports, image, List.map_map]
    exact List.map_id _
  values := by
    intro entry mem
    obtain ⟨name, listed, rfl⟩ := List.mem_map.1 mem
    obtain ⟨value, found⟩ := Option.isSome_iff_exists.1 (known name listed)
    exact ⟨value, found, by simp [Externals.exportOf, found]⟩
  imports := declared.imports
  texts := written
  modifications := rfl
  entry := rfl

end Section

namespace Assembly

/-- The object program of a source is read back section by section, if the sections fit their
columns. -/
theorem read_objectProgram {strict : Bool} {limit : Int} {source file program : String}
    (least : 2 ≤ limit) (most : limit ≤ 510)
    (succeeds : (assemble ⟨.builtin, strict⟩ limit source file).result = .ok program)
    (small : ∀ part ∈ (assemble ⟨.builtin, strict⟩ limit source file).state.sections,
      part.FitsColumns) :
    ∃ images, ObjectFile.read program.toList = some images ∧
      List.Forall₂ (fun part image => part.ReadAs limit image)
        (assemble ⟨.builtin, strict⟩ limit source file).state.sections images := by
  obtain ⟨_, passes, written⟩ := assemble_eq_ok_iff.1 succeeds
  have reached := state_assemble succeeds
  rw [← reached] at written
  obtain ⟨images, each, text⟩ := objectPrograms_eq_ok written
  have standard : (if limit = 0 then RecordLimit.standard else limit) = limit :=
    if_neg (by omega)
  rw [standard] at each
  have described : ∀ done ∈ (assemble ⟨.builtin, strict⟩ limit source file).state.sections,
      ∀ texts, done.textRecords limit = .ok texts →
        (∀ name ∈ done.externals.exports, (done.symbols.find? name).isSome = true) →
        (done.image texts).Fits ∧ done.ReadAs limit (done.image texts) := by
    intro done mem texts packed known
    have bounds := small done mem
    rw [reached] at mem
    obtain ⟨part, read, rfl⟩ := List.mem_map.1 mem
    have passed := passes part read
    obtain ⟨fresh, plain⟩ := addSource_fresh .builtin source file part read
    have declared := fresh.declared_assemble plain passed
    have assembled := Section.assembled fresh Directory.hasByteOpcodes_builtin passed
    exact ⟨assembled.image_fits bounds declared (fresh.plain_assemble plain passed)
      (fresh.modifications_assemble passed) most packed, Section.readAs_image declared known packed⟩
  have rows := (List.forall₂_and_left _ _).2 ⟨described, each⟩
  refine ⟨images, ?_, rows.imp ?_⟩
  · rw [text]
    apply ObjectFile.read_write
    intro image mem
    obtain ⟨done, _, facts, texts, packed, known, rfl⟩ := exists_mem_of_forall₂ rows mem
    exact (facts texts packed known).1
  · rintro done _ ⟨facts, texts, packed, known, rfl⟩
    exact (facts texts packed known).2

/-- A source of two sections that share names, with a gap in the bytes of the first. -/
def library : String :=
  "LIB\tSTART\t4096\n\tEXTDEF\tTABLE,BUFFER\n\tEXTREF\tMAX\n\t+LDA\tMAX\nTABLE\tWORD\tBUFFER-MAX\n" ++
    "BUFFER\tRESB\t3\n\tBYTE\tX'F1'\nPART\tCSECT\n\tEXTREF\tTABLE\n\t+JSUB\tTABLE\n\tEND\n"

/-- The object program of the two sections, in text records of at most four digits. -/
def libraryProgram : String :=
  "HLIB   00100000000B\nDTABLE 000004BUFFER000007\nRMAX   \nT000000020310\nT000002020000\n" ++
    "T000004020000\nT0000060100\nT00000A01F1\nM00000105+MAX\nM00000406-MAX\nE001000\n\n" ++
    "HPART  000000000004\nRTABLE \nT000000024B10\nT000002020000\nM00000105+TABLE\nE\n\n"

/-- The object program of the two sections is read back. -/
theorem read_objectProgram_library :
    let outcome := assemble ⟨.builtin, true⟩ 4 library "library.asm"
    outcome.result = .ok libraryProgram ∧
      ∃ images, ObjectFile.read libraryProgram.toList = some images ∧
        List.Forall₂ (fun part image => part.ReadAs 4 image) outcome.state.sections images := by
  have evaluated : (assemble ⟨.builtin, true⟩ 4 library "library.asm").result = .ok libraryProgram ∧
      ∀ part ∈ (assemble ⟨.builtin, true⟩ 4 library "library.asm").state.sections,
        part.FitsColumns := by
    decide +kernel
  obtain ⟨succeeds, small⟩ := evaluated
  exact ⟨succeeds, read_objectProgram (by decide) (by decide) succeeds small⟩

end Assembly

end TwoPass
