import Mathlib.Data.List.DropRight
import TwoPass.Externals
import TwoPass.Modification
import TwoPass.Proofs.Hex
import TwoPass.Record.Text

/-!
# Reading object programs

An object program is a row of lines, and a blank line ends each section.  The first letter of a line
tells what it is, and the columns behind it are fixed: six for a name or an address, two for a count.
`read` reads a whole object program, `write` writes one, and `read_write` says that what was written
is read back as it was, as long as every field fits its columns.
-/

namespace TwoPass.ObjectFile

/-- The pieces of a row, each of which a mark ends; a row that goes on behind its last mark has none.
-/
def pieces {α : Type} [DecidableEq α] (mark : α) : List α → Option (List (List α))
  | [] => some []
  | item :: rest =>
    if item = mark then (pieces mark rest).map fun later => [] :: later
    else match pieces mark rest with
      | some (piece :: later) => some ((item :: piece) :: later)
      | _ => none

/-- Cuts a field off a line. -/
def field (width : Nat) (line : List Char) : Option (List Char × List Char) :=
  if width ≤ line.length then some (line.take width, line.drop width) else none

/-- Cuts a hexadecimal number off a line. -/
def number (width : Nat) (line : List Char) : Option (Int × List Char) := do
  let (digits, rest) ← field width line
  let value ← Text.Hex.value? digits
  return ((value : Int), rest)

/-- Cuts a whole line into fields of one width. -/
def columns (width : Nat) (line : List Char) : Option (List (List Char)) :=
  let fields := groupsOf width line
  if fields.all fun column => column.length = width then some fields else none

/-- The name in a field: the spaces behind it are filling. -/
def nameIn (column : List Char) : String := String.ofList (column.rdropWhile (· = ' '))

/-- A line of an object program. -/
inductive Record where
  /-- The name, the start address and the length of a section. -/
  | header (name : List Char) (start length : Int)
  /-- Exported names with their values. -/
  | exports (entries : List (String × Int))
  /-- Imported names. -/
  | imports (names : List String)
  /-- A run of bytes. -/
  | text (record : TextRecord)
  /-- A field that the linker has to change. -/
  | modification (change : Modification)
  /-- The end of a section, with the address where execution begins. -/
  | finish (entry : Option Int)
  deriving DecidableEq, Repr

namespace Record

/-- The entry of an exported name. -/
def readExport (column : List Char) : Option (String × Int) := do
  let (name, rest) ← field Externals.nameWidth column
  let (value, _) ← number 6 rest
  return (nameIn name, value)

/-- Reads a line. -/
def read : List Char → Option Record
  | 'H' :: line => do
    let (name, line) ← field Externals.nameWidth line
    let (start, line) ← number 6 line
    let (length, line) ← number 6 line
    if line.isEmpty then some (.header name start length) else none
  | 'D' :: line => do
    let entries ← columns (Externals.nameWidth + 6) line
    let entries ← entries.mapM readExport
    return .exports entries
  | 'R' :: line => do
    let names ← columns Externals.nameWidth line
    return .imports (names.map nameIn)
  | 'T' :: line => do
    let (start, line) ← number 6 line
    let (count, payload) ← number 2 line
    if (payload.length : Int) = 2 * count then some (.text ⟨start, payload⟩) else none
  | 'M' :: line => do
    let (location, line) ← number 6 line
    let (length, line) ← number 2 line
    let (sign, symbol) ← field 1 line
    return .modification
      { location, length, sign := String.ofList sign, symbol := String.ofList symbol }
  | 'E' :: line =>
    if line.isEmpty then some (.finish none)
    else do
      let (entry, line) ← number 6 line
      if line.isEmpty then some (.finish (some entry)) else none
  | _ => none

end Record

/-- What an object program says about a section. -/
structure Image where
  /-- The name, in six columns. -/
  name : List Char
  /-- The start address. -/
  start : Int
  /-- The length. -/
  length : Int
  /-- The exported names with their values. -/
  exports : List (String × Int) := []
  /-- The imported names. -/
  imports : List String := []
  /-- The bytes. -/
  texts : List TextRecord := []
  /-- The fields left to the linker. -/
  modifications : List Modification := []
  /-- The address where execution begins. -/
  entry : Option Int := none
  deriving DecidableEq, Repr

namespace Image

/-- Takes in the lines behind the header, the last of which is the end record. -/
def extend (image : Image) : List Record → Option Image
  | [.finish entry] => some { image with entry }
  | .exports entries :: rest => extend { image with exports := image.exports ++ entries } rest
  | .imports names :: rest => extend { image with imports := image.imports ++ names } rest
  | .text record :: rest => extend { image with texts := image.texts ++ [record] } rest
  | .modification change :: rest =>
    extend { image with modifications := image.modifications ++ [change] } rest
  | _ => none

/-- The section that a row of lines describes. -/
def ofRecords : List Record → Option Image
  | .header name start length :: rest => extend { name, start, length } rest
  | _ => none

/-- Reads the lines of a section. -/
def read (lines : List (List Char)) : Option Image := do
  let records ← lines.mapM Record.read
  ofRecords records

end Image

/-- Reads an object program. -/
def read (program : List Char) : Option (List Image) := do
  let lines ← pieces '\n' program
  let sections ← pieces [] lines
  sections.mapM Image.read

section Fields

/-- What is written item by item and can be read back is read back as a whole. -/
theorem mapM_map_eq_some {α β : Type} {write : α → β} {read : β → Option α} {items : List α}
    (each : ∀ item ∈ items, read (write item) = some item) :
    (items.map write).mapM read = some items := by
  induction items with
  | nil => rfl
  | cons item rest ih =>
    rw [List.map_cons, List.mapM_cons, each item List.mem_cons_self,
      ih fun other mem => each other (List.mem_cons_of_mem item mem)]
    rfl

/-- A row that ends with a mark begins with the piece in front of the first mark. -/
theorem pieces_append {α : Type} [DecidableEq α] {mark : α} {piece : List α}
    (absent : mark ∉ piece) (rest : List α) :
    pieces mark (piece ++ mark :: rest) = (pieces mark rest).map fun later => piece :: later := by
  induction piece with
  | nil => simp [pieces]
  | cons item others ih =>
    have apart : item ≠ mark := fun same => absent (same ▸ List.mem_cons_self)
    rw [List.cons_append, pieces, if_neg apart,
      ih fun inside => absent (List.mem_cons_of_mem item inside)]
    cases pieces mark rest with
    | none => rfl
    | some later => rfl

/-- Pieces that are each ended by a mark are found again. -/
theorem pieces_flatMap {α : Type} [DecidableEq α] {mark : α} {row : List (List α)}
    (absent : ∀ piece ∈ row, mark ∉ piece) :
    pieces mark (row.flatMap fun piece => piece ++ [mark]) = some row := by
  induction row with
  | nil => rfl
  | cons piece rest ih =>
    have tail := ih fun other mem => absent other (List.mem_cons_of_mem piece mem)
    rw [List.flatMap_cons, List.append_assoc, List.singleton_append,
      pieces_append (absent piece List.mem_cons_self), tail]
    rfl

variable {width : Nat}

/-- A field is cut off where it ends. -/
theorem field_append {front : List Char} (length : front.length = width) (back : List Char) :
    field width (front ++ back) = some (front, back) := by
  rw [field, if_pos (by rw [List.length_append]; omega), List.take_left' length,
    List.drop_left' length]

/-- A number that fits its field is read back. -/
theorem number_append {value : Int} (room : 0 < width) (least : 0 ≤ value)
    (bound : value < 16 ^ width) (back : List Char) :
    number width (Text.Hex.paddedChars width value ++ back) = some (value, back) := by
  have length := Text.Hex.length_paddedChars room least bound
  rw [number, field_append length]
  simp [Text.Hex.value?_paddedChars least, Int.toNat_of_nonneg least]

/-- Fields of one width are cut apart again. -/
theorem columns_flatten (room : 0 < width) {fields : List (List Char)}
    (each : ∀ column ∈ fields, column.length = width) :
    columns width fields.flatten = some fields := by
  have groups : groupsOf width fields.flatten = fields := by
    induction fields with
    | nil => rw [List.flatten_nil, groupsOf]
    | cons column rest ih =>
      have length := each column List.mem_cons_self
      have tail := ih fun other mem => each other (List.mem_cons_of_mem column mem)
      cases column with
      | nil =>
        rw [List.length_nil] at length
        omega
      | cons first others =>
        have short : others.length = width - 1 := by
          rw [List.length_cons] at length
          omega
        rw [List.flatten_cons, List.cons_append, groupsOf, List.take_left' short,
          List.drop_left' short, tail]
  have same : (fields.all fun column => column.length = width) = true := by simpa using each
  rw [columns, groups, if_pos same]

end Fields

/-- Whether an address can be written into its columns. -/
def AddressFits (address : Int) : Prop := 0 ≤ address ∧ address < 0x1000000

/-- Whether a name can be written into its columns and told from the filling behind it. -/
structure NameFits (name : String) : Prop where
  /-- The name is not too long. -/
  short : name.length ≤ Externals.nameWidth
  /-- The name does not end with a space. -/
  trimmed : name.toList.rdropWhile (· = ' ') = name.toList
  /-- The name stands on one line. -/
  plain : '\n' ∉ name.toList

/-- The columns of a name. -/
def nameColumns (name : String) : List Char := (padRight Externals.nameWidth name).toList

namespace Record

/-- The line of a record. -/
def line : Record → List Char
  | .header name start length =>
    'H' :: (name ++ (Text.Hex.paddedChars 6 start ++ Text.Hex.paddedChars 6 length))
  | .exports entries =>
    'D' :: (entries.map fun entry => nameColumns entry.1 ++ Text.Hex.paddedChars 6 entry.2).flatten
  | .imports names => 'R' :: (names.map nameColumns).flatten
  | .text record =>
    'T' :: (Text.Hex.paddedChars 6 record.start ++
      (Text.Hex.paddedChars 2 (record.payload.length / 2 : Nat) ++ record.payload))
  | .modification change =>
    'M' :: (Text.Hex.paddedChars 6 change.location ++
      (Text.Hex.paddedChars 2 change.length ++
        (change.sign.toList ++ change.symbol.toList)))
  | .finish entry => 'E' :: (entry.map (Text.Hex.paddedChars 6)).getD []

/-- Whether every field of a record fits its columns. -/
def Fits : Record → Prop
  | .header name start length =>
    name.length = Externals.nameWidth ∧ '\n' ∉ name ∧ AddressFits start ∧ AddressFits length
  | .exports entries => ∀ entry ∈ entries, NameFits entry.1 ∧ AddressFits entry.2
  | .imports names => ∀ name ∈ names, NameFits name
  | .text record =>
    AddressFits record.start ∧ record.payload.length % 2 = 0 ∧ record.payload.length ≤ 510 ∧
      '\n' ∉ record.payload
  | .modification change =>
    AddressFits change.location ∧ (0 ≤ change.length ∧ change.length < 256) ∧
      change.sign.length = 1 ∧ '\n' ∉ change.sign.toList ∧
      '\n' ∉ change.symbol.toList
  | .finish entry => ∀ address ∈ entry, AddressFits address

end Record

section Lines

/-- An address fills its columns. -/
theorem AddressFits.bound {address : Int} (fits : AddressFits address) : address < 16 ^ 6 := fits.2

/-- A name takes up its columns, and more if it is longer. -/
theorem length_nameColumns_eq (name : String) :
    (nameColumns name).length = max Externals.nameWidth name.length := by
  rw [nameColumns, padRight, String.toList_append, List.length_append, String.toList_ofList,
    List.length_replicate, String.length_toList]
  omega

/-- A name that is not too long fills its columns. -/
theorem length_nameColumns {name : String} (short : name.length ≤ Externals.nameWidth) :
    (nameColumns name).length = Externals.nameWidth := by
  rw [length_nameColumns_eq, Nat.max_eq_left short]

/-- A name is read back from its columns. -/
theorem NameFits.nameIn {name : String} (fits : NameFits name) :
    nameIn (nameColumns name) = name := by
  have spaces (count : Nat) (text : List Char) :
      (text ++ List.replicate count ' ').rdropWhile (· = ' ') = text.rdropWhile (· = ' ') := by
    induction count with
    | zero => simp
    | succ count ih =>
      rw [List.replicate_succ', ← List.append_assoc, List.rdropWhile_concat_pos _ _ _ (by simp), ih]
  rw [ObjectFile.nameIn, nameColumns, padRight, String.toList_append, String.toList_ofList, spaces,
    fits.trimmed, String.ofList_toList]

/-- An address is written on one line. -/
theorem newline_not_mem_paddedChars {width : Nat} {value : Int} (least : 0 ≤ value) :
    '\n' ∉ Text.Hex.paddedChars width value := by
  intro inside
  have digit := Text.Hex.isUpperDigit_of_mem_paddedChars least inside
  exact absurd digit (by decide)

/-- The columns of a name stand on one line if the name does. -/
theorem newline_mem_nameColumns {name : String} :
    '\n' ∈ nameColumns name ↔ '\n' ∈ name.toList := by
  rw [nameColumns, padRight, String.toList_append, String.toList_ofList, List.mem_append]
  refine ⟨fun inside => inside.resolve_right fun filling => ?_, .inl⟩
  exact absurd (List.eq_of_mem_replicate filling) (by decide)

/-- A record that fits its columns stands on one line. -/
theorem Record.newline_not_mem_line {record : Record} (fits : record.Fits) :
    '\n' ∉ record.line := by
  cases record with
  | header name start length =>
    obtain ⟨_, plain, first, second⟩ := fits
    simp [line, plain, newline_not_mem_paddedChars first.1, newline_not_mem_paddedChars second.1]
  | exports entries =>
    have each : ∀ entry ∈ entries,
        '\n' ∉ nameColumns entry.1 ++ Text.Hex.paddedChars 6 entry.2 := by
      intro entry mem
      obtain ⟨name, value⟩ := fits entry mem
      simp [mt newline_mem_nameColumns.1 name.plain, newline_not_mem_paddedChars value.1]
    simpa [line] using each
  | imports names =>
    have each : ∀ name ∈ names, '\n' ∉ nameColumns name :=
      fun name mem => mt newline_mem_nameColumns.1 (fits name mem).plain
    simpa [line] using each
  | text record =>
    obtain ⟨start, _, _, plain⟩ := fits
    simp only [line, List.mem_cons, List.mem_append, not_or]
    exact ⟨by decide, newline_not_mem_paddedChars start.1,
      newline_not_mem_paddedChars (Int.natCast_nonneg _), plain⟩
  | modification change =>
    obtain ⟨location, length, _, sign, symbol⟩ := fits
    simp [line, sign, symbol, newline_not_mem_paddedChars location.1,
      newline_not_mem_paddedChars length.1]
  | finish entry =>
    cases entry with
    | none => simp [line]
    | some address =>
      have own := fits address rfl
      simp [line, newline_not_mem_paddedChars own.1]

/-- The entry of an exported name is read back. -/
theorem Record.readExport_append {entry : String × Int} (name : NameFits entry.1)
    (value : AddressFits entry.2) :
    readExport (nameColumns entry.1 ++ Text.Hex.paddedChars 6 entry.2) = some entry := by
  have last := number_append (by decide) value.1 value.bound []
  rw [List.append_nil] at last
  simp [readExport, field_append (length_nameColumns name.short), last, name.nameIn]

/-- A record that fits its columns is read back. -/
theorem Record.read_line {record : Record} (fits : record.Fits) :
    Record.read record.line = some record := by
  cases record with
  | header name start length =>
    obtain ⟨width, _, first, second⟩ := fits
    have last := number_append (by decide) second.1 second.bound []
    rw [List.append_nil] at last
    simp [line, read, field_append width, number_append (by decide) first.1 first.bound, last]
  | exports entries =>
    have widths : ∀ column ∈ entries.map fun entry =>
        nameColumns entry.1 ++ Text.Hex.paddedChars 6 entry.2,
        column.length = Externals.nameWidth + 6 := by
      intro column mem
      obtain ⟨entry, inside, rfl⟩ := List.mem_map.1 mem
      obtain ⟨name, value⟩ := fits entry inside
      rw [List.length_append, length_nameColumns name.short,
        Text.Hex.length_paddedChars (by decide) value.1 value.bound]
    have entry := mapM_map_eq_some fun entry mem =>
      readExport_append (fits entry mem).1 (fits entry mem).2
    simp [line, read, columns_flatten (by decide) widths, entry]
  | imports names =>
    have widths : ∀ column ∈ names.map nameColumns, column.length = Externals.nameWidth := by
      intro column mem
      obtain ⟨name, inside, rfl⟩ := List.mem_map.1 mem
      exact length_nameColumns (fits name inside).short
    have same : names.map (nameIn ∘ nameColumns) = names := by
      rw [← List.map_id names, List.map_map]
      exact List.map_congr_left fun name mem => (fits name mem).nameIn
    simp [line, read, columns_flatten (by decide) widths, same]
  | text record =>
    obtain ⟨start, even, short, _⟩ := fits
    have count : ((record.payload.length / 2 : Nat) : Int) < 16 ^ 2 := by omega
    have whole : (record.payload.length : Int) = 2 * ((record.payload.length / 2 : Nat) : Int) := by
      omega
    rw [line, read]
    simp only [number_append (show 0 < 6 by decide) start.1 start.bound,
      number_append (show 0 < 2 by decide) (Int.natCast_nonneg _) count, Option.bind_eq_bind,
      Option.bind_some]
    rw [if_pos whole]
  | modification change =>
    obtain ⟨location, length, single, _, _⟩ := fits
    have sign : change.sign.toList.length = 1 := by rw [String.length_toList, single]
    simp [line, read, number_append (show 0 < 6 by decide) location.1 location.bound,
      number_append (show 0 < 2 by decide) length.1 length.2, field_append sign]
  | finish entry =>
    cases entry with
    | none => rfl
    | some address =>
      have own := fits address rfl
      have last := number_append (by decide) own.1 own.bound []
      rw [List.append_nil] at last
      have filled : (Text.Hex.paddedChars 6 address).isEmpty = false := by
        have length : (Text.Hex.paddedChars 6 address).length = 6 :=
          Text.Hex.length_paddedChars (by decide) own.1 own.bound
        rw [List.isEmpty_eq_false_iff]
        rintro empty
        rw [empty] at length
        cases length
      simp [line, read, filled, last]

end Lines

namespace Image

/-- The records of a section: the header, the exported and imported names in groups of six, the bytes,
the modifications, and the end. -/
def records (image : Image) : List Record :=
  .header image.name image.start image.length ::
    ((groupsOf Externals.namesPerRecord image.exports).map .exports ++
      ((groupsOf Externals.namesPerRecord image.imports).map .imports ++
        (image.texts.map .text ++ (image.modifications.map .modification ++
          [.finish image.entry]))))

/-- Whether every field of a section fits its columns. -/
def Fits (image : Image) : Prop := ∀ record ∈ image.records, record.Fits

/-- The groups of exported names are taken in one behind the other. -/
theorem extend_exports (image : Image) (groups : List (List (String × Int))) (rest : List Record) :
    image.extend (groups.map .exports ++ rest) =
      extend { image with exports := image.exports ++ groups.flatten } rest := by
  induction groups generalizing image with
  | nil => simp
  | cons group others ih =>
    rw [List.map_cons, List.cons_append, extend, ih]
    simp

/-- The groups of imported names are taken in one behind the other. -/
theorem extend_imports (image : Image) (groups : List (List String)) (rest : List Record) :
    image.extend (groups.map .imports ++ rest) =
      extend { image with imports := image.imports ++ groups.flatten } rest := by
  induction groups generalizing image with
  | nil => simp
  | cons group others ih =>
    rw [List.map_cons, List.cons_append, extend, ih]
    simp

/-- The runs of bytes are taken in one behind the other. -/
theorem extend_texts (image : Image) (texts : List TextRecord) (rest : List Record) :
    image.extend (texts.map .text ++ rest) =
      extend { image with texts := image.texts ++ texts } rest := by
  induction texts generalizing image with
  | nil => simp
  | cons text others ih =>
    rw [List.map_cons, List.cons_append, extend, ih]
    simp

/-- The modifications are taken in one behind the other. -/
theorem extend_modifications (image : Image) (changes : List Modification) (rest : List Record) :
    image.extend (changes.map .modification ++ rest) =
      extend { image with modifications := image.modifications ++ changes } rest := by
  induction changes generalizing image with
  | nil => simp
  | cons change others ih =>
    rw [List.map_cons, List.cons_append, extend, ih]
    simp

/-- The records of a section describe it. -/
theorem ofRecords_records (image : Image) : ofRecords image.records = some image := by
  rw [records, ofRecords, extend_exports, extend_imports, extend_texts, extend_modifications,
    flatten_groupsOf, flatten_groupsOf]
  rfl

/-- The lines of a section. -/
def lines (image : Image) : List (List Char) := image.records.map Record.line

/-- A section whose fields fit their columns is read back. -/
theorem read_lines {image : Image} (fits : image.Fits) : read image.lines = some image := by
  rw [read, lines, mapM_map_eq_some fun record mem => Record.read_line (fits record mem)]
  exact ofRecords_records image

end Image

/-- The object program of a row of sections: each line is ended by a line feed, and each section by a
blank line. -/
def write (images : List Image) : List Char :=
  ((images.map Image.lines).flatMap fun lines => lines ++ [[]]).flatMap fun line => line ++ ['\n']

/-- What was written is read back, if every field fits its columns. -/
theorem read_write {images : List Image} (fits : ∀ image ∈ images, image.Fits) :
    read (write images) = some images := by
  have lines : pieces '\n' (write images) =
      some ((images.map Image.lines).flatMap fun lines => lines ++ [[]]) := by
    apply pieces_flatMap
    intro line mem
    obtain ⟨lines, inside, found⟩ := List.mem_flatMap.1 mem
    obtain ⟨image, listed, rfl⟩ := List.mem_map.1 inside
    rcases List.mem_append.1 found with written | blank
    · obtain ⟨record, own, rfl⟩ := List.mem_map.1 written
      exact Record.newline_not_mem_line (fits image listed record own)
    · rw [List.mem_singleton.1 blank]
      exact List.not_mem_nil
  have sections : pieces [] ((images.map Image.lines).flatMap fun lines => lines ++ [[]]) =
      some (images.map Image.lines) := by
    apply pieces_flatMap
    intro lines mem blank
    obtain ⟨image, _, rfl⟩ := List.mem_map.1 mem
    obtain ⟨record, _, empty⟩ := List.mem_map.1 blank
    cases record <;> cases empty
  rw [read, lines]
  simp only [Option.bind_eq_bind, Option.bind_some, sections]
  exact mapM_map_eq_some fun image mem => Image.read_lines (fits image mem)

end TwoPass.ObjectFile
