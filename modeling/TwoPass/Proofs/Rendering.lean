import TwoPass.Assembly
import TwoPass.Proofs.ObjectFile
import TwoPass.Proofs.Sweep

/-!
# Object programs as rows of records

The object program of a section, where there is one, consists of the lines of one image of the
section: its header, the exported names with their values, the imported names, its text records, its
modifications and its end.
-/

namespace TwoPass

/-- Cutting a row into groups and changing each item can be done in either order. -/
theorem groupsOf_map {α β : Type} (size : Nat) (view : α → β) (items : List α) :
    groupsOf size (items.map view) = (groupsOf size items).map (List.map view) := by
  fun_induction groupsOf size items with
  | case1 => rw [List.map_nil, groupsOf, List.map_nil]
  | case2 item rest ih =>
    rw [List.map_cons, groupsOf, ← List.map_take, ← List.map_drop, ih]
    rfl

namespace ObjectFile

/-- The lines that a row of records takes up. -/
def linesOf (records : List Record) : List Char :=
  records.flatMap fun record => record.line ++ ['\n']

/-- The lines of a row of records are those of its parts. -/
theorem linesOf_append (front back : List Record) :
    linesOf (front ++ back) = linesOf front ++ linesOf back := List.flatMap_append

/-- A section is written as its records and a blank line, and the other sections behind it. -/
theorem write_cons (image : Image) (rest : List Image) :
    write (image :: rest) = linesOf image.records ++ '\n' :: write rest := by
  simp [write, linesOf, Image.lines, List.flatMap_map]

end ObjectFile

/-- The text records of a section, as lines. -/
theorem TextRecord.toList_join_render (texts : List TextRecord) :
    (String.join (texts.map render)).toList = ObjectFile.linesOf (texts.map .text) := by
  rw [String.toList_join, ObjectFile.linesOf, List.flatMap_map, List.flatMap_map]
  apply List.flatMap_congr
  intro record _
  simp [render, ObjectFile.Record.line, Text.Hex.padded]

/-- The modification records of a section, as lines. -/
theorem Modification.toList_records (changes : List Modification) :
    (records changes).toList = ObjectFile.linesOf (changes.map .modification) := by
  rw [records, String.toList_join, ObjectFile.linesOf, List.flatMap_map, List.flatMap_map]
  apply List.flatMap_congr
  intro change _
  simp [record, ObjectFile.Record.line, Text.Hex.padded]

namespace Externals

variable {externals : Externals} {symbols : SymbolTable}

/-- An exported name with its value, taken to twenty-four bits. -/
def exportOf (symbols : SymbolTable) (name : String) : String × Int :=
  (name, (symbols.find? name).getD 0 % 0x1000000)

/-- The entry of an exported name, as a text. -/
def entryText (symbols : SymbolTable) (name : String) : String :=
  padRight nameWidth name ++ Text.Hex.padded 6 (exportOf symbols name).2

/-- A name with a value has an entry. -/
theorem exportEntry_of_known {name : String} (known : (symbols.find? name).isSome = true) :
    exportEntry symbols name = .ok (entryText symbols name) := by
  obtain ⟨value, found⟩ := Option.isSome_iff_exists.1 known
  simp [exportEntry, entryText, exportOf, found]

/-- A name that has an entry has a value. -/
theorem known_of_exportEntry {name entry : String} (found : exportEntry symbols name = .ok entry) :
    (symbols.find? name).isSome = true := by
  rw [exportEntry] at found
  split at found
  · rename_i value known
    rw [known, Option.isSome_some]
  · cases found

/-- Names that all have values can be written, each with its value. -/
theorem exportRecords_of_known
    (known : ∀ name ∈ externals.exports, (symbols.find? name).isSome = true) :
    ∃ text, externals.exportRecords symbols = .ok text ∧
      text.toList = ObjectFile.linesOf
        ((groupsOf namesPerRecord (externals.exports.map (exportOf symbols))).map .exports) := by
  have rows : ∀ group ∈ groupsOf namesPerRecord externals.exports,
      exportRecord symbols group =
        .ok ("D" ++ String.join (group.map (entryText symbols)) ++ "\n") := by
    intro group mem
    have entries : ∀ name ∈ group, exportEntry symbols name = .ok (entryText symbols name) := by
      intro name inside
      apply exportEntry_of_known
      apply known
      rw [← flatten_groupsOf namesPerRecord externals.exports]
      exact List.mem_flatten_of_mem mem inside
    rw [exportRecord, mapM_eq_ok entries]
    rfl
  have columns : String.toList ∘ entryText symbols =
      (fun entry => ObjectFile.nameColumns entry.1 ++ Text.Hex.paddedChars 6 entry.2) ∘
        exportOf symbols := by
    funext name
    simp [entryText, exportOf, ObjectFile.nameColumns, Text.Hex.padded]
  refine ⟨_, by rw [exportRecords, mapM_eq_ok rows]; rfl, ?_⟩
  rw [groupsOf_map, String.toList_join, ObjectFile.linesOf, List.flatMap_map, List.map_map,
    List.flatMap_map]
  apply List.flatMap_congr
  intro group _
  simp only [Function.comp_apply, ObjectFile.Record.line, String.toList_append,
    String.toList_join, List.flatMap_def, List.map_map, columns]
  rfl

/-- The records of the exported names, where they can be written, give every name its value. -/
theorem exportRecords_eq_ok {text : String} (written : externals.exportRecords symbols = .ok text) :
    (∀ name ∈ externals.exports, (symbols.find? name).isSome = true) ∧
      text.toList = ObjectFile.linesOf
        ((groupsOf namesPerRecord (externals.exports.map (exportOf symbols))).map .exports) := by
  have known : ∀ name ∈ externals.exports, (symbols.find? name).isSome = true := by
    intro name listed
    rw [← flatten_groupsOf namesPerRecord externals.exports] at listed
    obtain ⟨group, mem, inside⟩ := List.mem_flatten.1 listed
    obtain ⟨records, found, _⟩ := map_eq_ok.1 written
    obtain ⟨record, own⟩ := exists_of_mapM_ok found group mem
    obtain ⟨texts, entries, _⟩ := map_eq_ok.1 own
    obtain ⟨entry, single⟩ := exists_of_mapM_ok entries name inside
    exact known_of_exportEntry single
  obtain ⟨other, equal, lines⟩ := exportRecords_of_known known
  rw [written] at equal
  cases equal
  exact ⟨known, lines⟩

/-- The records of the imported names. -/
theorem toList_importRecords (externals : Externals) :
    externals.importRecords.toList = ObjectFile.linesOf
      ((groupsOf namesPerRecord externals.imports).map .imports) := by
  rw [importRecords, String.toList_join, ObjectFile.linesOf, List.flatMap_map, List.flatMap_map]
  apply List.flatMap_congr
  intro group _
  simp only [importRecord, ObjectFile.Record.line, String.toList_append, String.toList_join,
    List.flatMap_def, List.map_map]
  rfl

end Externals

namespace Section

/-- The image of a section with given exported values and text records. -/
def image (part : Section) (texts : List TextRecord) : ObjectFile.Image where
  name := ObjectFile.nameColumns (String.ofList (part.header.name.toList.take Externals.nameWidth))
  start := part.header.start
  length := part.header.length
  exports := part.externals.exports.map (Externals.exportOf part.symbols)
  imports := part.externals.imports
  texts := texts
  modifications := part.modifications
  entry := if part.header.isMain then some part.header.start else none

/-- The header record is the first line of the image. -/
theorem toList_headerRecord (part : Section) (texts : List TextRecord) :
    part.headerRecord.toList = ObjectFile.linesOf
      [.header (part.image texts).name (part.image texts).start (part.image texts).length] := by
  simp [headerRecord, image, ObjectFile.linesOf, ObjectFile.Record.line, ObjectFile.nameColumns,
    Text.Hex.padded]

/-- The end record is the last line of the image, and a blank line follows. -/
theorem toList_endRecord (part : Section) (texts : List TextRecord) :
    part.endRecord.toList =
      ObjectFile.linesOf [.finish (part.image texts).entry] ++ ['\n'] := by
  rw [endRecord]
  split
  · rename_i main
    simp [image, main, ObjectFile.linesOf, ObjectFile.Record.line, Text.Hex.padded]
  · rename_i other
    simp [image, other, ObjectFile.linesOf, ObjectFile.Record.line]

/-- The object program of a section consists of the lines of its image. -/
theorem objectProgram_eq_ok {part : Section} {limit : Int} {program : String}
    (written : part.objectProgram limit = .ok program) :
    ∃ texts, part.textRecords (if limit = 0 then RecordLimit.standard else limit) = .ok texts ∧
      (∀ name ∈ part.externals.exports, (part.symbols.find? name).isSome = true) ∧
      program.toList = ObjectFile.write [part.image texts] := by
  rw [objectProgram] at written
  obtain ⟨exports, exported, written⟩ := bind_eq_ok.1 written
  obtain ⟨texts, packed, written⟩ := bind_eq_ok.1 written
  obtain ⟨known, lines⟩ := Externals.exportRecords_eq_ok exported
  refine ⟨texts, packed, known, ?_⟩
  cases written
  have records : (part.image texts).records =
      [.header (part.image texts).name (part.image texts).start (part.image texts).length] ++
        ((groupsOf Externals.namesPerRecord (part.image texts).exports).map .exports ++
          ((groupsOf Externals.namesPerRecord part.externals.imports).map .imports ++
            (texts.map .text ++ (part.modifications.map .modification ++
              [.finish (part.image texts).entry])))) := rfl
  have exports : (part.image texts).exports =
      part.externals.exports.map (Externals.exportOf part.symbols) := rfl
  rw [ObjectFile.write_cons, records, exports]
  simp only [ObjectFile.linesOf_append, String.toList_append, toList_headerRecord part texts, lines,
    Externals.toList_importRecords, TextRecord.toList_join_render, Modification.toList_records,
    toList_endRecord part texts, List.append_assoc]
  rfl

end Section

namespace Assembly

/-- The object program of a row of sections consists of the lines of their images. -/
theorem objectPrograms_eq_ok {sections : List Section} {limit : Int} {program : String}
    (written : objectPrograms limit sections = .ok program) :
    ∃ images, List.Forall₂ (fun part image => ∃ texts,
          part.textRecords (if limit = 0 then RecordLimit.standard else limit) = .ok texts ∧
            (∀ name ∈ part.externals.exports, (part.symbols.find? name).isSome = true) ∧
            image = part.image texts) sections images ∧
      program.toList = ObjectFile.write images := by
  induction sections generalizing program with
  | nil =>
    cases written
    exact ⟨[], .nil, rfl⟩
  | cons part rest ih =>
    rw [objectPrograms] at written
    split at written
    · cases written
    · rename_i first own
      obtain ⟨later, others, rfl⟩ := map_eq_ok.1 written
      obtain ⟨images, each, text⟩ := ih others
      obtain ⟨texts, packed, known, head⟩ := Section.objectProgram_eq_ok own
      refine ⟨part.image texts :: images, .cons ⟨texts, packed, known, rfl⟩ each, ?_⟩
      rw [String.toList_append, head, text, ObjectFile.write_cons, ObjectFile.write_cons]
      simp [ObjectFile.write]

end Assembly

end TwoPass
