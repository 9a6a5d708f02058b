import TwoPass.Proofs.FirstMention
import TwoPass.Proofs.Rendering

/-!
# The columns of shared names

The names that a section exports and imports are written six to a line, in order of first
declaration, each in a field of six columns with or without its value behind it.  The field is only a
least width.  The main statement, `Externals.lists_declared`, says that the lines can be cut at these
widths again exactly if every name fits into its field and stands on one line: one name that is too
long moves every entry behind it.
-/

namespace TwoPass

namespace ObjectFile

/-- The pieces that marks end have no mark in them. -/
theorem not_mem_of_pieces {α : Type} [DecidableEq α] {mark : α} {row : List α}
    {parts : List (List α)} (cut : pieces mark row = some parts) : ∀ part ∈ parts, mark ∉ part := by
  induction row generalizing parts with
  | nil =>
    cases cut
    exact fun _ mem => absurd mem List.not_mem_nil
  | cons item rest ih =>
    rw [pieces] at cut
    split at cut
    · obtain ⟨later, found, rfl⟩ := Option.map_eq_some_iff.1 cut
      exact List.forall_mem_cons.2 ⟨List.not_mem_nil, ih found⟩
    · rename_i other
      split at cut
      · rename_i piece later found
        cases cut
        have each := List.forall_mem_cons.1 (ih found)
        refine List.forall_mem_cons.2 ⟨?_, each.2⟩
        rw [List.mem_cons, not_or]
        exact ⟨Ne.symm other, each.1⟩
      · cases cut

/-- What a step makes of all items of a row, it makes of one of them. -/
theorem exists_of_mem_mapM_some {α β : Type} {step : α → Option β} {items : List α}
    {values : List β} (found : items.mapM step = some values) :
    ∀ value ∈ values, ∃ item ∈ items, step item = some value := by
  induction items generalizing values with
  | nil =>
    cases found
    exact fun _ mem => absurd mem List.not_mem_nil
  | cons item rest ih =>
    simp only [List.mapM_cons, Option.bind_eq_bind, Option.bind_eq_some_iff, Option.pure_def,
      Option.some.injEq] at found
    obtain ⟨first, own, others, later, rfl⟩ := found
    refine List.forall_mem_cons.2 ⟨⟨item, List.mem_cons_self, own⟩, fun value mem => ?_⟩
    obtain ⟨source, inside, made⟩ := ih later value mem
    exact ⟨source, List.mem_cons_of_mem item inside, made⟩

/-- The columns of a line make up the line, and all have the width. -/
theorem columns_eq_some {width : Nat} {line : List Char} {fields : List (List Char)}
    (cut : columns width line = some fields) :
    fields.flatten = line ∧ ∀ column ∈ fields, column.length = width := by
  rw [columns] at cut
  split at cut
  · rename_i same
    cases cut
    exact ⟨flatten_groupsOf width line, by simpa using same⟩
  · cases cut

end ObjectFile

/-- Rows of at least one item and at most as many as a size says, of which all but the last are full.
-/
structure Full {α : Type} (size : Nat) (rows : List (List α)) : Prop where
  /-- Every row has an item and at most the greatest number of them. -/
  bounds : ∀ row ∈ rows, 0 < row.length ∧ row.length ≤ size
  /-- Every row but the last has the greatest number. -/
  full : ∀ row ∈ rows.dropLast, row.length = size

/-- The groups of a row of items are full. -/
theorem full_groupsOf {α : Type} {size : Nat} (room : 0 < size) (items : List α) :
    Full size (groupsOf size items) := by
  fun_induction groupsOf size items with
  | case1 => exact ⟨by simp, by simp⟩
  | case2 item rest ih =>
    have first : (item :: rest.take (size - 1)).length ≤ size := by
      rw [List.length_cons, List.length_take]
      omega
    refine ⟨List.forall_mem_cons.2 ⟨⟨Nat.succ_pos _, first⟩, ih.bounds⟩, ?_⟩
    by_cases last : rest.drop (size - 1) = []
    · rw [last, groupsOf]
      simp
    · -- Something is left for another group, so this one is full.
      have more : size - 1 < rest.length := by
        rw [List.drop_eq_nil_iff] at last
        omega
      have further : groupsOf size (rest.drop (size - 1)) ≠ [] := by
        intro none
        apply last
        rw [← flatten_groupsOf size (rest.drop (size - 1)), none, List.flatten_nil]
      rw [List.dropLast_cons_of_ne_nil further]
      refine List.forall_mem_cons.2 ⟨?_, ih.full⟩
      rw [List.length_cons, List.length_take]
      omega

namespace ObjectFile

/-- The lines of some rows of entries: a letter and the entries of a row in each. -/
def rowLines (letter : Char) (rows : List (List (List Char))) : List Char :=
  (rows.map fun row => letter :: row.flatten).flatMap fun line => line ++ ['\n']

/-- The entries on the lines of a text: behind the letter each line is cut into fields of one width.
-/
def entries (letter : Char) (width : Nat) (text : List Char) : Option (List (List Char)) := do
  let lines ← pieces '\n' text
  let rows ← lines.mapM fun line =>
    if line.head? = some letter then columns width line.tail else none
  return rows.flatten

/-- Entries that are read off lines all have the width and stand on one line. -/
theorem fits_of_entries {letter : Char} {width : Nat} {text : List Char} {found : List (List Char)}
    (read : entries letter width text = some found) :
    ∀ entry ∈ found, entry.length = width ∧ '\n' ∉ entry := by
  simp only [entries, Option.bind_eq_bind, Option.bind_eq_some_iff, Option.pure_def,
    Option.some.injEq] at read
  obtain ⟨lines, cut, rows, each, rfl⟩ := read
  intro entry mem
  obtain ⟨row, listed, inside⟩ := List.mem_flatten.1 mem
  obtain ⟨line, own, taken⟩ := exists_of_mem_mapM_some each row listed
  split at taken
  · obtain ⟨whole, widths⟩ := columns_eq_some taken
    refine ⟨widths entry inside, fun newline => not_mem_of_pieces cut line own ?_⟩
    have behind : '\n' ∈ line.tail := whole ▸ List.mem_flatten_of_mem inside newline
    exact List.mem_of_mem_tail behind
  · cases taken

/-- Entries are read off their lines exactly if each of them has the width and stands on one line.
-/
theorem entries_rowLines_iff {letter : Char} (visible : letter ≠ '\n') {width : Nat}
    (room : 0 < width) (rows : List (List (List Char))) :
    entries letter width (rowLines letter rows) = some rows.flatten ↔
      ∀ entry ∈ rows.flatten, entry.length = width ∧ '\n' ∉ entry := by
  refine ⟨fits_of_entries, fun fits => ?_⟩
  have lines : pieces '\n' (rowLines letter rows) =
      some (rows.map fun row => letter :: row.flatten) := by
    apply pieces_flatMap
    intro line mem
    obtain ⟨row, listed, rfl⟩ := List.mem_map.1 mem
    rw [List.mem_cons, not_or]
    refine ⟨Ne.symm visible, fun newline => ?_⟩
    obtain ⟨entry, inside, found⟩ := List.mem_flatten.1 newline
    exact (fits entry (List.mem_flatten_of_mem listed inside)).2 found
  have each : (rows.map fun row => letter :: row.flatten).mapM
      (fun line => if line.head? = some letter then columns width line.tail else none) =
      some rows := by
    apply mapM_map_eq_some
    intro row listed
    rw [List.head?_cons, if_pos rfl, List.tail_cons]
    exact columns_flatten room fun entry inside =>
      (fits entry (List.mem_flatten_of_mem listed inside)).1
  simp only [entries, lines, Option.bind_eq_bind, Option.bind_some, each, Option.pure_def]

end ObjectFile

namespace Externals

/-- A declaration of shared names. -/
inductive Call where
  /-- Names are exported. -/
  | exports (names : List String)
  /-- Names are imported. -/
  | imports (names : List String)
  deriving DecidableEq, Repr

namespace Call

/-- The names that a declaration exports. -/
def exported : Call → List String
  | .exports names => names
  | .imports _ => []

/-- The names that a declaration imports. -/
def imported : Call → List String
  | .exports _ => []
  | .imports names => names

/-- Takes a declaration in. -/
def apply (externals : Externals) : Call → Externals
  | .exports names => externals.addExports names
  | .imports names => externals.addImports names

end Call

/-- The names that a row of declarations shares. -/
def declared (calls : List Call) : Externals := calls.foldl Call.apply {}

/-- The names are listed in order of first declaration, each once. -/
theorem declared_eq (calls : List Call) :
    declared calls =
      ⟨(calls.flatMap Call.exported).eraseDups, (calls.flatMap Call.imported).eraseDups⟩ := by
  induction calls using List.reverseRecOn with
  | nil => rfl
  | append_singleton calls call ih =>
    rw [declared] at ih
    rw [declared, List.foldl_concat, ih]
    cases call with
    | exports names => simp [Call.apply, addExports, merge_eraseDups, Call.exported, Call.imported]
    | imports names => simp [Call.apply, addImports, merge_eraseDups, Call.exported, Call.imported]

/-- Whether a name fits into its field and stands on one line. -/
def FitsField (name : String) : Prop := name.length ≤ nameWidth ∧ '\n' ∉ name.toList

/-- The columns of an exported name: the name and its value. -/
def entryColumns (symbols : SymbolTable) (name : String) : List Char :=
  ObjectFile.nameColumns name ++ Text.Hex.paddedChars 6 (exportOf symbols name).2

/-- A name fits into its field exactly if it fills it and stands on one line there. -/
theorem fitsField_iff {name : String} :
    FitsField name ↔ (ObjectFile.nameColumns name).length = nameWidth ∧
      '\n' ∉ ObjectFile.nameColumns name := by
  rw [FitsField, ObjectFile.length_nameColumns_eq, ObjectFile.newline_mem_nameColumns]
  exact and_congr_left fun _ => by omega

/-- The value of an exported name always takes up its six columns, so that its name alone decides
whether the entry has its width. -/
theorem entryColumns_iff {symbols : SymbolTable} {name : String} :
    FitsField name ↔ (entryColumns symbols name).length = nameWidth + 6 ∧
      '\n' ∉ entryColumns symbols name := by
  have least : 0 ≤ (exportOf symbols name).2 := Int.emod_nonneg _ (by decide)
  have most : (exportOf symbols name).2 < 16 ^ 6 := Int.emod_lt_of_pos _ (by decide)
  have value := Text.Hex.length_paddedChars (by decide) least most
  have digits : '\n' ∉ Text.Hex.paddedChars 6 (exportOf symbols name).2 :=
    ObjectFile.newline_not_mem_paddedChars least
  rw [fitsField_iff, entryColumns, List.length_append, value, List.mem_append, or_iff_left digits,
    Nat.add_right_cancel_iff]

/-- A text lists names by entries of a width.  Its lines hold a letter and the entries in order, one
to six on a line and six on every line but the last, and the entries can be read off the lines exactly
if every name fits into its field. -/
structure Lists (letter : Char) (width : Nat) (entry : String → List Char) (names : List String)
    (text : List Char) : Prop where
  /-- The entries stand on lines. -/
  rows : ∃ rows, text = ObjectFile.rowLines letter rows ∧ Full namesPerRecord rows ∧
    rows.flatten = names.map entry
  /-- The lines can be cut into the entries. -/
  cut : ObjectFile.entries letter width text = some (names.map entry) ↔
    ∀ name ∈ names, FitsField name

/-- Names that are written six to a line are listed, if the width of an entry is that of a name that
fits. -/
theorem lists_rowLines {letter : Char} (visible : letter ≠ '\n') {width : Nat} (room : 0 < width)
    {entry : String → List Char}
    (fits : ∀ name, FitsField name ↔ (entry name).length = width ∧ '\n' ∉ entry name)
    (names : List String) :
    Lists letter width entry names
      (ObjectFile.rowLines letter (groupsOf namesPerRecord (names.map entry))) := by
  have whole := flatten_groupsOf namesPerRecord (names.map entry)
  refine ⟨⟨_, rfl, full_groupsOf (by decide) _, whole⟩, ?_⟩
  have read := ObjectFile.entries_rowLines_iff visible room
    (groupsOf namesPerRecord (names.map entry))
  rw [whole] at read
  rw [read, List.forall_mem_map]
  exact forall₂_congr fun name _ => (fits name).symm

/-- The records of the exported names are rows of their entries. -/
theorem linesOf_exports (symbols : SymbolTable) (names : List String) :
    ObjectFile.linesOf ((groupsOf namesPerRecord (names.map (exportOf symbols))).map .exports) =
      ObjectFile.rowLines 'D' (groupsOf namesPerRecord (names.map (entryColumns symbols))) := by
  rw [groupsOf_map, groupsOf_map, ObjectFile.linesOf, ObjectFile.rowLines]
  simp only [List.map_map, List.flatMap_map]
  apply List.flatMap_congr
  intro group _
  simp only [Function.comp_apply, ObjectFile.Record.line, List.map_map]
  rfl

/-- The records of the imported names are rows of their columns. -/
theorem linesOf_imports (names : List String) :
    ObjectFile.linesOf ((groupsOf namesPerRecord names).map .imports) =
      ObjectFile.rowLines 'R' (groupsOf namesPerRecord (names.map ObjectFile.nameColumns)) := by
  rw [groupsOf_map, ObjectFile.linesOf, ObjectFile.rowLines]
  simp only [List.map_map, List.flatMap_map]
  rfl

/-- Whatever names are declared in whatever order, if the exported ones have values, both lists are
written, each name once and in order of first declaration, and the lines are cut into fixed columns
exactly if the names fit into them. -/
theorem lists_declared (calls : List Call) (symbols : SymbolTable)
    (known : ∀ name ∈ (declared calls).exports, (symbols.find? name).isSome = true) :
    (∃ text, (declared calls).exportRecords symbols = .ok text ∧
        Lists 'D' 12 (entryColumns symbols) (calls.flatMap Call.exported).eraseDups text.toList) ∧
      Lists 'R' 6 ObjectFile.nameColumns (calls.flatMap Call.imported).eraseDups
        (declared calls).importRecords.toList := by
  constructor
  · obtain ⟨text, written, lines⟩ := exportRecords_of_known known
    refine ⟨text, written, ?_⟩
    rw [lines, linesOf_exports, declared_eq]
    exact lists_rowLines (by decide) (by decide) (fun _ => entryColumns_iff) _
  · rw [toList_importRecords, linesOf_imports, declared_eq]
    exact lists_rowLines (by decide) (by decide) (fun _ => fitsField_iff) _

/-- Declarations that mention some names twice and export more names than a line holds. -/
def repeating : List Call :=
  [.exports ["BUFFER", "BUFEND"], .imports ["RDREC", "WRREC"],
    .exports ["BUFEND", "LENGTH", "A", "B"], .imports ["WRREC", "EOF"], .exports ["C", "D", "A"]]

/-- The values of the exported names, one of them negative. -/
def repeatingSymbols : SymbolTable :=
  .ofList [("BUFFER", 0x33), ("BUFEND", 0x1033), ("LENGTH", 0x2D), ("A", -1), ("B", 2), ("C", 3),
    ("D", 4)]

/-- Seven exported names take up two lines, and all entries are read off the lines. -/
theorem lists_declared_repeating :
    (∀ name ∈ (declared repeating).exports, (repeatingSymbols.find? name).isSome = true) ∧
      (∃ text, (declared repeating).exportRecords repeatingSymbols = .ok text ∧
        ObjectFile.entries 'D' 12 text.toList =
          some (["BUFFER", "BUFEND", "LENGTH", "A", "B", "C", "D"].map
            (entryColumns repeatingSymbols))) ∧
      ObjectFile.entries 'R' 6 (declared repeating).importRecords.toList =
        some (["RDREC", "WRREC", "EOF"].map ObjectFile.nameColumns) := by
  have known : ∀ name ∈ (declared repeating).exports,
      (repeatingSymbols.find? name).isSome = true := by decide +kernel
  have exported : (repeating.flatMap Call.exported).eraseDups =
      ["BUFFER", "BUFEND", "LENGTH", "A", "B", "C", "D"] := by decide +kernel
  have imported : (repeating.flatMap Call.imported).eraseDups = ["RDREC", "WRREC", "EOF"] := by
    decide +kernel
  obtain ⟨⟨text, written, exports⟩, imports⟩ := lists_declared repeating repeatingSymbols known
  rw [exported] at exports
  rw [imported] at imports
  refine ⟨known, ⟨text, written, exports.cut.2 ?_⟩, imports.cut.2 ?_⟩
  · unfold FitsField
    decide +kernel
  · unfold FitsField
    decide +kernel

/-- A name of eight characters is written in full, and its line has no fixed columns. -/
theorem entries_longName :
    (declared [.exports ["LONGNAME"]]).exportRecords (.ofList [("LONGNAME", 0)]) =
        .ok "DLONGNAME000000\n" ∧
      ObjectFile.entries 'D' 12 "DLONGNAME000000\n".toList = none ∧
      (declared [.imports ["LONGNAME"]]).importRecords = "RLONGNAME\n" ∧
      ObjectFile.entries 'R' 6 "RLONGNAME\n".toList = none := by
  decide +kernel

end Externals

end TwoPass
