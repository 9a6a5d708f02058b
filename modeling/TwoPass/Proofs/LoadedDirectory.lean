import Mathlib.Data.List.Forall2
import TwoPass.Instruction.Table
import TwoPass.Proofs.UpperCase

/-!
# Directories that are read from a text

A loaded directory begins with the directives, and every entry line of the text puts one machine
instruction in.  The main statement, `Directory.lookup_loaded`, says which entry a name has then: that
of the last line that names it, whatever the name is.  So a directive is found as it was built in
exactly if no line names it; the text can take a directive away.
-/

namespace TwoPass

namespace Directory

/-- The words of a line that holds an entry: it is neither blank nor a comment. -/
def entryWords? (line : List Char) : Option (List (List Char)) :=
  if Text.trim line = [] ∨ (Text.trim line).head? = some '#' then none
  else some (Text.words (Text.trim line))

/-- The entry lines of a text, as words. -/
def entryLines (text : String) : List (List (List Char)) :=
  (Text.lines (Text.uniformLineEnds text.toList)).filterMap entryWords?

/-- Whether an entry line names an operator; both are compared in upper case. -/
def Names (words : List (List Char)) (name : String) : Prop :=
  words.head?.map Text.upper = some (Text.upper name.toList)

instance (words : List (List Char)) (name : String) : Decidable (Names words name) :=
  inferInstanceAs (Decidable (_ = _))

/-- An entry line declares a machine instruction by its words: the mnemonic, the length in bytes, the
opcode in hexadecimal, the least number of operands, and a word for an instruction that opens a
section. -/
structure Declares (words : List (List Char)) (instruction : Instruction) : Prop where
  /-- The first word is the mnemonic, in upper case. -/
  mnemonic : words.head?.map Text.upper = some instruction.mnemonic.toList
  /-- The instruction is no directive. -/
  machine : instruction.isDirective = false
  /-- The second word is the length. -/
  length : (words[1]?).bind (Text.integer? 10) = some (instruction.size : Int)
  /-- The third word is the opcode. -/
  opcode : (words[2]?).bind (Text.integer? 16) = instruction.opcode?
  /-- The fourth word is the least number of operands. -/
  needed : (words[3]?).bind (Text.integer? 10) = some instruction.neededOperands
  /-- The fifth word, if there is one, says whether a section is opened. -/
  opens : instruction.opensSection = true ↔
    (words[4]?).map Text.upper = some "SECTION".toList

section Entries

/-- A declared format has the length that declares it. -/
theorem size_of_declared? {length : Int} {format : Format}
    (known : Format.declared? length = some format) : length = format.size := by
  rw [Format.declared?.eq_def] at known
  split at known <;> cases known <;> rfl

/-- An entry is what its words declare. -/
theorem declares_of_entryOfWords {words : List (List Char)} {instruction : Instruction}
    (read : entryOfWords words = .ok instruction) : Declares words instruction := by
  rw [entryOfWords.eq_def] at read
  split at read
  · rename_i name format opcode needed further
    split at read
    · rename_i length code least found code_found least_found
      split at read
      · rename_i declared known
        cases read
        refine ⟨?_, rfl, ?_, ?_, ?_, ?_⟩
        · simp
        · simpa [size_of_declared? known, Instruction.size] using found
        · simpa [Instruction.opcode?] using code_found
        · simpa using least_found
        · simp [List.head?_eq_getElem?]
      · cases read
    · cases read
  · cases read

/-- A line is read by its words, if it holds an entry. -/
theorem entryOfLine_eq (line : List Char) :
    entryOfLine line =
      (entryWords? line).elim (.ok none) fun words => (entryOfWords words).map some := by
  rw [entryOfLine.eq_def, entryWords?]
  split
  · rename_i blank
    rw [blank]
    rfl
  · rename_i rest comment
    rw [comment, if_pos (.inr rfl)]
    rfl
  · rename_i filled plain
    have entry : ¬ (Text.trim line = [] ∨ (Text.trim line).head? = some '#') := by
      rintro (blank | comment)
      · exact filled blank
      · obtain ⟨rest, same⟩ := List.head?_eq_some_iff.1 comment
        exact plain rest same
    rw [if_neg entry]
    rfl

/-- Lines that are accepted put in what their entries declare, one behind the other. -/
theorem addLines_eq_ok {file : String} {directory loaded : Directory} {number : Nat}
    {rows : List (List Char)} (read : addLines file directory number rows = .ok loaded) :
    ∃ instructions, List.Forall₂ Declares (rows.filterMap entryWords?) instructions ∧
      loaded = instructions.foldl put directory := by
  induction rows generalizing directory number with
  | nil =>
    cases read
    exact ⟨[], .nil, rfl⟩
  | cons line rest ih =>
    rw [addLines, entryOfLine_eq] at read
    cases entry : entryWords? line with
    | none =>
      rw [entry] at read
      obtain ⟨instructions, declared, same⟩ := ih read
      exact ⟨instructions, by rwa [List.filterMap_cons_none entry], same⟩
    | some words =>
      rw [entry, Option.elim_some] at read
      cases own : entryOfWords words with
      | error cause =>
        rw [own] at read
        cases read
      | ok instruction =>
        rw [own] at read
        obtain ⟨instructions, declared, same⟩ := ih read
        refine ⟨instruction :: instructions, ?_, same⟩
        rw [List.filterMap_cons_some entry]
        exact .cons (declares_of_entryOfWords own) declared

end Entries

section Search

/-- A line names an operator exactly if the instruction that it declares has that mnemonic. -/
theorem Declares.names_iff {words : List (List Char)} {instruction : Instruction}
    (declares : Declares words instruction) {name : String} :
    Names words name ↔ instruction.mnemonic = String.ofList (Text.upper name.toList) := by
  rw [Names, declares.mnemonic, Option.some.injEq, ← String.toList_inj, String.toList_ofList]

variable {lines : List (List (List Char))} {instructions : List Instruction} {name : String}

/-- A name that no line names keeps its entry. -/
theorem find?_foldl_put_of_absent (declared : List.Forall₂ Declares lines instructions)
    (absent : ∀ words ∈ lines, ¬ Names words name) (directory : Directory) :
    (instructions.foldl put directory).find? (String.ofList (Text.upper name.toList)) =
      directory.find? (String.ofList (Text.upper name.toList)) := by
  induction declared generalizing directory with
  | nil => rfl
  | cons own _ ih =>
    rw [List.forall_mem_cons, own.names_iff] at absent
    rw [List.foldl_cons, ih absent.2]
    exact (OrderedMap.find?_put _ _ _ _).trans (if_neg (Ne.symm absent.1))

/-- A name has the entry of the last line that names it. -/
theorem find?_foldl_put_of_last {before after : List (List (List Char))} {words : List (List Char)}
    (declared : List.Forall₂ Declares (before ++ words :: after) instructions)
    (named : Names words name) (last : ∀ later ∈ after, ¬ Names later name)
    (directory : Directory) :
    ∃ instruction, (instructions.foldl put directory).find?
        (String.ofList (Text.upper name.toList)) = some instruction ∧
      Declares words instruction := by
  induction before generalizing instructions directory with
  | nil =>
    obtain ⟨instruction, further, own, later, rfl⟩ := List.forall₂_cons_left_iff.1 declared
    refine ⟨instruction, ?_, own⟩
    rw [List.foldl_cons, find?_foldl_put_of_absent later last, ← own.names_iff.1 named]
    exact OrderedMap.find?_put_self _ _ _
  | cons first rest ih =>
    obtain ⟨instruction, further, _, later, rfl⟩ := List.forall₂_cons_left_iff.1 declared
    exact ih later (directory.put instruction)

/-- What some item of a row is, a last one is. -/
theorem exists_last {α : Type} {good : α → Prop} {row : List α} (some : ∃ item ∈ row, good item) :
    ∃ before item after, row = before ++ item :: after ∧ good item ∧
      ∀ later ∈ after, ¬ good later := by
  induction row with
  | nil =>
    obtain ⟨item, mem, _⟩ := some
    cases mem
  | cons first rest ih =>
    by_cases later : ∃ item ∈ rest, good item
    · obtain ⟨before, item, after, rfl, own, last⟩ := ih later
      exact ⟨first :: before, item, after, rfl, own, last⟩
    · obtain ⟨item, mem, own⟩ := some
      rcases List.mem_cons.1 mem with rfl | inside
      · exact ⟨[], item, rest, rfl, own, fun other there good => later ⟨other, there, good⟩⟩
      · exact absurd ⟨item, inside, own⟩ later

/-- A name without a plus sign is looked up in upper case. -/
theorem lookup_of_plain (plain : name.toList.head? ≠ some '+') (directory : Directory) :
    directory.lookup name = directory.find? (String.ofList (Text.upper name.toList)) := by
  rw [lookup]
  split
  · rename_i rest extended
    exact absurd (Text.head?_of_upper extended) plain
  · rfl

/-- Every directive is found among the directives. -/
theorem find?_directives (directive : Directive) :
    directives.find? directive.name = some (.ofDirective directive) := by
  cases directive <;> decide

/-- Nothing else is found among the directives. -/
theorem find?_directives_of_other {name : String}
    (other : ∀ directive : Directive, name ≠ directive.name) : directives.find? name = none := by
  rw [find?, OrderedMap.find?, List.lookup_eq_none_iff]
  intro entry mem
  obtain ⟨instruction, listed, rfl⟩ := List.mem_map.1 mem
  obtain ⟨directive, _, rfl⟩ := List.mem_map.1 listed
  simpa [Instruction.ofDirective] using other directive

/-- No directive is written with a plus sign in front. -/
theorem plain_of_directive {name : String} {directive : Directive}
    (spelled : Text.upper name.toList = directive.name.toList) : name.toList.head? ≠ some '+' := by
  intro plus
  obtain ⟨rest, same⟩ := List.head?_eq_some_iff.1 plus
  have kept : Text.upperChar '+' = ['+'] := by decide
  rw [same, Text.upper, List.flatMap_cons, kept] at spelled
  cases directive <;> cases spelled

/-- The built-in directory has every directive under its name. -/
theorem lookup_builtin (directive : Directive) :
    builtin.lookup directive.name = some (.ofDirective directive) := by
  cases directive <;> decide +kernel

end Search

section Loaded

variable {file text : String} {directory : Directory} (loaded : ofText file text = .ok directory)
  {name : String}

include loaded

/-- A name that no entry line names is looked up among the directives. -/
theorem lookup_of_absent (plain : name.toList.head? ≠ some '+')
    (absent : ∀ words ∈ entryLines text, ¬ Names words name) :
    directory.lookup name = directives.find? (String.ofList (Text.upper name.toList)) := by
  obtain ⟨instructions, declared, rfl⟩ := addLines_eq_ok loaded
  rw [lookup_of_plain plain, find?_foldl_put_of_absent declared absent]

/-- A name has the entry that the last line declares that names it. -/
theorem lookup_of_last (plain : name.toList.head? ≠ some '+')
    {before after : List (List (List Char))} {words : List (List Char)}
    (split : entryLines text = before ++ words :: after) (named : Names words name)
    (last : ∀ later ∈ after, ¬ Names later name) :
    ∃ instruction, directory.lookup name = some instruction ∧ Declares words instruction := by
  obtain ⟨instructions, declared, rfl⟩ := addLines_eq_ok loaded
  rw [← entryLines, split] at declared
  rw [lookup_of_plain plain]
  exact find?_foldl_put_of_last declared named last directives

/-- A name that some entry line names stands for a machine instruction. -/
theorem lookup_of_named (plain : name.toList.head? ≠ some '+')
    (named : ∃ words ∈ entryLines text, Names words name) :
    ∃ instruction, directory.lookup name = some instruction ∧ instruction.isDirective = false := by
  obtain ⟨before, words, after, split, own, last⟩ := exists_last named
  obtain ⟨instruction, found, declares⟩ := lookup_of_last loaded plain split own last
  exact ⟨instruction, found, declares.machine⟩

/-- A directive is found as it was built in exactly if no entry line names it. -/
theorem lookup_eq_builtin_iff {directive : Directive}
    (spelled : Text.upper name.toList = directive.name.toList) :
    directory.lookup name = builtin.lookup directive.name ↔
      ∀ words ∈ entryLines text, ¬ Names words name := by
  have plain := plain_of_directive spelled
  rw [lookup_builtin]
  constructor
  · intro found words mem named
    -- The line's own entry is a machine instruction, so it is not the directive.
    obtain ⟨instruction, other, machine⟩ := lookup_of_named loaded plain ⟨words, mem, named⟩
    rw [found] at other
    cases other
    cases machine
  · intro absent
    rw [lookup_of_absent loaded plain absent, spelled, String.ofList_toList, find?_directives]

/-- A name that is no directive is found exactly if some entry line names it. -/
theorem isSome_lookup_iff (plain : name.toList.head? ≠ some '+')
    (other : ∀ directive : Directive, Text.upper name.toList ≠ directive.name.toList) :
    (directory.lookup name).isSome = true ↔ ∃ words ∈ entryLines text, Names words name := by
  constructor
  · intro found
    by_contra absent
    simp only [not_exists, not_and] at absent
    have unlisted : ∀ directive : Directive,
        String.ofList (Text.upper name.toList) ≠ directive.name := by
      intro directive same
      apply other directive
      rw [← same, String.toList_ofList]
    rw [lookup_of_absent loaded plain absent, find?_directives_of_other unlisted] at found
    cases found
  · intro named
    obtain ⟨instruction, found, _⟩ := lookup_of_named loaded plain named
    rw [found, Option.isSome_some]

end Loaded

/-- The directory that is loaded from a text.  A directive, in whatever letter case, is found as it was
built in exactly if no entry line names it.  Any other name without a plus sign is found exactly if
some entry line names it.  Every name that entry lines name has the entry that the last of them
declares. -/
theorem lookup_loaded {file text : String} {directory : Directory}
    (loaded : ofText file text = .ok directory) :
    (∀ (directive : Directive) (name : String),
        Text.upper name.toList = directive.name.toList →
          (directory.lookup name = builtin.lookup directive.name ↔
            ∀ words ∈ entryLines text, ¬ Names words name)) ∧
      ∀ name : String, name.toList.head? ≠ some '+' →
        ((∀ directive : Directive, Text.upper name.toList ≠ directive.name.toList) →
          ((directory.lookup name).isSome = true ↔ ∃ words ∈ entryLines text, Names words name)) ∧
        ∀ before words after, entryLines text = before ++ words :: after → Names words name →
          (∀ later ∈ after, ¬ Names later name) →
            ∃ instruction, directory.lookup name = some instruction ∧
              Declares words instruction := by
  constructor
  · intro directive name spelled
    exact lookup_eq_builtin_iff loaded spelled
  · intro name plain
    constructor
    · exact isSome_lookup_iff loaded plain
    · intro before words after split named last
      exact lookup_of_last loaded plain split named last

/-- A table with comments and a blank line that declares one mnemonic twice, and a directive. -/
def overriding : String :=
  "# mnemonic format opcode least\nLDA\t3\t00\t1\n\n" ++
    "word 3 0x04 1 Section\n  lda 2 FF 0\n#RESB 1 00 0"

/-- The later entry of a mnemonic counts, a directive is replaced, and the other directives stay. -/
theorem lookup_loaded_overriding :
    ∃ directory, ofText "inst.txt" overriding = .ok directory ∧
      directory.lookup "Resb" = builtin.lookup "RESB" ∧
      directory.lookup "Word" ≠ builtin.lookup "WORD" ∧
      (directory.lookup "STA").isSome = false ∧
      ∃ instruction, directory.lookup "Lda" = some instruction ∧
        Declares (["lda", "2", "FF", "0"].map String.toList) instruction := by
  have lines : entryLines overriding =
      [["LDA", "3", "00", "1"].map String.toList,
        ["word", "3", "0x04", "1", "Section"].map String.toList] ++
      [["lda", "2", "FF", "0"].map String.toList] := by decide +kernel
  have accepted : (ofText "inst.txt" overriding).toOption.isSome = true := by decide +kernel
  cases loaded : ofText "inst.txt" overriding with
  | error failure =>
    rw [loaded] at accepted
    cases accepted
  | ok directory =>
    obtain ⟨directives, others⟩ := lookup_loaded loaded
    refine ⟨directory, rfl, ?_, ?_, ?_, ?_⟩
    · refine (directives .resb "Resb" (by decide)).2 ?_
      rw [lines]
      decide +kernel
    · intro kept
      have absent := (directives .word "Word" (by decide)).1 kept
      rw [lines] at absent
      exact absurd absent (by decide +kernel)
    · have found := (others "STA" (by decide)).1 (by intro directive; cases directive <;> decide)
      rw [← Bool.not_eq_true, found, lines]
      decide +kernel
    · obtain ⟨_, entries⟩ := others "Lda" (by decide)
      exact entries _ _ [] lines (by decide +kernel) (by simp)

/-- A table with the single entry of a directive replaces the directive. -/
theorem lookup_replaced :
    (ofText "inst.txt" "WORD\t3\t00\t1\n").map (fun directory => directory.lookup "WORD") =
        .ok (some (.machine "WORD" .three 0 1)) ∧
      builtin.lookup "WORD" = some (.ofDirective .word) := by
  decide +kernel

end Directory

end TwoPass
