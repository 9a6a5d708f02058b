import TwoPass.Proofs.Joining
import TwoPass.Report

/-!
# What a source says

Of a source only the labels, the operators and the operands of its statements matter.  Two sources
that say the same, in whatever lines, with whatever blanks and comments, lead to the same object
program and the same reports, or they fail for the same cause.

Both are compared with one run: that over the bare statements, which stand nowhere.  Reading a source
mirrors adding its bare statements, and from there on the passes and the object program mirror each
other.
-/

namespace TwoPass

namespace Text

/-- A text has at most as many lines as characters. -/
theorem length_lines_le (text : List Char) : (lines text).length ≤ text.length := by
  fun_induction lines text with
  | case1 => simp
  | case2 rest ih =>
    simp only [List.length_cons]
    omega
  | case3 c rest _ ends ih =>
    simp only [List.length_cons]
    omega
  | case4 c rest _ plain ih =>
    cases shape : lines rest with
    | nil => simp [pushFront]
    | cons line others =>
      rw [shape, List.length_cons] at ih
      simp only [pushFront, List.length_cons]
      omega

/-- A line is at most as long as the text. -/
theorem length_le_of_mem_lines (text : List Char) :
    ∀ line ∈ lines text, line.length ≤ text.length := by
  fun_induction lines text with
  | case1 => simp
  | case2 rest ih =>
    rw [List.forall_mem_cons]
    refine ⟨by simp, fun line mem => ?_⟩
    have short := ih line mem
    simp only [List.length_cons]
    omega
  | case3 c rest _ ends ih =>
    rw [List.forall_mem_cons]
    refine ⟨by simp, fun line mem => ?_⟩
    have short := ih line mem
    simp only [List.length_cons]
    omega
  | case4 c rest _ plain ih =>
    cases shape : lines rest with
    | nil => simp [pushFront]
    | cons first others =>
      rw [shape, List.forall_mem_cons] at ih
      rw [pushFront, List.forall_mem_cons]
      refine ⟨Nat.succ_le_succ ih.1, fun line mem => ?_⟩
      have short := ih.2 line mem
      simp only [List.length_cons]
      omega

end Text

namespace Statement

/-- What a statement says: its label, its operator and its operands. -/
def wording (statement : Statement) : Option String × String × List String :=
  (statement.label, statement.operator, statement.operands)

/-- The statement that says the same and stands nowhere. -/
def bare (statement : Statement) : Statement :=
  .unplaced statement.label statement.operator statement.operands

/-- Statements that say the same are the same without their places. -/
theorem map_bare_of_map_wording {one two : List Statement}
    (same : one.map wording = two.map wording) : one.map bare = two.map bare := by
  have spelled : bare = (fun said : Option String × String × List String =>
      unplaced said.1 said.2.1 said.2.2) ∘ wording := rfl
  rw [spelled, ← List.map_map, same, List.map_map]

end Statement

/-- A line that can be read says the same wherever it stands. -/
theorem Statement.parse_bare {line : String} {statement : Statement}
    (read : parse line none = .ok statement) (place : Option Location) :
    ∃ here, parse line place = .ok here ∧ here.bare = statement.bare := by
  rcases parse_cases line with ⟨_, refused⟩ | ⟨found, operands, operator, stands, _⟩
  · obtain ⟨diagnostic, fails, _⟩ := refused none
    rw [read] at fails
    cases fails
  · rw [stands] at read
    cases read
    exact ⟨_, stands place, rfl⟩

/-- The statements on some lines, if every line that holds one can be read. -/
def statementsOn (rows : List (List Char)) : Except Diagnostic (List Statement) :=
  ((rows.map String.ofList).filter fun line => !holdsNoStatement line).mapM fun line =>
    Statement.parse line none

/-- The statements of a source, if every line that holds one can be read. -/
def statementsIn (source : String) : Except Diagnostic (List Statement) :=
  statementsOn (Text.lines source.toList)

/-- What the statements of a source say, if every line that holds one can be read. -/
def contents (source : String) : Except Diagnostic (List (Option String × String × List String)) :=
  (statementsIn source).map (List.map Statement.wording)

/-- The statements on some lines of which the first holds none. -/
theorem statementsOn_of_blank {line : List Char} {rest : List (List Char)}
    (blank : holdsNoStatement (String.ofList line) = true) :
    statementsOn (line :: rest) = statementsOn rest := by
  simp [statementsOn, blank]

/-- The statements on some lines of which the first holds one. -/
theorem statementsOn_eq_ok {line : List Char} {rest : List (List Char)} {statements : List Statement}
    (filled : holdsNoStatement (String.ofList line) = false)
    (reads : statementsOn (line :: rest) = .ok statements) :
    ∃ statement others, Statement.parse (String.ofList line) none = .ok statement ∧
      statementsOn rest = .ok others ∧ statements = statement :: others := by
  have split : statementsOn (line :: rest) = do
      let statement ← Statement.parse (String.ofList line) none
      let others ← statementsOn rest
      return statement :: others := by
    simp [statementsOn, filled, List.mapM_cons]
  rw [split] at reads
  obtain ⟨statement, read, reads⟩ := bind_eq_ok.1 reads
  obtain ⟨others, further, reads⟩ := bind_eq_ok.1 reads
  exact ⟨statement, others, read, further, (Except.ok.inj reads).symm⟩

namespace Assembly

/-- The same assembly with other statements. -/
def restate (restated : Statement → Statement) (assembly : Assembly) : Assembly :=
  { assembly with sections := assembly.sections.map (Section.restate restated) }

/-- Adds statements one by one. -/
def addStatements (directory : Directory) (assembly : Assembly) :
    List Statement → Outcome Assembly Unit
  | [] => .done assembly ()
  | statement :: rest =>
    match statement.resolve (directory.lookup statement.operator) with
    | .error diagnostic => .failed assembly (.diagnostic diagnostic)
    | .ok instruction =>
      addStatements directory
        (assembly.push { statement, instruction := some instruction } instruction) rest

/-- Assembles statements from the beginning. -/
def assembleStatements (rules : Rules) (limit : Int) (statements : List Statement) :
    Outcome Assembly String :=
  ((addStatements rules.directory {} statements).andThen fun assembly _ =>
    assembly.assembleSections rules).andThen fun assembly _ =>
      .ofExcept assembly (assembly.objectProgram limit)

section Restate

variable (restated : Statement → Statement)

/-- An item joins the same section after its statement is replaced. -/
theorem pushLast_restate (sections : List Section) (item : Item) :
    pushLast (item.restate restated) (sections.map (Section.restate restated)) =
      (pushLast item sections).map (Section.restate restated) := by
  cases sections with
  | nil => rfl
  | cons part rest => exact pushLast_join [] restated (List.cons_ne_nil part rest) item

/-- Adding an item and replacing the statements can be done in either order. -/
theorem push_restate (assembly : Assembly) (item : Item) (instruction : Instruction) :
    (assembly.restate restated).push (item.restate restated) instruction =
      (assembly.push item instruction).restate restated := by
  have needs : needsSection (assembly.sections.map (Section.restate restated)) =
      needsSection assembly.sections :=
    needsSection_join [] restated rfl
  unfold push
  split
  · simp only [restate, needs]
    split
    · have added := pushLast_restate restated (assembly.sections ++ [({} : Section)]) item
      rw [List.map_append, List.map_singleton] at added
      exact congrArg (fun sections => Assembly.mk sections (assembly.openings + 1)) added
    · rw [pushLast_restate]
  · simp only [restate, pushLast_restate]

variable {restated : Statement → Statement} {assembly : Assembly}

/-- The passes over the sections need what those over each section need. -/
theorem assembleSections_restate
    (restates : ∀ part ∈ assembly.sections, part.Restates restated) (rules : Rules) :
    (assembly.assembleSections rules).Mirrors (restate restated)
      ((assembly.restate restated).assembleSections rules) := by
  let step : Unit → Section → Outcome (Unit × Section) Unit := fun _ part =>
    (part.assemble rules).mapState fun part => ((), part)
  have sweeps : (Outcome.sweep step () assembly.sections).Mirrors
      (Prod.map id (List.map (Section.restate restated)))
      (Outcome.sweep step () (assembly.sections.map (Section.restate restated))) := by
    apply Outcome.Mirrors.sweep
    intro _ part mem
    have passes := Section.assemble_restate (restates part mem) rules
    exact ⟨congrArg (Prod.mk ()) passes.state, passes.result⟩
  refine ⟨?_, sweeps.result⟩
  exact congrArg (fun reached : Unit × List Section =>
    { assembly.restate restated with sections := reached.2 }) sweeps.state

/-- The object program of sections over which the passes have been needs the operators, and that the
places can be written. -/
theorem objectProgram_restate
    (restates : ∀ part ∈ assembly.sections, part.Restates restated) {rules : Rules}
    (passes : (assembly.assembleSections rules).result = .ok ()) (limit : Int) :
    placeless (((assembly.assembleSections rules).state.restate restated).objectProgram limit) =
      placeless ((assembly.assembleSections rules).state.objectProgram limit) := by
  obtain ⟨each, state⟩ := assembleSections_spec rules assembly
  rcases objectPrograms_restate restated limit (assembly.assembleSections rules).state.sections with
    same | lacks
  · exact congrArg placeless same
  · refine lacks.placeless_eq fun item mem => ?_
    rw [state passes, List.mem_flatMap] at mem
    obtain ⟨_, listed, mem⟩ := mem
    obtain ⟨part, read, rfl⟩ := List.mem_map.1 listed
    obtain ⟨source, inside, same, _⟩ := Section.exists_source
      (fun other inside => (restates part read other inside).1) (each.1 passes part read) item mem
    rw [← same]
    exact (restates part read source inside).2

end Restate

/-- Reading lines mirrors adding their bare statements. -/
theorem addLines_mirrors (directory : Directory) (file : String) {rows : List (List Char)}
    {statements : List Statement} (reads : statementsOn rows = .ok statements)
    (assembly : Assembly) (number : Nat) :
    (addLines directory file assembly number rows).Mirrors (restate Statement.bare)
      (addStatements directory (assembly.restate Statement.bare)
        (statements.map Statement.bare)) := by
  induction rows generalizing assembly number statements with
  | nil =>
    obtain rfl : [] = statements := Except.ok.inj reads
    exact ⟨rfl, rfl⟩
  | cons line rest ih =>
    rw [addLines]
    cases blank : holdsNoStatement (String.ofList line) with
    | true =>
      rw [statementsOn_of_blank blank] at reads
      rw [addLine, if_pos blank]
      exact ih reads assembly (number + 1)
    | false =>
      obtain ⟨statement, others, read, further, rfl⟩ := statementsOn_eq_ok blank reads
      obtain ⟨here, stands, said⟩ := Statement.parse_bare read (some ⟨file, number, 1⟩)
      have same : (here.bare.resolve (directory.lookup here.operator)).mapError Diagnostic.cause =
          (here.resolve (directory.lookup here.operator)).mapError Diagnostic.cause := by
        apply Statement.resolve_eq
        · rfl
        · rfl
      have named : here.bare.operator = here.operator := rfl
      rw [addLine_of_parse blank stands, List.map_cons, ← said, addStatements, named]
      rcases mapError_cases same with ⟨instruction, one, two⟩ | ⟨failure, other, one, two, cause⟩
      · rw [one, two]
        let item : Item := { statement := here, instruction := some instruction }
        have later := ih further (assembly.push item instruction) (number + 1)
        rw [← push_restate] at later
        exact later
      · rw [one, two]
        exact ⟨rfl, congrArg (fun cause => Except.error (Failure.ofCause cause)) cause⟩

/-- The statements of a source say the same nowhere, as long as the places can be written. -/
theorem addSource_bare (directory : Directory) {source : String} (file : String)
    (short : Text.isWritable source.length = true) :
    ∀ part ∈ (addSource directory {} source file).state.sections,
      part.Restates Statement.bare := by
  have holds : (addSource directory {} source file).state.Holds fun item =>
      item.instruction.isSome = true ∧ item.statement.Alike item.statement.bare := by
    apply Holds.addLines
    · intro index line listed statement instruction read _
      refine ⟨rfl, rfl, rfl, rfl, ?_⟩
      have mem := List.mem_of_getElem? listed
      have behind := (List.getElem?_eq_some_iff.1 listed).1
      obtain ⟨⟨offset, inside, located⟩, _⟩ := Statement.parse_eq_ok read
      have rows := Text.length_lines_le source.toList
      have wide := Text.length_le_of_mem_lines source.toList line mem
      rw [String.length_toList] at rows wide
      rw [String.length_ofList] at inside
      have below : Text.isWritable (1 + index : Nat) = true :=
        Text.isWritable_of_le (by omega) short
      have across : Text.isWritable (1 + offset : Nat) = true :=
        Text.isWritable_of_le (by omega) short
      rw [Nat.cast_add, Nat.cast_one] at below across
      simp [Statement.bare, Statement.unplaced, located, Location.shifted, Location.isWritable,
        below, across]
    · intro part mem
      cases mem
  exact fun part mem item inside => (holds part mem).2 item inside

/-- Assembling a source mirrors assembling its bare statements, as long as the places can be
written. -/
theorem assemble_mirrors (rules : Rules) (limit : Int) {source : String} (file : String)
    {statements : List Statement} (reads : statementsIn source = .ok statements)
    (short : Text.isWritable source.length = true) :
    (assemble rules limit source file).Mirrors (restate Statement.bare)
      (assembleStatements rules limit (statements.map Statement.bare)) := by
  have restates := addSource_bare rules.directory file short
  have passed : ((addSource rules.directory {} source file).andThen fun assembly _ =>
        assembly.assembleSections rules).Mirrors (restate Statement.bare)
      ((addStatements rules.directory {} (statements.map Statement.bare)).andThen fun assembly _ =>
        assembly.assembleSections rules) :=
    (addLines_mirrors rules.directory file reads {} 1).andThen fun _ _ =>
      assembleSections_restate restates rules
  refine passed.andThen fun _ both => ⟨rfl, ?_⟩
  obtain ⟨_, read, passes⟩ := Outcome.andThen_eq_ok.1 both
  rw [Outcome.state_andThen_of_ok read]
  exact objectProgram_restate restates passes limit

end Assembly

namespace Section

/-- The listing of a section needs what its statements say. -/
theorem listingLines_bare (part : Section) :
    (part.restate Statement.bare).listingLines = part.listingLines := by
  rw [listingLines, listingLines, restate, List.mapM_map]
  rfl

/-- A literal in a pool can be listed. -/
theorem exists_literalLine {part : Section} {items : List Item}
    (pooled : Layout.Pooled items part.literals) {text : String}
    (inside : text ∈ items.flatMap Item.pool) : ∃ line, part.literalLine text = .ok line := by
  obtain ⟨literal, placed, _, entry⟩ := pooled.entry inside
  obtain ⟨location, located⟩ :=
    Option.isSome_iff_exists.1 (LiteralTable.isSome_of_mem_placed placed)
  obtain ⟨bytes, written⟩ := (pooled.storable literal (List.mem_of_mem_filter placed)).written
  have own : literal.hex = .ok bytes := written
  rw [literalLine, entry]
  simp only [located, own]
  exact ⟨_, rfl⟩

/-- Both passes over a fresh section leave one that can be listed. -/
theorem exists_listingLines {directory : Directory} {part : Section} (fresh : part.Fresh directory)
    {rules : Rules} (succeeds : (part.assemble rules).result = .ok ()) :
    ∃ lines, (part.assemble rules).state.listingLines = .ok lines := by
  obtain ⟨_, _, reached⟩ := assemble_eq_ok succeeds
  obtain ⟨header, state⟩ := layOut_state rules part
  have pooled : Layout.Pooled (part.layOut rules).state.items
      (part.assemble rules).state.literals := by
    rw [reached, (encode_eq rules _).2, state]
    exact (laying_pooled fresh rules).1
  have each : ∀ item ∈ (part.assemble rules).state.items, ∃ lines,
      (part.assemble rules).state.itemLines item = .ok lines := by
    intro done mem
    rw [reached] at mem
    obtain ⟨item, laid, flags, code, byteSize, rfl⟩ :=
      exists_mem_of_forall₂ (encoding_kept (known_layOut fresh.known rules) rules) mem
    obtain ⟨lines, listed⟩ := exists_mapM_ok fun text inside =>
      exists_literalLine pooled (List.mem_flatMap.2 ⟨item, laid, inside⟩)
    exact ⟨_, map_eq_ok.2 ⟨lines, listed, rfl⟩⟩
  obtain ⟨lines, listed⟩ := exists_mapM_ok each
  exact ⟨_, map_eq_ok.2 ⟨lines, listed, rfl⟩⟩

end Section

namespace Assembly

/-- The reports on an assembly need what its statements say. -/
theorem reports_bare (assembly : Assembly) :
    (assembly.restate Statement.bare).symbolReport = assembly.symbolReport ∧
      (assembly.restate Statement.bare).literalReport = assembly.literalReport ∧
      (assembly.restate Statement.bare).listing = assembly.listing := by
  refine ⟨?_, ?_, ?_⟩
  · rw [symbolReport, symbolReport, restate, List.flatMap_map]
    rfl
  · rw [literalReport, literalReport, restate, List.flatMap_map]
    rfl
  · have each : Section.listingLines ∘ Section.restate Statement.bare = Section.listingLines :=
      funext Section.listingLines_bare
    rw [listing, listing, restate, List.mapM_map, each]

/-- A source that is assembled can be listed. -/
theorem exists_listing {rules : Rules} {limit : Int} {source file program : String}
    (succeeds : (assemble rules limit source file).result = .ok program) :
    ∃ listing, (assemble rules limit source file).state.listing = .ok listing := by
  obtain ⟨_, passes, _⟩ := assemble_eq_ok_iff.1 succeeds
  rw [state_assemble succeeds]
  have each : ∀ part ∈ ((addSource rules.directory {} source file).state.passed rules).sections,
      ∃ lines, part.listingLines = .ok lines := by
    intro part mem
    obtain ⟨fresh, read, rfl⟩ := List.mem_map.1 mem
    exact Section.exists_listingLines (addSource_fresh rules.directory source file fresh read).1
      (passes fresh read)
  obtain ⟨lines, listed⟩ := exists_mapM_ok each
  exact ⟨_, map_eq_ok.2 ⟨lines, listed, rfl⟩⟩

/-- Two sources whose lines can all be read and whose statements have the same labels, operators and
operands are assembled to the same object program, with the same symbol report, literal report and
listing, or both fail, for the same cause.  A message names its line and column, so these have to be
numbers that can be written: that is so if the length of each source has at most 4300 digits. -/
theorem assemble_contents (rules : Rules) (limit : Int) {first second : String}
    (file other : String) {said : List (Option String × String × List String)}
    (reads : contents first = .ok said) (alsoReads : contents second = .ok said)
    (short : Text.isWritable first.length = true)
    (alsoShort : Text.isWritable second.length = true) :
    let left := assemble rules limit first file
    let right := assemble rules limit second other
    (∃ program listing, left.result = .ok program ∧ right.result = .ok program ∧
        left.state.symbolReport = right.state.symbolReport ∧
        left.state.literalReport = right.state.literalReport ∧
        left.state.listing = .ok listing ∧ right.state.listing = .ok listing) ∨
      ∃ failure reason, left.result = .error failure ∧ right.result = .error reason ∧
        failure.placeless = reason.placeless := by
  intro left right
  obtain ⟨statements, read, wording⟩ := map_eq_ok.1 reads
  obtain ⟨others, alsoRead, alsoWording⟩ := map_eq_ok.1 alsoReads
  have one := assemble_mirrors rules limit file read short
  have two := assemble_mirrors rules limit other alsoRead alsoShort
  rw [← Statement.map_bare_of_map_wording (wording.trans alsoWording.symm)] at two
  have states : left.state.restate Statement.bare = right.state.restate Statement.bare :=
    one.state.symm.trans two.state
  rcases placeless_cases (one.result.symm.trans two.result) with
    ⟨program, succeeds, follows⟩ | ⟨failure, reason, fails, follows, cause⟩
  · obtain ⟨listing, listed⟩ := exists_listing succeeds
    obtain ⟨symbols, literals, lines⟩ := reports_bare left.state
    obtain ⟨alsoSymbols, alsoLiterals, alsoLines⟩ := reports_bare right.state
    rw [states] at symbols literals lines
    refine .inl ⟨program, listing, succeeds, follows, ?_, ?_, listed, ?_⟩
    · rw [← symbols, alsoSymbols]
    · rw [← literals, alsoLiterals]
    · rw [← alsoLines, lines]
      exact listed
  · exact .inr ⟨failure, reason, fails, follows, cause⟩

/-- A short program in few words. -/
def terse : String := "ADD\tSTART\t0\n\tLDA\tNINE\nNINE\tWORD\t9\n"

/-- The same program with remarks, blanks and small letters. -/
def wordy : String :=
  ". adds nothing\n\nADD \tstart\t 0\tat zero\r\n\t lda\tNINE\tload it\n NINE\tWord\t9\t\n"

/-- Both say the same, and are assembled to the same. -/
theorem assemble_contents_wordy :
    let left := assemble ⟨.builtin, true⟩ 60 terse "terse.asm"
    let right := assemble ⟨.builtin, true⟩ 60 wordy "wordy.asm"
    left.result = .ok "HADD   000000000006\nT00000006032000000009\nE000000\n\n" ∧
      right.result = left.result ∧ right.state.listing = left.state.listing := by
  intro left right
  have one : contents terse = .ok
      [(some "ADD", "START", ["0"]), (none, "LDA", ["NINE"]), (some "NINE", "WORD", ["9"])] := by
    decide +kernel
  have two : contents wordy = .ok
      [(some "ADD", "START", ["0"]), (none, "LDA", ["NINE"]), (some "NINE", "WORD", ["9"])] := by
    decide +kernel
  have written : left.result = .ok "HADD   000000000006\nT00000006032000000009\nE000000\n\n" := by
    decide +kernel
  rcases assemble_contents ⟨.builtin, true⟩ 60 "terse.asm" "wordy.asm" one two (by decide +kernel)
      (by decide +kernel) with
    ⟨program, listing, succeeds, follows, _, _, lists, alsoLists⟩ | ⟨failure, _, fails, _, _⟩
  · exact ⟨written, follows.trans succeeds.symm, alsoLists.trans lists.symm⟩
  · rw [written] at fails
    cases fails

end Assembly

end TwoPass
