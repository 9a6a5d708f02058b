import TwoPass.Proofs.Caret
import TwoPass.Proofs.Failures

/-!
# The line that a diagnostic points at

A diagnostic that stops the assembly of a source while it is read or in one of the passes is about
one line: the line that is refused, or the line of the statement at which the pass stops.  It has the
place of that line, and its message shows the line with a caret below it.  There is one exception: a
division by zero has the place only, and no line is shown.  The main statement is
`Assembly.diagnostic_at_line`.
-/

namespace TwoPass

/-- A diagnostic is about a line: it has a place on the line, and the text of the line unless the
cause is a division by zero. -/
structure Diagnostic.OnLine (found : Diagnostic) (place : Location) (line : String) : Prop where
  /-- The place is on the line. -/
  location : ∃ count, found.location = some (place.shifted count)
  /-- The line is shown. -/
  line : found.line = if found.cause = .divisionByZero then none else some line

/-- The message of a diagnostic about a line has the line and the caret below the heading, unless the
cause is a division by zero. -/
theorem Diagnostic.OnLine.message {found : Diagnostic} {place : Location} {line : String}
    (about : found.OnLine place line) (start : place.column = 1) :
    ∃ column, 1 ≤ column ∧ found.location = some { place with column } ∧
      found.message = "\n".intercalate (found.cause.notice.heading { place with column } ::
        ((if found.cause = .divisionByZero then []
          else [Notice.printed line, Notice.caretLine line column]) ++ found.cause.notice.advice)) := by
  obtain ⟨⟨count, location⟩, shown⟩ := about
  have column : 1 ≤ place.column + count := by omega
  refine ⟨place.column + count, column, location, ?_⟩
  rw [Diagnostic.message, location, shown]
  split
  · rw [Notice.render_at]
    rfl
  · exact @Notice.render_line _ (place.shifted count) column line

namespace Statement

/-- The operands of a statement stand on its line. -/
theorem location_ofFields (line : String) (place : Location) (label operator : List Char)
    (further : List (List Char)) :
    ∃ count, (ofFields line (some place) label operator further).location =
      some (place.shifted count) := by
  rw [ofFields]
  dsimp only
  split
  · exact ⟨_, rfl⟩
  · exact ⟨_, rfl⟩

/-- A diagnostic about a statement that was read is about its line, if it is placed at the operands or
at the operator and shows the line of the statement. -/
theorem onLine_of_located {line : String} {place : Location} {statement : Statement}
    (read : parse line (some place) = .ok statement) {found : Diagnostic}
    (location : found.location = statement.location ∨ found.location = statement.operatorLocation)
    (shown : found.line = if found.cause = .divisionByZero then none else some statement.line) :
    found.OnLine place line := by
  obtain ⟨label, operator, further, _, _, _, rfl⟩ := parse_eq_ok_iff.1 read
  refine ⟨?_, shown⟩
  rcases location with atOperands | atOperator
  · rw [atOperands]
    exact location_ofFields line place label operator further
  · exact ⟨_, atOperator⟩

/-- A line that cannot be read is refused with a diagnostic about it. -/
theorem onLine_of_parse {line : String} {place : Location} {found : Diagnostic}
    (fails : parse line (some place) = .error found) : found.OnLine place line := by
  have atStart : (⟨.operatorMissing, some place, some line⟩ : Diagnostic).OnLine place line :=
    ⟨⟨0, by simp [Location.shifted]⟩, rfl⟩
  have cut := cut_fields 3 (withoutLineEnd line.toList)
  obtain ⟨label, others, shape⟩ := List.exists_cons_of_ne_nil cut.filled
  cases others with
  | nil =>
    rw [parse, shape] at fails
    cases fails
    exact atStart
  | cons operator further =>
    rw [shape] at cut
    rw [parse_of_cut _ cut] at fails
    split at fails
    · cases fails
      exact atStart
    · dsimp only at fails
      split at fails
      · cases fails
        exact ⟨location_ofFields line place label operator further, rfl⟩
      · cases fails

/-- A statement that is not valid is refused with a diagnostic about its line. -/
theorem onLine_of_resolve {line : String} {place : Location} {statement : Statement}
    (read : parse line (some place) = .ok statement) {known : Option Instruction}
    {found : Diagnostic} (fails : statement.resolve known = .error found) :
    found.OnLine place line := by
  cases known with
  | none =>
    cases fails
    exact onLine_of_located read (.inr rfl) rfl
  | some instruction =>
    rw [resolve] at fails
    split at fails
    · cases fails
      exact onLine_of_located read (.inl rfl) rfl
    · cases fails

end Statement

namespace Assembly

/-- A line that is not accepted is refused with a diagnostic about it. -/
theorem onLine_of_addLine {directory : Directory} {assembly : Assembly} {line : String}
    {place : Location} {found : Diagnostic}
    (fails : addLine directory assembly line (some place) = .error found) :
    found.OnLine place line := by
  rw [addLine] at fails
  split at fails
  · cases fails
  · rcases bind_eq_error.1 fails with unread | ⟨statement, read, fails⟩
    · exact Statement.onLine_of_parse unread
    · rcases bind_eq_error.1 fails with invalid | ⟨_, _, fails⟩
      · exact Statement.onLine_of_resolve read invalid
      · cases fails

/-- Every item of a source stands on a line of it. -/
theorem addSource_stands (directory : Directory) (source file : String) :
    ∀ part ∈ (addSource directory {} source file).state.sections, ∀ item ∈ part.items,
      ∃ place line, (Text.lines source.toList)[place]? = some line.toList ∧
        Statement.parse line (some ⟨file, (place + 1 : Nat), 1⟩) = .ok item.statement := by
  have holds : (addSource directory {} source file).state.Holds fun item =>
      ∃ place line, (Text.lines source.toList)[place]? = some line.toList ∧
        Statement.parse line (some ⟨file, (place + 1 : Nat), 1⟩) = .ok item.statement := by
    apply Holds.addLines
    · intro place line listed statement instruction read _
      rw [Nat.add_comm] at read
      exact ⟨place, String.ofList line, by rw [String.toList_ofList, listed], read⟩
    · intro part mem
      cases mem
  exact fun part mem item inside => (holds part mem).2 item inside

/-- The line of a source that is being processed when a failure stops its assembly. -/
inductive Processing (rules : Rules) (source file : String) (place : Nat) (line : String)
    (failure : Failure) : Prop
  /-- The line is read. -/
  | reading
      (stops : Outcome.StopsAt (fun rows => (addLines rules.directory file {} 1 rows).result)
        (Text.lines source.toList) place line.toList failure) :
      Processing rules source file place line failure
  /-- The source has been read, and a pass over one of its sections is at the statement of the line.
  -/
  | passing {index spot : Nat} {part : Section} {item : Item}
      (reads : (addSource rules.directory {} source file).result = .ok ())
      (inSection : Outcome.StopsAt
        (fun sections => (({ (addSource rules.directory {} source file).state with sections } :
          Assembly).assembleSections rules).result)
        (addSource rules.directory {} source file).state.sections index part failure)
      (inPass :
        Outcome.StopsAt (fun items => (({ part with items } : Section).layOut rules).result)
          part.items spot item failure ∨
        (part.layOut rules).result = .ok () ∧ Outcome.StopsAt
          (fun items => (({ (part.layOut rules).state with items } : Section).encode rules).result)
          (part.layOut rules).state.items spot item failure)
      (stands : Statement.parse line (some ⟨file, (place + 1 : Nat), 1⟩) = .ok item.statement) :
      Processing rules source file place line failure

/-- A diagnostic that stops the reading of a source is about the line being processed. -/
theorem processing_of_addSource {rules : Rules} {source file : String} {found : Diagnostic}
    (fails : (addSource rules.directory {} source file).result = .error (.diagnostic found)) :
    ∃ place line, (Text.lines source.toList)[place]? = some line.toList ∧
      Processing rules source file place line (.diagnostic found) ∧
      found.OnLine ⟨file, (place + 1 : Nat), 1⟩ line := by
  obtain ⟨place, line, _, other, stops, same, refused⟩ := addLines_eq_error fails
  cases same
  rw [Nat.add_comm] at refused
  have listed : line = (String.ofList line).toList := by rw [String.toList_ofList]
  rw [listed] at stops
  exact ⟨place, String.ofList line, stops.here, .reading stops, onLine_of_addLine refused⟩

/-- A diagnostic that stops the passes over a source is about the line being processed. -/
theorem processing_of_assembleSections {rules : Rules} {source file : String} {found : Diagnostic}
    (reads : (addSource rules.directory {} source file).result = .ok ())
    (fails : ((addSource rules.directory {} source file).state.assembleSections rules).result =
      .error (.diagnostic found)) :
    ∃ place line, (Text.lines source.toList)[place]? = some line.toList ∧
      Processing rules source file place line (.diagnostic found) ∧
      found.OnLine ⟨file, (place + 1 : Nat), 1⟩ line := by
  obtain ⟨index, part, inSection, stopped⟩ := assembleSections_eq_error fails
  have mem := List.mem_of_getElem? inSection.here
  have fresh := (addSource_fresh rules.directory source file part mem).1
  have lines := addSource_stands rules.directory source file part mem
  cases Section.passStops_of_assemble fresh stopped with
  | @layingOut spot item stops told =>
    obtain ⟨place, line, listed, stands⟩ := lines item (List.mem_of_getElem? stops.here)
    refine ⟨place, line, listed, .passing reads inSection (.inl stops) stands, ?_⟩
    exact Statement.onLine_of_located stands (.inl told.located.1) told.located.2
  | @encoding spot laid lays stops told =>
    -- The first pass has changed the item, but not its statement.
    obtain ⟨item, read, location, pool, rfl, _⟩ :=
      Section.exists_read fresh.known (List.mem_of_getElem? stops.here)
    obtain ⟨place, line, listed, stands⟩ := lines item read
    refine ⟨place, line, listed, .passing reads inSection (.inr ⟨lays, stops⟩) stands, ?_⟩
    rcases told with told | ⟨text, other, _⟩
    · exact Statement.onLine_of_located stands (.inl told.located.1) told.located.2
    · cases other

/-- A diagnostic that stops the assembly of a source while it is read or in one of the passes has the
name of the file and the number of the line being processed.  It has the text of that line, and its
message shows the line and the caret below the heading, unless the cause is a division by zero: then
the message is without them. -/
theorem diagnostic_at_line {rules : Rules} {source file : String} {found : Diagnostic}
    (fails : ((addSource rules.directory {} source file).andThen fun assembly _ =>
      assembly.assembleSections rules).result = .error (.diagnostic found)) (limit : Int) :
    (assemble rules limit source file).result = .error (.diagnostic found) ∧
      ∃ place line column, (Text.lines source.toList)[place]? = some line.toList ∧
        Processing rules source file place line (.diagnostic found) ∧
        1 ≤ column ∧ found.location = some ⟨file, (place + 1 : Nat), column⟩ ∧
        found.line = (if found.cause = .divisionByZero then none else some line) ∧
        found.message = "\n".intercalate
          (found.cause.notice.heading ⟨file, (place + 1 : Nat), column⟩ ::
            ((if found.cause = .divisionByZero then []
              else [Notice.printed line, Notice.caretLine line column]) ++
              found.cause.notice.advice)) := by
  refine ⟨Outcome.andThen_eq_error.2 (.inl fails), ?_⟩
  have about : ∃ place line, (Text.lines source.toList)[place]? = some line.toList ∧
      Processing rules source file place line (.diagnostic found) ∧
      found.OnLine ⟨file, (place + 1 : Nat), 1⟩ line := by
    rcases Outcome.andThen_eq_error.1 fails with refused | ⟨_, reads, stopped⟩
    · exact processing_of_addSource refused
    · exact processing_of_assembleSections reads stopped
  obtain ⟨place, line, listed, processed, onLine⟩ := about
  obtain ⟨column, positive, location, message⟩ := onLine.message rfl
  exact ⟨place, line, column, listed, processed, positive, location, onLine.line, message⟩

/-- A source whose third line names a symbol that is nowhere defined. -/
def astray : String := "P\tSTART\t0\n. comment\n\tLDA\tNOWHERE\n\tEND\tP\n"

/-- The diagnostic about the source. -/
def astrayFound : Diagnostic :=
  { cause := .undefinedSymbol "NOWHERE"
    location := some ⟨"a.asm", 3, 6⟩
    line := some "\tLDA\tNOWHERE" }

/-- The second pass stops at the third line of the source, and the message shows that line. -/
theorem diagnostic_at_line_astray :
    ((addSource Directory.builtin {} astray "a.asm").andThen fun assembly _ =>
        assembly.assembleSections ⟨.builtin, true⟩).result = .error (.diagnostic astrayFound) ∧
      (assemble ⟨.builtin, true⟩ 60 astray "a.asm").result = .error (.diagnostic astrayFound) ∧
      astrayFound.message =
        "a.asm:3:6: error: undefined symbol 'NOWHERE'\n" ++
        "            LDA     NOWHERE\n" ++
        "                    ^\n" ++
        "hint: 'NOWHERE' is neither defined in this section nor listed in EXTREF" ∧
      ∃ place line column, (Text.lines astray.toList)[place]? = some line.toList ∧
        Processing ⟨.builtin, true⟩ astray "a.asm" place line (.diagnostic astrayFound) ∧
        1 ≤ column ∧ astrayFound.location = some ⟨"a.asm", (place + 1 : Nat), column⟩ ∧
        astrayFound.line =
          (if astrayFound.cause = .divisionByZero then none else some line) := by
  have fails : ((addSource Directory.builtin {} astray "a.asm").andThen fun assembly _ =>
      assembly.assembleSections ⟨.builtin, true⟩).result = .error (.diagnostic astrayFound) := by
    decide +kernel
  obtain ⟨stops, place, line, column, listed, processed, positive, location, shown, _⟩ :=
    @diagnostic_at_line ⟨.builtin, true⟩ astray "a.asm" astrayFound fails 60
  exact ⟨fails, stops, by decide +kernel, place, line, column, listed, processed, positive, location,
    shown⟩

/-- A division by zero is told without the line that it is on. -/
theorem line_not_shown :
    ∃ found, (assemble ⟨.builtin, true⟩ 60 "A\tEQU\t1/0\n" "<input>").result =
        .error (.diagnostic found) ∧
      found.location = some ⟨"<input>", 1, 7⟩ ∧ found.line = none ∧
      found.message = "<input>:1:7: error: division by zero" := by
  refine ⟨{ cause := .divisionByZero, location := some ⟨"<input>", 1, 7⟩ }, ?_, rfl, rfl, ?_⟩
  · decide +kernel
  · decide +kernel

end Assembly

end TwoPass
