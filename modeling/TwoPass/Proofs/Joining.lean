import TwoPass.Proofs.Restating
import TwoPass.Proofs.Splitting

/-!
# Sources one behind the other

A section that begins a source is assembled as it would be anywhere else.  So a source behind another
one, whose last line is ended, is read into the same sections as on its own; only the places of its
statements lie further down.  The passes do not see that, and the object program of the two sources is
the object program of the first followed by that of the second.
-/

namespace TwoPass

/-- A result has a value exactly when it is one. -/
theorem toOption_eq_some {ε α : Type} {result : Except ε α} {value : α} :
    result.toOption = some value ↔ result = .ok value := by
  cases result with
  | error failure => simp [Except.toOption]
  | ok other => simp [Except.toOption]

/-- The value of an operation on a result. -/
theorem toOption_map {ε α β : Type} (first : Except ε α) (function : α → β) :
    (first.map function).toOption = first.toOption.map function := by
  cases first with
  | error failure => rfl
  | ok value => rfl

namespace Text

/-- The lines of a text that does not begin with a carriage return and a line feed. -/
theorem lines_cons {c : Char} {rest : List Char}
    (apart : ∀ others, c = '\r' → rest = '\n' :: others → False) :
    lines (c :: rest) = if isLineEnd c then [] :: lines rest else pushFront c (lines rest) := by
  rw [lines]
  exact apart

/-- The lines of a text that begins with a line feed. -/
theorem lines_newline (rest : List Char) : lines ('\n' :: rest) = [] :: lines rest := by
  rw [lines_cons fun _ wrong _ => absurd wrong (by decide)]
  exact if_pos (by decide)

/-- A text that is not empty has a line. -/
theorem lines_ne_nil {text : List Char} (filled : text ≠ []) : lines text ≠ [] := by
  fun_cases lines text with
  | case1 => exact absurd rfl filled
  | case2 rest => simp
  | case3 c rest _ ends => simp
  | case4 c rest _ plain => cases lines rest <;> simp [pushFront]

/-- The lines of a text that goes on behind a line feed. -/
theorem lines_append (front back : List Char) :
    lines (front ++ '\n' :: back) = lines (front ++ ['\n']) ++ lines back := by
  -- A carriage return joins the line feed behind it only if it stands right in front of it.
  have longer {c : Char} {rest : List Char}
      (apart : ∀ others, c = '\r' → rest = '\n' :: others → False) (filled : c = '\r' → rest ≠ [])
      (tail others : List Char) : c = '\r' → rest ++ '\n' :: tail = '\n' :: others → False := by
    intro closes same
    cases rest with
    | nil => exact filled closes rfl
    | cons first further =>
      rw [List.cons_append, List.cons.injEq] at same
      exact apart further closes (by rw [same.1])
  fun_induction lines front with
  | case1 =>
    rw [List.nil_append, List.nil_append, lines_newline, lines_newline]
    rfl
  | case2 rest ih =>
    rw [List.cons_append, List.cons_append, List.cons_append, List.cons_append, lines, lines, ih]
    rfl
  | case3 c rest apart ends ih =>
    by_cases closing : c = '\r' ∧ rest = []
    · obtain ⟨rfl, rfl⟩ := closing
      rfl
    · have filled : c = '\r' → rest ≠ [] := fun same empty => closing ⟨same, empty⟩
      rw [List.cons_append, List.cons_append, lines_cons (longer apart filled back),
        lines_cons (longer apart filled []), if_pos ends, if_pos ends, ih]
      rfl
  | case4 c rest apart plain ih =>
    have filled : c = '\r' → rest ≠ [] := by
      rintro rfl
      exact absurd (by decide) plain
    obtain ⟨line, others, split⟩ := List.exists_cons_of_ne_nil
      (lines_ne_nil (show rest ++ ['\n'] ≠ [] by simp))
    rw [List.cons_append, List.cons_append, lines_cons (longer apart filled back),
      lines_cons (longer apart filled []), if_neg plain, if_neg plain, ih, split]
    rfl

/-- The lines of a text behind another one whose last line is ended. -/
theorem lines_of_ended {first : String} (ended : first = "" ∨ ∃ text, first = text ++ "\n")
    (second : String) :
    lines (first ++ second).toList = lines first.toList ++ lines second.toList := by
  rcases ended with rfl | ⟨text, rfl⟩
  · simp [lines]
  · rw [String.toList_append, String.toList_append]
    exact List.append_assoc _ _ _ ▸ lines_append text.toList second.toList

/-- A number below one that can be written can be written. -/
theorem isWritable_of_le {value bound : Nat} (le : value ≤ bound)
    (writable : isWritable bound = true) : isWritable value = true := by
  simp only [isWritable, Int.natAbs_natCast, decide_eq_true_eq] at writable ⊢
  exact Nat.lt_of_le_of_lt le writable

end Text

/-- The place a number of lines further down. -/
def Location.movedDown (count : Nat) (location : Location) : Location :=
  { location with line := location.line + count }

namespace Statement

/-- The same statement a number of lines further down. -/
def movedDown (count : Nat) (statement : Statement) : Statement :=
  { statement with
    location := statement.location.map (Location.movedDown count)
    operatorLocation := statement.operatorLocation.map (Location.movedDown count) }

/-- Whether an instruction is accepted depends on the operator and the operands of the statement. -/
theorem resolve_eq {statement other : Statement} (operator : other.operator = statement.operator)
    (operands : other.operands = statement.operands) (found : Option Instruction) :
    (other.resolve found).mapError Diagnostic.cause =
      (statement.resolve found).mapError Diagnostic.cause := by
  unfold resolve
  rw [operator, operands]
  split
  · rfl
  · split
    · rfl
    · rfl

end Statement

namespace Assembly

/-- What a line adds to an assembly is the same everywhere, apart from its place: nothing, if it holds
no statement; an item, if its statement is valid; and otherwise it is refused. -/
theorem addLine_cases (directory : Directory) (line : String) :
    (holdsNoStatement line = true ∧ ∀ assembly place,
        addLine directory assembly line place = .ok (assembly, none)) ∨
    (∃ cause, ∀ assembly place, ∃ diagnostic,
      addLine directory assembly line place = .error diagnostic ∧ diagnostic.cause = cause) ∨
    ∃ statement operands operator instruction, ∀ assembly place,
      let item : Item :=
        { statement := .standing statement operands operator place
          instruction := some instruction }
      addLine directory assembly line place =
        .ok (assembly.push item instruction, some item) := by
  cases blank : holdsNoStatement line with
  | true => exact .inl ⟨rfl, fun _ _ => by rw [addLine, if_pos blank]⟩
  | false =>
    right
    rcases Statement.parse_cases line with
      ⟨cause, refused⟩ | ⟨statement, operands, operator, reads, _⟩
    · refine .inl ⟨cause, fun assembly place => ?_⟩
      obtain ⟨diagnostic, fails, same⟩ := refused place
      refine ⟨diagnostic, ?_, same⟩
      rw [addLine, if_neg (by simp [blank]), fails]
      rfl
    · have same (place : Option Location) :
          ((statement.standing operands operator place).resolve
              (directory.lookup statement.operator)).mapError Diagnostic.cause =
            (statement.resolve (directory.lookup statement.operator)).mapError
              Diagnostic.cause := by
        apply Statement.resolve_eq
        · rfl
        · rfl
      have named (place : Option Location) :
          (statement.standing operands operator place).operator = statement.operator := rfl
      simp only [fun assembly place => addLine_of_parse blank (reads place) directory assembly, named]
      cases valid : statement.resolve (directory.lookup statement.operator) with
      | error diagnostic =>
        refine .inl ⟨diagnostic.cause, fun assembly place => ?_⟩
        rcases mapError_cases (same place) with
          ⟨instruction, _, two⟩ | ⟨found, other, one, two, cause⟩
        · rw [valid] at two
          cases two
        · rw [valid] at two
          cases two
          exact ⟨found, by rw [one]; rfl, cause⟩
      | ok instruction =>
        refine .inr ⟨statement, operands, operator, instruction, fun assembly place => ?_⟩
        rcases mapError_cases (same place) with ⟨other, one, two⟩ | ⟨_, failure, _, two, _⟩
        · rw [valid] at two
          cases two
          rw [one]
          rfl
        · rw [valid] at two
          cases two

/-- Lines behind others are read into the assembly that those leave. -/
theorem addLines_append (directory : Directory) (file : String) (assembly : Assembly) (number : Nat)
    (front back : List (List Char)) :
    addLines directory file assembly number (front ++ back) =
      (addLines directory file assembly number front).andThen fun reached _ =>
        addLines directory file reached (number + front.length) back := by
  induction front generalizing assembly number with
  | nil => simp [addLines]
  | cons line rest ih =>
    have behind : number + (line :: rest).length = number + 1 + rest.length := by
      rw [List.length_cons]
      omega
    rw [List.cons_append, addLines, addLines, behind]
    split
    · rfl
    · rw [ih]

/-- Whether the first statement on some lines is valid and opens a section; lines without statements
qualify as well. -/
def begins (directory : Directory) : List (List Char) → Bool
  | [] => true
  | line :: rest => match addLine directory {} (String.ofList line) none with
    | .ok (_, some item) => item.instruction.any Instruction.opensSection
    | .ok (_, none) => begins directory rest
    | .error _ => false

/-- Two assemblies one behind the other, the second a number of lines further down. -/
def join (front : Assembly) (count : Nat) (back : Assembly) : Assembly where
  sections := front.sections ++ back.sections.map (Section.restate (Statement.movedDown count))
  openings := front.openings + back.openings

/-- An assembly with an item has a section. -/
theorem push_sections_ne_nil (assembly : Assembly) (item : Item) (instruction : Instruction) :
    (assembly.push item instruction).sections ≠ [] := by
  have added (sections : List Section) : pushLast item sections ≠ [] := by
    rcases List.eq_nil_or_concat' sections with rfl | ⟨front, last, rfl⟩
    · simp [pushLast]
    · simp [pushLast_concat]
  rw [push]
  split
  · exact added _
  · exact added _

/-- Behind lines that were read a section has to be opened anew. -/
theorem needsSection_addLines (directory : Directory) (file : String) {assembly : Assembly}
    (closed : needsSection assembly.sections = true) (number : Nat) (rows : List (List Char)) :
    needsSection (addLines directory file assembly number rows).state.sections = true := by
  induction rows generalizing assembly number with
  | nil => exact closed
  | cons line rest ih =>
    rw [addLines]
    split
    · exact closed
    · rename_i later added accepted
      apply ih
      rcases addLine_eq_ok accepted with ⟨_, rfl, _⟩ | ⟨statement, instruction, _, _, _, rfl, _⟩
      · exact closed
      · rw [push]
        split
        · exact needsSection_pushLast _ _
        · exact needsSection_pushLast _ _

section Join

variable (front : List Section) (restated : Statement → Statement) {back : List Section}

/-- An item that is added behind other sections joins the same section. -/
theorem pushLast_join (filled : back ≠ []) (item : Item) :
    pushLast (item.restate restated) (front ++ back.map (Section.restate restated)) =
      front ++ (pushLast item back).map (Section.restate restated) := by
  obtain ⟨before, last, rfl⟩ := (List.eq_nil_or_concat' back).resolve_left filled
  have pushed : (last.restate restated).push (item.restate restated) =
      (last.push item).restate restated := by
    simp [Section.push, Section.restate]
  rw [List.map_append, List.map_singleton, ← List.append_assoc, pushLast_concat, pushed,
    pushLast_concat, List.map_append, List.map_singleton, List.append_assoc]

/-- Behind other sections a section is opened anew exactly if it is on its own. -/
theorem needsSection_join (closed : needsSection front = true) :
    needsSection (front ++ back.map (Section.restate restated)) = needsSection back := by
  rcases List.eq_nil_or_concat' back with rfl | ⟨before, last, rfl⟩
  · rw [List.map_nil, List.append_nil, closed]
    rfl
  · rw [List.map_append, List.map_singleton, ← List.append_assoc, needsSection_concat,
      needsSection_concat, Section.restate, List.isEmpty_map]

end Join

/-- An item that opens a section, or that is behind one, is added behind another assembly as it would
be on its own. -/
theorem push_join {front back : Assembly} (closed : needsSection front.sections = true)
    {instruction : Instruction} (own : back.sections ≠ [] ∨ instruction.opensSection = true)
    (count : Nat) (item : Item) :
    (front.join count back).push (item.restate (Statement.movedDown count)) instruction =
      front.join count (back.push item instruction) := by
  unfold push
  cases opens : instruction.opensSection with
  | false =>
    have filled : back.sections ≠ [] := by simpa [opens] using own
    simp only [Bool.false_eq_true, if_false, join, pushLast_join front.sections _ filled]
  | true =>
    have new : Section.restate (Statement.movedDown count) {} = {} := rfl
    simp only [if_true, join, needsSection_join front.sections _ closed]
    cases needs : needsSection back.sections with
    | true =>
      have added := pushLast_join front.sections (Statement.movedDown count)
        (show back.sections ++ [{}] ≠ [] by simp) item
      rw [List.map_append, List.map_singleton, new, ← List.append_assoc] at added
      simp only [if_true, added, Nat.add_assoc]
    | false =>
      have filled : back.sections ≠ [] := by
        intro empty
        rw [empty] at needs
        cases needs
      simp only [Bool.false_eq_true, if_false, pushLast_join front.sections _ filled,
        Nat.add_assoc]

/-- Lines that begin a section are read behind another assembly as they would be on their own. -/
theorem addLines_join (directory : Directory) (file : String) {front back : Assembly}
    (closed : needsSection front.sections = true) (count number : Nat) {rows : List (List Char)}
    (own : back.sections ≠ [] ∨ begins directory rows = true) :
    (addLines directory file back number rows).Mirrors (front.join count)
      (addLines directory file (front.join count back) (number + count) rows) := by
  induction rows generalizing back number with
  | nil => exact ⟨rfl, rfl⟩
  | cons line rest ih =>
    have further : number + count + 1 = number + 1 + count := by omega
    rw [addLines, addLines, further]
    rcases addLine_cases directory (String.ofList line) with ⟨_, skips⟩ | ⟨cause, refuses⟩ |
      ⟨statement, operands, operator, instruction, adds⟩
    · rw [skips, skips]
      refine ih _ (own.imp_right fun begun => ?_)
      rwa [begins, skips] at begun
    · obtain ⟨diagnostic, one, rfl⟩ := refuses back (some ⟨file, number, 1⟩)
      obtain ⟨other, two, same⟩ := refuses (front.join count back)
        (some ⟨file, (number + count : Nat), 1⟩)
      rw [one, two]
      exact ⟨rfl, congrArg (fun cause => Except.error (Failure.ofCause cause)) same⟩
    · have moved : statement.standing operands operator (some ⟨file, (number + count : Nat), 1⟩) =
          (statement.standing operands operator (some ⟨file, number, 1⟩)).movedDown count := by
        simp [Statement.movedDown, Statement.standing, Location.shifted, Location.movedDown]
      have opens : back.sections ≠ [] ∨ instruction.opensSection = true := by
        refine own.imp_right fun begun => ?_
        rw [begins, adds] at begun
        exact begun
      have pushed := push_join closed opens count
        { statement := statement.standing operands operator (some ⟨file, number, 1⟩)
          instruction := some instruction }
      rw [Item.restate, ← moved] at pushed
      rw [adds, adds]
      simp only [pushed]
      exact ih _ (.inl (push_sections_ne_nil _ _ _))

/-- The statements of a source say the same further down, as long as the line numbers there can be
written. -/
theorem addSource_restates (directory : Directory) (source file : String) {count : Nat}
    (few : Text.isWritable (count + (Text.lines source.toList).length : Nat) = true) :
    ∀ part ∈ (addSource directory {} source file).state.sections,
      part.Restates (Statement.movedDown count) := by
  have holds : (addSource directory {} source file).state.Holds fun item =>
      item.instruction.isSome = true ∧
        item.statement.Alike (item.statement.movedDown count) := by
    apply Holds.addLines
    · intro index line listed statement instruction read _
      refine ⟨rfl, rfl, rfl, rfl, ?_⟩
      have behind := (List.getElem?_eq_some_iff.1 listed).1
      obtain ⟨⟨offset, _, located⟩, _⟩ := Statement.parse_eq_ok read
      have here : Text.isWritable (1 + index : Nat) = true := Text.isWritable_of_le (by omega) few
      have below : Text.isWritable ((1 + index : Nat) + count) = true :=
        Text.isWritable_of_le (show 1 + index + count ≤ _ by omega) few
      rw [Nat.cast_add, Nat.cast_one] at here below
      simp [Statement.movedDown, located, Location.movedDown, Location.shifted, Location.isWritable,
        here, below]
    · intro part mem
      cases mem
  exact fun part mem item inside => (holds part mem).2 item inside

/-- The object programs of two rows of sections, one behind the other. -/
theorem objectPrograms_append (limit : Int) (front back : List Section) :
    (objectPrograms limit (front ++ back)).toOption =
      (objectPrograms limit front).toOption.bind fun first =>
        (objectPrograms limit back).toOption.map fun second => first ++ second := by
  induction front with
  | nil =>
    rw [List.nil_append]
    cases objectPrograms limit back with
    | error failure => rfl
    | ok program => simp [objectPrograms, Except.toOption]
  | cons part rest ih =>
    rw [List.cons_append, objectPrograms, objectPrograms]
    cases part.objectProgram limit with
    | error failure => rfl
    | ok program =>
      simp only [toOption_map, ih]
      cases (objectPrograms limit rest).toOption <;> cases (objectPrograms limit back).toOption <;>
        simp [String.append_assoc]

/-- The object program of two assemblies, one behind the other. -/
theorem objectPrograms_join {limit : Int} {front back : Assembly} {count : Nat} {program : String} :
    objectPrograms limit (front.join count back).sections = .ok program ↔
      ∃ one two, objectPrograms limit front.sections = .ok one ∧
        objectPrograms limit back.sections = .ok two ∧ program = one ++ two := by
  have same : (objectPrograms limit (back.sections.map
      (Section.restate (Statement.movedDown count)))).toOption =
        (objectPrograms limit back.sections).toOption :=
    (objectPrograms_restate (Statement.movedDown count) limit back.sections).elim
      (congrArg Except.toOption) fun lacks => lacks.toOption_eq
  rw [← toOption_eq_some, join, objectPrograms_append, same]
  simp only [Option.bind_eq_some_iff, Option.map_eq_some_iff, toOption_eq_some]
  constructor
  · rintro ⟨one, writes, two, follows, same⟩
    exact ⟨one, two, writes, follows, same.symm⟩
  · rintro ⟨one, two, writes, follows, same⟩
    exact ⟨one, writes, two, follows, same.symm⟩

/-- A source whose last line is ended, and one that begins with a section, are read one behind the
other as each is on its own. -/
theorem addSource_append (directory : Directory) (file : String) {first second : String}
    (lines : Text.lines (first ++ second).toList =
      Text.lines first.toList ++ Text.lines second.toList)
    (own : begins directory (Text.lines second.toList) = true) :
    ((addSource directory {} (first ++ second) file).result = .ok () ↔
        (addSource directory {} first file).result = .ok () ∧
          (addSource directory {} second file).result = .ok ()) ∧
      ((addSource directory {} first file).result = .ok () →
        (addSource directory {} (first ++ second) file).state =
          (addSource directory {} first file).state.join (Text.lines first.toList).length
            (addSource directory {} second file).state) := by
  have whole : addSource directory {} (first ++ second) file =
      (addSource directory {} first file).andThen fun reached _ =>
        addLines directory file reached (1 + (Text.lines first.toList).length)
          (Text.lines second.toList) := by
    rw [addSource, lines, addLines_append, addSource]
  have closed : needsSection (addSource directory {} first file).state.sections = true :=
    needsSection_addLines directory file rfl 1 _
  have alone : (addSource directory {} first file).state.join (Text.lines first.toList).length {} =
      (addSource directory {} first file).state := by
    simp [join]
  have mirrors := addLines_join directory file closed (Text.lines first.toList).length 1
    (.inr own : ({} : Assembly).sections ≠ [] ∨ _)
  rw [alone] at mirrors
  rw [whole]
  constructor
  · rw [Outcome.andThen_eq_ok]
    constructor
    · rintro ⟨_, reads, follows⟩
      exact ⟨reads, mirrors.eq_ok_iff.1 follows⟩
    · rintro ⟨reads, follows⟩
      exact ⟨(), reads, mirrors.eq_ok_iff.2 follows⟩
  · intro reads
    rw [Outcome.state_andThen_of_ok reads]
    exact mirrors.state

section Passed

variable {rules : Rules} {count : Nat} {front back : Assembly}
  (restates : ∀ part ∈ back.sections, part.Restates (Statement.movedDown count))

include restates

/-- The passes succeed over two assemblies, one behind the other, exactly when they do over both. -/
theorem passes_join :
    (∀ part ∈ (front.join count back).sections, (part.assemble rules).result = .ok ()) ↔
      (∀ part ∈ front.sections, (part.assemble rules).result = .ok ()) ∧
        ∀ part ∈ back.sections, (part.assemble rules).result = .ok () := by
  rw [join, List.forall_mem_append, List.forall_mem_map]
  refine and_congr_right fun _ => ?_
  constructor
  · intro each part mem
    exact (Section.assemble_restate (restates part mem) rules).eq_ok_iff.1 (each part mem)
  · intro each part mem
    exact (Section.assemble_restate (restates part mem) rules).eq_ok_iff.2 (each part mem)

/-- The passes over two assemblies, one behind the other, leave what they leave of both. -/
theorem passed_join :
    (front.join count back).passed rules = (front.passed rules).join count (back.passed rules) := by
  unfold passed join
  rw [List.map_append, List.map_map, List.map_map]
  congr 2
  apply List.map_congr_left
  intro part mem
  exact (Section.assemble_restate (restates part mem) rules).state

end Passed

/-- Two sources, the first of which ends its last line and the second of which begins with a section,
are assembled one behind the other exactly when each is assembled on its own.  The object program is
then that of the first followed by that of the second.  The sections are those of the first and those
of the second, further down by the lines of the first, and the openings add up.  A warning names its
line, so the number of the last line has to be one that can be written, which is to say that it has at
most 4300 digits. -/
theorem assemble_append (rules : Rules) (limit : Int) {first second : String} (file : String)
    (ended : first = "" ∨ ∃ text, first = text ++ "\n")
    (own : begins rules.directory (Text.lines second.toList) = true)
    (few : Text.isWritable (Text.lines (first ++ second).toList).length = true) :
    let count := (Text.lines first.toList).length
    let front := assemble rules limit first file
    let back := assemble rules limit second file
    let whole := assemble rules limit (first ++ second) file
    (∀ program, whole.result = .ok program ↔
        ∃ one two, front.result = .ok one ∧ back.result = .ok two ∧ program = one ++ two) ∧
      ∀ program, whole.result = .ok program →
        whole.state.sections = front.state.sections ++
            back.state.sections.map (Section.restate (Statement.movedDown count)) ∧
          whole.state.openings = front.state.openings + back.state.openings := by
  dsimp only
  have lines := Text.lines_of_ended ended second
  have restates : ∀ part ∈ (addSource rules.directory {} second file).state.sections,
      part.Restates (Statement.movedDown (Text.lines first.toList).length) := by
    rw [lines, List.length_append] at few
    exact addSource_restates rules.directory second file few
  obtain ⟨reads, joined⟩ := addSource_append rules.directory file lines own
  have both : ∀ program, (assemble rules limit (first ++ second) file).result = .ok program ↔
      ∃ one two, (assemble rules limit first file).result = .ok one ∧
        (assemble rules limit second file).result = .ok two ∧ program = one ++ two := by
    intro program
    rw [assemble_eq_ok_iff, reads]
    constructor
    · rintro ⟨⟨before, behind⟩, passes, written⟩
      rw [joined before, passes_join restates] at passes
      rw [joined before, passed_join restates, objectPrograms_join] at written
      obtain ⟨one, two, writes, follows, same⟩ := written
      exact ⟨one, two, assemble_eq_ok_iff.2 ⟨before, passes.1, writes⟩,
        assemble_eq_ok_iff.2 ⟨behind, passes.2, follows⟩, same⟩
    · rintro ⟨one, two, succeeds, follows, same⟩
      obtain ⟨before, passes, writes⟩ := assemble_eq_ok_iff.1 succeeds
      obtain ⟨behind, others, further⟩ := assemble_eq_ok_iff.1 follows
      rw [joined before, passes_join restates, passed_join restates, objectPrograms_join]
      exact ⟨⟨before, behind⟩, ⟨passes, others⟩, one, two, writes, further, same⟩
  refine ⟨both, fun program succeeds => ?_⟩
  obtain ⟨one, two, before, behind, _⟩ := (both program).1 succeeds
  rw [state_assemble succeeds, state_assemble before, state_assemble behind,
    joined (assemble_eq_ok_iff.1 before).1, passed_join restates]
  exact ⟨rfl, rfl⟩

/-- A main section that calls another one. -/
def caller : String :=
  "COPY\tSTART\t4096\n\tEXTREF\tREAD\n\t+JSUB\tREAD\n. back\n\tRSUB" ++ "\n"

/-- A comment, a blank line, and the section that is called. -/
def callee : String := ". reads nothing\n\nREAD\tCSECT\n\tCLEAR\tX\n\tRSUB\n\tEND\n"

/-- The two sections are assembled one behind the other. -/
theorem assemble_append_caller :
    let rules : Rules := ⟨.builtin, true⟩
    let whole := assemble rules 60 (caller ++ callee) "copy.asm"
    (∃ text, caller = text ++ "\n") ∧ begins .builtin (Text.lines callee.toList) = true ∧
      whole.result = .ok
        ("HCOPY  001000000007\nRREAD  \nT000000074B1000004F0000\nM00000105+READ\nE001000\n\n" ++
          "HREAD  000000000005\nT00000005B4104F0000\nE\n\n") ∧
      whole.state.openings = (assemble rules 60 caller "copy.asm").state.openings +
        (assemble rules 60 callee "copy.asm").state.openings := by
  have ended : ∃ text, caller = text ++ "\n" := ⟨_, rfl⟩
  have own : begins .builtin (Text.lines callee.toList) = true := by decide +kernel
  have few : Text.isWritable (Text.lines (caller ++ callee).toList).length = true := by
    decide +kernel
  obtain ⟨programs, parts⟩ := assemble_append ⟨.builtin, true⟩ 60 "copy.asm" (.inr ended) own few
  have first : (assemble ⟨.builtin, true⟩ 60 caller "copy.asm").result =
      .ok "HCOPY  001000000007\nRREAD  \nT000000074B1000004F0000\nM00000105+READ\nE001000\n\n" := by
    decide +kernel
  have second : (assemble ⟨.builtin, true⟩ 60 callee "copy.asm").result =
      .ok "HREAD  000000000005\nT00000005B4104F0000\nE\n\n" := by
    decide +kernel
  have succeeds := (programs _).2 ⟨_, _, first, second, rfl⟩
  exact ⟨ended, own, succeeds, (parts _ succeeds).2⟩

end Assembly

end TwoPass
