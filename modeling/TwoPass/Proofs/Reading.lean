import Mathlib.Data.List.DropRight
import TwoPass.Assembly
import TwoPass.Proofs.LayoutStep

/-!
# Reading a source

Every statement that is read stands on one line, and its operands have no blanks around them.  The
sections that are read are fresh: their items were found valid, and their tables are empty.
-/

namespace TwoPass

namespace Text

/-- What holds of a character and of the characters of some lines holds of the lines with that
character in front. -/
theorem forall_mem_pushFront {good : Char → Prop} {c : Char} {rows : List (List Char)}
    (own : good c) (each : ∀ line ∈ rows, ∀ d ∈ line, good d) :
    ∀ line ∈ pushFront c rows, ∀ d ∈ line, good d := by
  cases rows with
  | nil => simpa [pushFront] using own
  | cons first others =>
    rw [pushFront, List.forall_mem_cons]
    exact ⟨List.forall_mem_cons.2 ⟨own, each first List.mem_cons_self⟩,
      fun line mem => each line (List.mem_cons_of_mem first mem)⟩

/-- A line holds no end of a line. -/
theorem isLineEnd_of_mem_lines (text : List Char) :
    ∀ line ∈ lines text, ∀ c ∈ line, isLineEnd c = false := by
  fun_induction lines text with
  | case1 => simp
  | case2 rest ih => exact List.forall_mem_cons.2 ⟨by simp, ih⟩
  | case3 c rest _ ends ih => exact List.forall_mem_cons.2 ⟨by simp, ih⟩
  | case4 c rest _ plain ih => exact forall_mem_pushFront (by simpa using plain) ih

/-- Trimming adds no character. -/
theorem mem_of_mem_trim {text : List Char} {c : Char} (mem : c ∈ trim text) : c ∈ text := by
  rw [trim, trimRight, List.mem_reverse] at mem
  have front := List.mem_reverse.1 ((List.dropWhile_suffix isBlank).subset mem)
  exact (List.dropWhile_suffix isBlank).subset front

/-- A trimmed text does not end with a space. -/
theorem rdropWhile_trim (text : List Char) :
    (trim text).rdropWhile (· = ' ') = trim text := by
  have same : trim text = (trimLeft text).rdropWhile isBlank := rfl
  rw [List.rdropWhile_eq_self_iff]
  intro filled space
  rw [decide_eq_true_eq] at space
  simp only [same] at filled space
  have last := List.rdropWhile_last_not isBlank (trimLeft text) filled
  rw [space] at last
  exact last (by decide)

/-- A text that has something behind its blanks is longer than its indentation. -/
theorem indentation_lt_length {text : List Char} (filled : trim text ≠ []) :
    indentation text < text.length := by
  have left : trimLeft text ≠ [] := by
    intro none
    exact filled (by rw [trim, none]; rfl)
  have parts := indentation_add_length_trimLeft text
  have some_left := List.length_pos_iff.2 left
  omega

end Text

/-- The fields of a text have all characters of the text, but for one between two fields. -/
theorem length_fields (limit : Nat) (text : List Char) :
    (fields limit text).flatten.length + (fields limit text).length = text.length + 1 := by
  induction text generalizing limit with
  | nil => rfl
  | cons first rest ih =>
    cases limit with
    | zero => simp [fields]
    | succ remaining =>
      rw [fields]
      split
      · have later := ih remaining
        rw [List.flatten_cons, List.nil_append, List.length_cons, List.length_cons]
        omega
      · have later := ih (remaining + 1)
        cases shape : fields (remaining + 1) rest with
        | nil =>
          rw [shape] at later
          cases later
        | cons piece others =>
          simp only [shape, List.flatten_cons, List.length_append, List.length_cons] at later
          simp only [Text.pushFront, List.flatten_cons, List.length_append, List.length_cons]
          omega

/-- Where the second and the third field of a text end. -/
theorem fields_bound {text first second : List Char} {further : List (List Char)}
    (split : fields 3 text = first :: second :: further) :
    first.length + 1 + second.length ≤ text.length ∧
      (further.headD [] ≠ [] →
        first.length + 1 + second.length + 1 + (further.headD []).length ≤ text.length) := by
  have length := length_fields 3 text
  simp only [split, List.flatten_cons, List.length_append, List.length_cons] at length
  constructor
  · omega
  · intro filled
    cases further with
    | nil => exact absurd rfl filled
    | cons third others =>
      simp only [List.flatten_cons, List.length_append, List.length_cons] at length
      rw [List.headD_cons]
      omega

/-- The fields of a text hold its characters. -/
theorem mem_of_mem_fields (limit : Nat) (text : List Char) :
    ∀ piece ∈ fields limit text, ∀ c ∈ piece, c ∈ text := by
  induction text generalizing limit with
  | nil => simp [fields]
  | cons first rest ih =>
    cases limit with
    | zero => simp [fields]
    | succ remaining =>
      have later (limit : Nat) : ∀ piece ∈ fields limit rest, ∀ c ∈ piece, c ∈ first :: rest :=
        fun piece found c mem => List.mem_cons_of_mem first (ih limit piece found c mem)
      rw [fields]
      split
      · exact List.forall_mem_cons.2 ⟨by simp, later remaining⟩
      · exact Text.forall_mem_pushFront List.mem_cons_self (later (remaining + 1))

/-- The pieces between commas hold the characters of a text. -/
theorem mem_of_mem_cutAtCommas (quoted : Bool) (text : List Char) :
    ∀ piece ∈ cutAtCommas quoted text, ∀ c ∈ piece, c ∈ text := by
  induction text generalizing quoted with
  | nil => simp [cutAtCommas]
  | cons first rest ih =>
    have later (quoted : Bool) :
        ∀ piece ∈ cutAtCommas quoted rest, ∀ c ∈ piece, c ∈ first :: rest :=
      fun piece found c mem => List.mem_cons_of_mem first (ih quoted piece found c mem)
    rw [cutAtCommas]
    split
    · exact List.forall_mem_cons.2 ⟨by simp, later false⟩
    · exact Text.forall_mem_pushFront List.mem_cons_self (later _)

namespace Statement

/-- A statement that stands on one line, with no blanks around its operands. -/
structure Plain (statement : Statement) : Prop where
  /-- The label stands on one line. -/
  label : ∀ name, statement.label = some name → ∀ c ∈ name.toList, Text.isLineEnd c = false
  /-- Every operand stands on one line. -/
  operands : ∀ operand ∈ statement.operands, ∀ c ∈ operand.toList, Text.isLineEnd c = false
  /-- No operand ends with a space. -/
  trimmed : ∀ operand ∈ statement.operands,
    operand.toList.rdropWhile (· = ' ') = operand.toList

/-- The operands of a field hold its characters, and no blanks are around them. -/
theorem forall_mem_operandsIn {text : String} {good : Char → Prop}
    (each : ∀ c ∈ text.toList, good c) :
    ∀ operand ∈ operandsIn text, (∀ c ∈ operand.toList, good c) ∧
      operand.toList.rdropWhile (· = ' ') = operand.toList := by
  intro operand mem
  obtain ⟨piece, found, rfl⟩ := List.mem_map.1 mem
  rw [String.toList_ofList]
  refine ⟨fun c inside => each c ?_, Text.rdropWhile_trim piece⟩
  exact mem_of_mem_cutAtCommas false _ piece found c (Text.mem_of_mem_trim inside)

/-- A line without line ends keeps its characters. -/
theorem mem_of_mem_withoutLineEnd {line : List Char} {c : Char} (mem : c ∈ withoutLineEnd line) :
    c ∈ line := by
  rw [withoutLineEnd, List.mem_reverse] at mem
  exact List.mem_reverse.1 ((List.dropWhile_suffix _).subset mem)

/-- A line without line ends is at most as long. -/
theorem length_withoutLineEnd_le (line : String) :
    (withoutLineEnd line.toList).length ≤ line.length := by
  rw [withoutLineEnd, List.length_reverse, ← String.length_toList]
  exact Nat.le_trans (List.dropWhile_suffix _).length_le (Nat.le_of_eq List.length_reverse)

/-- The same statement on a line that begins at a given place, with its operands and its operator so
many characters behind that. -/
def standing (statement : Statement) (operands operator : Nat) (place : Option Location) :
    Statement :=
  { statement with
    location := place.map fun begin => begin.shifted operands
    operatorLocation := place.map fun begin => begin.shifted operator }

/-- Whether a line can be read, and as what, does not depend on where it stands.  Its statement stands
on the line, and the label and the operands are those of the fields. -/
theorem parse_cases (line : String) :
    (∃ cause, ∀ place, ∃ diagnostic, parse line place = .error diagnostic ∧
        diagnostic.cause = cause) ∨
      ∃ statement operands operator,
        (∀ place, parse line place = .ok (standing statement operands operator place)) ∧
        operands < line.length ∧
        ∃ labelField operatorField further,
          fields 3 (withoutLineEnd line.toList) = labelField :: operatorField :: further ∧
          statement.label = (if (Text.trim labelField).isEmpty then none
            else some (String.ofList (Text.trim labelField))) ∧
          statement.operands = (if (Text.trim (further.headD [])).isEmpty then []
            else operandsIn (String.ofList (Text.trim (further.headD [])))) := by
  have short := length_withoutLineEnd_le line
  unfold parse
  split
  · rename_i labelField operatorField further split
    have ends := fields_bound split
    cases missing : (Text.upper (Text.trim operatorField)).isEmpty with
    | true =>
      simp only [missing, if_true]
      exact .inl ⟨_, fun place => ⟨_, rfl, rfl⟩⟩
    | false =>
      simp only [missing, Bool.false_eq_true, if_false]
      generalize listed : (if (Text.trim (further.headD [])).isEmpty = true then ([] : List String)
        else operandsIn (String.ofList (Text.trim (further.headD [])))) = operands
      by_cases many : operandLimit < operands.length
      · simp only [if_pos many]
        exact .inl ⟨_, fun place => ⟨_, rfl, rfl⟩⟩
      · simp only [if_neg many]
        right
        cases empty : (Text.trim (further.headD [])).isEmpty with
        | true =>
          have named : Text.trim operatorField ≠ [] := by
            intro none
            rw [none] at missing
            cases missing
          have inside := Text.indentation_lt_length named
          exact ⟨⟨_, _, operands, _, none, none, _⟩, _, _, fun place => rfl, by omega,
            labelField, operatorField, further, split, rfl, listed.symm⟩
        | false =>
          have filled : Text.trim (further.headD []) ≠ [] := by
            simpa using empty
          have inside := Text.indentation_lt_length filled
          have held := ends.2 (List.ne_nil_of_length_pos (by omega))
          exact ⟨⟨_, _, operands, _, none, none, _⟩, _, _, fun place => rfl, by omega,
            labelField, operatorField, further, split, rfl, listed.symm⟩
  · exact .inl ⟨_, fun place => ⟨_, rfl, rfl⟩⟩

/-- A statement stands on its line, and its label and its operands are those of the fields of the
line. -/
theorem parse_eq_ok {line : String} {place : Option Location} {statement : Statement}
    (read : parse line place = .ok statement) :
    (∃ count < line.length, statement.location = place.map fun begin => begin.shifted count) ∧
      ∃ labelField operatorField further,
        fields 3 (withoutLineEnd line.toList) = labelField :: operatorField :: further ∧
        statement.label = (if (Text.trim labelField).isEmpty then none
          else some (String.ofList (Text.trim labelField))) ∧
        statement.operands = (if (Text.trim (further.headD [])).isEmpty then []
          else operandsIn (String.ofList (Text.trim (further.headD [])))) := by
  rcases parse_cases line with ⟨_, refused⟩ | ⟨found, operands, operator, reads, inside, shape⟩
  · obtain ⟨diagnostic, fails, _⟩ := refused place
    rw [read] at fails
    cases fails
  · rw [reads place] at read
    cases read
    exact ⟨⟨operands, inside, rfl⟩, shape⟩

/-- A statement that was read from a line stands on it. -/
theorem plain_of_parse {line : String} {location : Option Location} {statement : Statement}
    (oneLine : ∀ c ∈ line.toList, Text.isLineEnd c = false)
    (read : parse line location = .ok statement) : statement.Plain := by
  obtain ⟨_, labelField, operatorField, further, split, label, operands⟩ := parse_eq_ok read
  have inField : ∀ piece ∈ labelField :: operatorField :: further, ∀ c ∈ piece,
      Text.isLineEnd c = false := by
    rw [← split]
    intro piece found c mem
    exact oneLine c (mem_of_mem_withoutLineEnd (mem_of_mem_fields 3 _ piece found c mem))
  have inOperands : ∀ operand ∈ statement.operands, (∀ c ∈ operand.toList,
      Text.isLineEnd c = false) ∧ operand.toList.rdropWhile (· = ' ') = operand.toList := by
    rw [operands]
    split
    · simp
    · apply forall_mem_operandsIn
      intro c mem
      rw [String.toList_ofList] at mem
      cases further with
      | nil => cases mem
      | cons first rest => exact inField first (by simp) c (Text.mem_of_mem_trim mem)
  refine ⟨?_, fun operand mem => (inOperands operand mem).1,
    fun operand mem => (inOperands operand mem).2⟩
  intro name found c mem
  rw [label] at found
  split at found
  · cases found
  · cases found
    rw [String.toList_ofList] at mem
    exact inField labelField (by simp) c (Text.mem_of_mem_trim mem)

end Statement

namespace Assembly

variable {directory : Directory} {assembly : Assembly}

/-- A line that is accepted holds no statement, or its statement is valid and is added. -/
theorem addLine_eq_ok {line : String} {location : Option Location} {later : Assembly}
    {added : Option Item} (accepted : assembly.addLine directory line location = .ok (later, added)) :
    (holdsNoStatement line = true ∧ later = assembly ∧ added = none) ∨
    ∃ statement instruction, holdsNoStatement line = false ∧
      Statement.parse line location = .ok statement ∧
      statement.resolve (directory.lookup statement.operator) = .ok instruction ∧
      later = assembly.push { statement, instruction := some instruction } instruction ∧
      added = some { statement, instruction := some instruction } := by
  rw [addLine] at accepted
  split at accepted
  · rename_i blank
    cases accepted
    exact .inl ⟨blank, rfl, rfl⟩
  · rename_i filled
    obtain ⟨statement, read, accepted⟩ := bind_eq_ok.1 accepted
    obtain ⟨instruction, valid, accepted⟩ := bind_eq_ok.1 accepted
    cases accepted
    exact .inr ⟨statement, instruction, by simpa using filled, read, valid, rfl, rfl⟩

/-- A line that can be read is accepted exactly if its statement is. -/
theorem addLine_of_parse {line : String} {location : Option Location} {statement : Statement}
    (filled : holdsNoStatement line = false) (read : Statement.parse line location = .ok statement)
    (directory : Directory) (assembly : Assembly) :
    assembly.addLine directory line location =
      (statement.resolve (directory.lookup statement.operator)).map fun instruction =>
        let item : Item := { statement, instruction := some instruction }
        (assembly.push item instruction, some item) := by
  rw [addLine, if_neg (by simp [filled]), read]
  rfl

/-- Every section has empty tables, and something holds of all items. -/
def Holds (good : Item → Prop) (assembly : Assembly) : Prop :=
  ∀ part ∈ assembly.sections, part.toTables = {} ∧ ∀ item ∈ part.items, good item

/-- An item that is added to the last section joins a section that was there, or a new one. -/
theorem mem_pushLast {item : Item} {sections : List Section} {part : Section}
    (mem : part ∈ pushLast item sections) :
    part ∈ sections ∨ part = ({} : Section).push item ∨ ∃ old ∈ sections, part = old.push item := by
  induction sections with
  | nil => exact .inr (.inl (List.mem_singleton.1 mem))
  | cons first rest ih =>
    cases rest with
    | nil => exact .inr (.inr ⟨first, List.mem_singleton_self _, List.mem_singleton.1 mem⟩)
    | cons second others =>
      rw [pushLast] at mem
      · rcases List.mem_cons.1 mem with rfl | later
        · exact .inl List.mem_cons_self
        · rcases ih later with old | new | ⟨old, inside, same⟩
          · exact .inl (List.mem_cons_of_mem first old)
          · exact .inr (.inl new)
          · exact .inr (.inr ⟨old, List.mem_cons_of_mem first inside, same⟩)
      · simp

/-- Adding an item keeps what holds of all items. -/
theorem Holds.push {good : Item → Prop} (holds : assembly.Holds good) {item : Item} (own : good item)
    (instruction : Instruction) : (assembly.push item instruction).Holds good := by
  have added (sections : List Section)
      (old : ∀ part ∈ sections, part.toTables = {} ∧ ∀ item ∈ part.items, good item) :
      ∀ part ∈ pushLast item sections, part.toTables = {} ∧ ∀ item ∈ part.items, good item := by
    intro part mem
    rcases mem_pushLast mem with inside | rfl | ⟨before, inside, rfl⟩
    · exact old part inside
    · simpa [Section.push] using own
    · obtain ⟨tables, items⟩ := old before inside
      refine ⟨tables, fun other listed => ?_⟩
      rcases List.mem_append.1 listed with former | single
      · exact items other former
      · exact List.mem_singleton.1 single ▸ own
  rw [Assembly.push]
  split
  · apply added
    split
    · intro part mem
      rcases List.mem_append.1 mem with old | new
      · exact holds part old
      · rw [List.mem_singleton.1 new]
        simp
    · exact holds
  · exact added _ holds

/-- What holds of every valid statement on some lines holds of all items, once the lines are read. -/
theorem Holds.addLines {good : Item → Prop} {file : String} {rows : List (List Char)}
    {number : Nat}
    (each : ∀ (index : Nat) (line : List Char), rows[index]? = some line →
      ∀ statement instruction,
      Statement.parse (String.ofList line) (some ⟨file, (number + index : Nat), 1⟩) = .ok statement →
      statement.resolve (directory.lookup statement.operator) = .ok instruction →
      good { statement, instruction := some instruction })
    (holds : assembly.Holds good) :
    (addLines directory file assembly number rows).state.Holds good := by
  induction rows generalizing assembly number with
  | nil => exact holds
  | cons line rest ih =>
    rw [Assembly.addLines]
    split
    · exact holds
    · rename_i later added accepted
      refine ih (fun index other listed => ?_) ?_
      · have further := each (index + 1) other (by simpa using listed)
        rwa [Nat.add_comm index 1, ← Nat.add_assoc] at further
      · rcases addLine_eq_ok accepted with ⟨_, rfl, _⟩ |
          ⟨statement, instruction, _, read, valid, rfl, _⟩
        · exact holds
        · exact holds.push (each 0 line rfl _ _ read valid) instruction

/-- The sections of a source are fresh, and their statements stand on one line each. -/
theorem addSource_fresh (directory : Directory) (source file : String) :
    ∀ part ∈ (addSource directory {} source file).state.sections,
      part.Fresh directory ∧ ∀ item ∈ part.items, item.statement.Plain := by
  have holds : (addSource directory {} source file).state.Holds fun item =>
      item.Fresh directory ∧ item.statement.Plain := by
    apply Holds.addLines
    · intro index line listed statement instruction read valid
      refine ⟨⟨instruction, valid, rfl⟩, Statement.plain_of_parse ?_ read⟩
      rw [String.toList_ofList]
      exact Text.isLineEnd_of_mem_lines source.toList line (List.mem_of_getElem? listed)
    · intro part mem
      cases mem
  intro part mem
  obtain ⟨tables, items⟩ := holds part mem
  exact ⟨⟨tables, fun item inside => (items item inside).1⟩, fun item inside => (items item inside).2⟩

end Assembly

end TwoPass
