import TwoPass.Proofs.LineFields

/-!
# The caret of a message

A message shows the source line with its tabs turned into spaces, and below it a caret.  The caret
stands under the character that the location of the message names, however many tabs are in front
of it: what is in front of that character is expanded alike in the whole line and on its own.  So
the locations of a statement point at the first characters of its operator and of its operands,
`Statement.pointsAt_of_parse`.
-/

namespace TwoPass

namespace Text

/-- The text in front is expanded on its own; what follows it is expanded from some column on. -/
theorem exists_expandTabsFrom_append (column : Nat) (front : List Char) :
    ∃ behind, ∀ back, expandTabsFrom column (front ++ back) =
      expandTabsFrom column front ++ expandTabsFrom behind back := by
  fun_induction expandTabsFrom column front with
  | case1 column => exact ⟨column, fun back => rfl⟩
  | case2 column rest ih =>
    obtain ⟨behind, each⟩ := ih
    exact ⟨behind, fun back => by
      rw [List.cons_append, expandTabsFrom, each, List.append_assoc]⟩
  | case3 column c rest plain ih =>
    obtain ⟨behind, each⟩ := ih
    refine ⟨behind, fun back => ?_⟩
    rw [List.cons_append, expandTabsFrom, each, List.cons_append]
    exact plain

/-- A character that is no tab follows the expansion of what is in front of it. -/
theorem expandTabs_append_cons (front : List Char) {c : Char} (plain : c ≠ '\t')
    (back : List Char) : expandTabs front ++ [c] <+: expandTabs (front ++ c :: back) := by
  obtain ⟨behind, each⟩ := exists_expandTabsFrom_append 0 front
  have step : ∃ rest, expandTabsFrom behind (c :: back) = c :: rest :=
    ⟨_, by rw [expandTabsFrom]; exact plain⟩
  obtain ⟨rest, own⟩ := step
  refine ⟨rest, ?_⟩
  rw [expandTabs, expandTabs, each, own, List.append_assoc, List.singleton_append]

end Text

namespace Notice

/-- The last line of a message: the hint, if there is one. -/
def advice (notice : Notice) : List String :=
  (notice.hint.filter fun given => given ≠ "").toList.map fun given => "hint: " ++ given

/-- The first line of a message at a place. -/
def heading (notice : Notice) (place : Location) : String :=
  place.text ++ ": error: " ++ notice.text

/-- A source line as a message shows it. -/
def printed (line : String) : String := "    " ++ String.ofList (Text.expandTabs line.toList)

/-- A message at a place is its heading, the excerpt of the line if that is known, and the hint. -/
theorem render_at (notice : Notice) (place : Location) (line : Option String) :
    notice.render (some place) line = "\n".intercalate
      (notice.heading place ::
        ((line.map fun source => excerpt source place.column).getD [] ++ notice.advice)) := by
  delta render
  cases hint : notice.hint with
  | none =>
    rw [advice, hint]
    cases line <;> rfl
  | some given =>
    by_cases empty : given = ""
    · rw [advice, hint, empty]
      cases line <;> rfl
    · have own : notice.advice = ["hint: " ++ given] := by
        rw [advice, hint, Option.filter_some_pos (by simpa using empty)]
        rfl
      rw [own]
      cases line <;> simp [heading]

/-- A message at a column of a line shows the line below its heading, and the caret below that. -/
theorem render_line (notice : Notice) {place : Location} (column : 0 < place.column)
    (line : String) :
    notice.render (some place) (some line) = "\n".intercalate
      (notice.heading place :: printed line :: caretLine line place.column :: notice.advice) := by
  rw [render_at, Option.map_some, Option.getD_some, excerpt, if_pos column]
  rfl

end Notice

/-- A location points at the first character of a field that is not blank; `front` is what stands in
front of the field on the line. -/
structure PointsAt (line : String) (spot : Location) (front field : List Char) (c : Char) :
    Prop where
  /-- The character is the first one of the field that is not blank. -/
  first : field.find? (fun d => !Text.isBlank d) = some c
  /-- In front of the location is what stands in front of that character. -/
  before : line.toList.take (spot.column - 1).toNat = front ++ field.takeWhile Text.isBlank
  /-- The expansion of that goes on with the character in the expansion of the line. -/
  expanded : Text.expandTabs (line.toList.take (spot.column - 1).toNat) ++ [c] <+:
    Text.expandTabs line.toList
  /-- Every message there shows the line and, below it, a caret with four spaces more in front of it
  than that expansion is long. -/
  message : ∀ notice : Notice, notice.render (some spot) (some line) = "\n".intercalate
    (notice.heading spot :: ("    " ++ String.ofList (Text.expandTabs line.toList)) ::
      String.ofList (List.replicate
        (4 + (Text.expandTabs (line.toList.take (spot.column - 1).toNat)).length) ' ' ++ ['^']) ::
      notice.advice)
  /-- That is the column of the character in the line that is shown. -/
  aligned : ("    " ++ String.ofList (Text.expandTabs line.toList)).toList[
    4 + (Text.expandTabs (line.toList.take (spot.column - 1).toNat)).length]? = some c

/-- A location that lies behind the blanks of a field points at the field. -/
theorem pointsAt_of_append {line : String} {spot : Location} {front field back : List Char}
    (whole : line.toList = front ++ (field ++ back)) (filled : Text.trim field ≠ [])
    (column : spot.column = 1 + (front.length + Text.indentation field : Nat)) :
    ∃ c, PointsAt line spot front field c := by
  have left : Text.trimLeft field ≠ [] := by
    intro none
    rw [Text.trim, none] at filled
    exact filled rfl
  obtain ⟨c, rest, own⟩ := List.exists_cons_of_ne_nil left
  have parts : field = field.takeWhile Text.isBlank ++ c :: rest := by
    rw [← own, Text.trimLeft, List.takeWhile_append_dropWhile]
  have plain : Text.isBlank c = false := by
    have head := List.head?_dropWhile_not Text.isBlank field
    rw [← Text.trimLeft, own] at head
    exact head
  have around : line.toList = (front ++ field.takeWhile Text.isBlank) ++ c :: (rest ++ back) := by
    rw [whole]
    conv_lhs => rw [parts]
    simp
  have before : line.toList.take (spot.column - 1).toNat =
      front ++ field.takeWhile Text.isBlank := by
    have count : (spot.column - 1).toNat = (front ++ field.takeWhile Text.isBlank).length := by
      rw [column, List.length_append, Text.indentation]
      omega
    rw [count, around, List.take_left]
  have expanded : Text.expandTabs (line.toList.take (spot.column - 1).toNat) ++ [c] <+:
      Text.expandTabs line.toList := by
    rw [before, around]
    apply Text.expandTabs_append_cons
    rintro rfl
    exact absurd plain (by decide)
  refine ⟨c, ?_, before, expanded, fun notice => ?_, ?_⟩
  · rw [parts, List.find?_append, List.find?_cons_of_pos (by simp [plain])]
    rw [List.find?_eq_none.2, Option.none_or]
    intro d mem
    simp [List.mem_takeWhile_imp mem]
  · rw [notice.render_line (by omega), Notice.caretLine, String.ofList_append]
    rfl
  · obtain ⟨further, shape⟩ := expanded
    rw [← shape, String.toList_append, List.getElem?_append_right (by simp), String.toList_ofList,
      List.append_assoc, List.getElem?_append_right (by simp)]
    simp

namespace Statement

/-- A field has no operands exactly if it is blank. -/
theorem fieldOperands_eq_nil_iff {field : List Char} :
    fieldOperands field = [] ↔ Text.trim field = [] := by
  rw [fieldOperands]
  by_cases blank : Text.trim field = []
  · simp [blank]
  · have cut := (separate_cutAtCommas false (Text.trim field)).1
    rw [if_neg (by simpa using blank), operandsIn, String.toList_ofList, List.map_eq_nil_iff]
    refine ⟨fun none => ?_, fun none => absurd none blank⟩
    rw [none] at cut
    exact absurd cut id

/-- The locations of a statement point at the fields of its line: the one of the operator at the
second field, and the other one at the third field, or at the second one if there are no operands. -/
theorem pointsAt_of_parse {line : String} {place : Location} {statement : Statement}
    (start : place.column = 1) (read : parse line (some place) = .ok statement) :
    statement.line = line ∧ ∃ label operator further,
      Cut 3 (withoutLineEnd line.toList) (label :: operator :: further) ∧
      (∃ spot c, statement.operatorLocation = some spot ∧
        PointsAt line spot (label ++ ['\t']) operator c) ∧
      ∃ spot c, statement.location = some spot ∧
        if statement.operands = [] then PointsAt line spot (label ++ ['\t']) operator c
        else PointsAt line spot (label ++ ['\t'] ++ operator ++ ['\t']) (further.headD []) c := by
  obtain ⟨label, operator, further, cut, named, _, rfl⟩ := parse_eq_ok_iff.1 read
  obtain ⟨ending, ends⟩ : withoutLineEnd line.toList <+: line.toList := List.rdropWhile_prefix _ _
  -- The line is its fields, with the line end that was cut off behind the last one.
  rw [cut.whole, List.intercalate_cons_cons] at ends
  have onOperator : ∃ c, PointsAt line
      (place.shifted (label.length + 1 + Text.indentation operator)) (label ++ ['\t']) operator c := by
    obtain ⟨back, behind⟩ := exists_intercalate_cons ['\t'] operator further
    rw [behind, List.append_assoc, List.append_assoc operator] at ends
    exact pointsAt_of_append ends.symm named (by simp [Location.shifted, start])
  obtain ⟨c, points⟩ := onOperator
  refine ⟨rfl, label, operator, further, cut, ⟨_, c, rfl, points⟩, ?_⟩
  by_cases blank : Text.trim (further.headD []) = []
  · have none : fieldOperands (further.headD []) = [] := fieldOperands_eq_nil_iff.2 blank
    refine ⟨_, c, by rw [ofFields, blank]; rfl, ?_⟩
    rw [ofFields, if_pos none]
    exact points
  · have some_operand : fieldOperands (further.headD []) ≠ [] :=
      fun none => blank (fieldOperands_eq_nil_iff.1 none)
    cases further with
    | nil => exact absurd rfl blank
    | cons operands others =>
      obtain ⟨back, behind⟩ := exists_intercalate_cons ['\t'] operands others
      rw [List.intercalate_cons_cons, behind] at ends
      have whole : line.toList =
          (label ++ ['\t'] ++ operator ++ ['\t']) ++ (operands ++ (back ++ ending)) := by
        simp [← ends]
      obtain ⟨d, pointsBehind⟩ := @pointsAt_of_append line
        (place.shifted (label.length + 1 + operator.length + 1 + Text.indentation operands))
        _ _ _ whole blank (by simp [Location.shifted, start]; omega)
      refine ⟨_, d, if_neg (by simpa using blank), ?_⟩
      rw [ofFields, if_neg some_operand]
      exact pointsBehind

/-- A statement on a line with tabs and blanks in front of its fields. -/
def indented : Statement where
  label := some "LOOP"
  operator := "LDA"
  operands := ["BUFER", "X"]
  comment := none
  location := some ⟨"copy.asm", 12, 12⟩
  operatorLocation := some ⟨"copy.asm", 12, 7⟩
  line := "LOOP\t lda\t\u00A0BUFER, X"

/-- The indented statement, and a message at its operands. -/
theorem pointsAt_of_parse_indented :
    (⟨"copy.asm", 12, 1⟩ : Location).column = 1 ∧
      parse indented.line (some ⟨"copy.asm", 12, 1⟩) = .ok indented ∧
      (∃ label operator further,
        Cut 3 (withoutLineEnd indented.line.toList) (label :: operator :: further) ∧
        (∃ spot c, indented.operatorLocation = some spot ∧
          PointsAt indented.line spot (label ++ ['\t']) operator c) ∧
        ∃ spot c, indented.location = some spot ∧
          if indented.operands = [] then PointsAt indented.line spot (label ++ ['\t']) operator c
          else PointsAt indented.line spot (label ++ ['\t'] ++ operator ++ ['\t'])
            (further.headD []) c) ∧
      (Cause.invalidOperand "BUFER").notice.render indented.location (some indented.line) =
        "copy.asm:12:12: error: invalid operand 'BUFER'\n" ++
        "    LOOP     lda    \u00A0BUFER, X\n" ++
        "                     ^" := by
  have read : parse indented.line (some ⟨"copy.asm", 12, 1⟩) = .ok indented := by decide +kernel
  exact ⟨rfl, read, (pointsAt_of_parse rfl read).2, by decide +kernel⟩

end Statement

end TwoPass
