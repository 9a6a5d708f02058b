import TwoPass.Proofs.LineFields

/-!
# Canonical lines

The canonical line of a statement has its label, its operator, its operands and its comment with
single tabs and commas between them and no blanks around them.  Reading it gives the statement
back, as far as the places in the line do not matter: `Statement.parse_canonicalLine`.
-/

namespace TwoPass

namespace Text

/-- The upper-case form of a trimmed text is trimmed. -/
theorem trim_upper_trim (text : List Char) : trim (upper (trim text)) = upper (trim text) := by
  refine trim_eq_self (fun d head => ?_) fun d last => ?_
  · obtain ⟨c, own, mem⟩ := mem_upperChar_of_head?_upper head
    exact isBlank_of_mem_upperChar mem (isBlank_head_trim own)
  · obtain ⟨c, own, mem⟩ := mem_upperChar_of_getLast?_upper last
    exact isBlank_of_mem_upperChar mem (isBlank_getLast_trim own)

/-- Two trimmed texts with a comma between them are a trimmed text. -/
theorem trim_append_comma {front back : List Char} (before : trim front = front)
    (behind : trim back = back) : trim (front ++ ',' :: back) = front ++ ',' :: back := by
  refine trim_eq_self (fun c head => ?_) fun c last => ?_
  · rw [List.head?_append, List.head?_cons] at head
    cases own : front.head? with
    | none =>
      rw [own] at head
      cases head
      decide
    | some d =>
      rw [own] at head
      cases head
      rw [← before] at own
      exact isBlank_head_trim own
  · rw [List.getLast?_append_cons, List.getLast?_cons] at last
    cases own : back.getLast? with
    | none =>
      rw [own] at last
      cases last
      decide
    | some d =>
      rw [own] at last
      cases last
      rw [← behind] at own
      exact isBlank_getLast_trim own

/-- Trimmed texts with commas between them are a trimmed text. -/
theorem trim_intercalate {pieces : List (List Char)}
    (each : ∀ piece ∈ pieces, trim piece = piece) :
    trim ([','].intercalate pieces) = [','].intercalate pieces := by
  induction pieces with
  | nil => rfl
  | cons piece others ih =>
    rw [List.forall_mem_cons] at each
    cases others with
    | nil => simpa using each.1
    | cons next further =>
      rw [List.intercalate_cons_cons, List.append_assoc, List.singleton_append]
      exact trim_append_comma each.1 (ih each.2)

end Text

/-- Pieces that are separate make up an empty text only if the one piece is empty. -/
theorem Separate.eq_of_intercalate_eq_nil {quoted : Bool} {pieces : List (List Char)}
    (separate : Separate quoted pieces) (empty : [','].intercalate pieces = []) :
    pieces = [[]] := by
  cases pieces with
  | nil => exact absurd separate id
  | cons piece others =>
    cases others with
    | nil => simpa using empty
    | cons next further => simp at empty

namespace Statement

/-- The operands of a field with commas between them. -/
def rejoined (field : List Char) : List Char :=
  [','].intercalate ((fieldOperands field).map String.toList)

/-- A blank field has no operands, and joins to nothing. -/
theorem fieldOperands_of_blank {field : List Char} (blank : Text.trim field = []) :
    fieldOperands field = [] ∧ rejoined field = [] := by
  have none : fieldOperands field = [] := by rw [fieldOperands, blank, List.isEmpty_nil, if_pos rfl]
  exact ⟨none, by rw [rejoined, none, List.map_nil, List.intercalate_nil]⟩

/-- Every operand is a piece of its field between commas, without the blanks around it. -/
theorem map_toList_fieldOperands {field : List Char} (filled : Text.trim field ≠ []) :
    (fieldOperands field).map String.toList =
      (cutAtCommas false (Text.trim field)).map Text.trim := by
  rw [fieldOperands, if_neg (by simpa using filled), operandsIn, String.toList_ofList, List.map_map]
  simp

/-- The operands of a field that are joined again are free of blanks at the ends, and they hold
nothing but commas and what the field holds. -/
theorem rejoined_plain (field : List Char) :
    Text.trim (rejoined field) = rejoined field ∧ ∀ c ∈ rejoined field, c = ',' ∨ c ∈ field := by
  by_cases blank : Text.trim field = []
  · rw [(fieldOperands_of_blank blank).2]
    exact ⟨rfl, by simp⟩
  · rw [rejoined, map_toList_fieldOperands blank]
    constructor
    · apply Text.trim_intercalate
      intro piece mem
      obtain ⟨own, _, rfl⟩ := List.mem_map.1 mem
      exact Text.trim_trim own
    · intro c mem
      rcases mem_intercalate mem with comma | ⟨piece, found, inside⟩
      · exact .inl (List.mem_singleton.1 comma)
      · obtain ⟨own, cut, rfl⟩ := List.mem_map.1 found
        exact .inr (Text.mem_of_mem_trim
          (mem_of_mem_cutAtCommas false _ own cut c (Text.mem_of_mem_trim inside)))

/-- The operands of a field that are joined again are a field with the same operands.  A quote that
is not closed is in the last operand, so it hides no comma that was not hidden before. -/
theorem fieldOperands_rejoined (field : List Char) :
    fieldOperands (rejoined field) = fieldOperands field := by
  by_cases blank : Text.trim field = []
  · obtain ⟨own, joined⟩ := fieldOperands_of_blank blank
    rw [joined, own]
    rfl
  · obtain ⟨separate, whole⟩ := separate_cutAtCommas false (Text.trim field)
    have trimmed := separate.trim
    have joined : rejoined field =
        [','].intercalate ((cutAtCommas false (Text.trim field)).map Text.trim) := by
      rw [rejoined, map_toList_fieldOperands blank]
    -- Nothing is left of the field only if it has one piece and that is blank, but the field is not.
    have filled : Text.trim (rejoined field) ≠ [] := by
      rw [(rejoined_plain field).1, joined]
      intro empty
      have single := trimmed.eq_of_intercalate_eq_nil empty
      obtain ⟨piece, own, none⟩ := List.map_eq_singleton_iff.1 single
      rw [own, List.intercalate_singleton] at whole
      rw [← whole, Text.trim_trim] at none
      exact blank none
    apply List.map_injective_iff.2 fun _ _ => String.toList_injective
    rw [map_toList_fieldOperands filled, map_toList_fieldOperands blank, (rejoined_plain field).1,
      joined, trimmed.cutAtCommas_intercalate, List.map_map]
    exact List.map_congr_left fun piece _ => Text.trim_trim piece

/-- A line as the fields of a statement write it, with nothing around them. -/
def canonicalLine (statement : Statement) : String :=
  statement.label.getD "" ++ "\t" ++ statement.operator ++ "\t" ++
    ",".intercalate statement.operands ++
    match statement.comment with
    | some comment => "\t" ++ comment
    | none => ""

/-- The characters of a canonical line. -/
theorem toList_canonicalLine (statement : Statement) :
    statement.canonicalLine.toList = ['\t'].intercalate
      ((statement.label.getD "").toList :: statement.operator.toList ::
        [','].intercalate (statement.operands.map String.toList) ::
          (statement.comment.map String.toList).toList) := by
  cases comment : statement.comment with
  | none => simp [canonicalLine, comment, String.toList_intercalate]
  | some text => simp [canonicalLine, comment, String.toList_intercalate]

/-- The fields of the canonical line, in terms of the fields of a line. -/
def canonicalFields (label operator : List Char) (further : List (List Char)) : List (List Char) :=
  Text.trim label :: Text.upper (Text.trim operator) :: rejoined (further.headD []) ::
    (further[1]?).toList

/-- The canonical line of a statement is put together from these fields. -/
theorem canonicalLine_ofFields (line : String) (place : Option Location) (label operator : List Char)
    (further : List (List Char)) :
    (ofFields line place label operator further).canonicalLine.toList =
      ['\t'].intercalate (canonicalFields label operator further) := by
  have named : ((ofFields line place label operator further).label.getD "").toList =
      Text.trim label := by
    by_cases blank : Text.trim label = []
    · simp [ofFields, blank]
    · simp [ofFields, blank]
  rw [toList_canonicalLine, named, canonicalFields]
  cases own : further[1]? with
  | none => simp [ofFields, rejoined, own]
  | some text => simp [ofFields, rejoined, own]

/-- It is cut into them again: a tab is in none of them but the comment. -/
theorem cut_canonicalFields {text label operator : List Char} {further : List (List Char)}
    (cut : Cut 3 text (label :: operator :: further)) :
    Cut 3 (['\t'].intercalate (canonicalFields label operator further))
      (canonicalFields label operator further) := by
  have plain := cut.plain
  rw [List.take_succ_cons, List.take_succ_cons, List.forall_mem_cons, List.forall_mem_cons] at plain
  obtain ⟨inLabel, inOperator, inFurther⟩ := plain
  have inOperands : '\t' ∉ further.headD [] := by
    cases further with
    | nil => simp
    | cons third others => exact inFurther third (by simp)
  refine ⟨by simp [canonicalFields], rfl, ?_, ?_⟩
  · cases noted : further[1]? <;> simp [canonicalFields, noted]
  · simp only [canonicalFields, List.take_succ_cons, List.take_zero, List.forall_mem_cons]
    refine ⟨fun mem => inLabel (Text.mem_of_mem_trim mem), fun mem => ?_, fun mem => ?_, by simp⟩
    · exact inOperator (Text.mem_of_mem_trim (Text.caseless_blanks.mem_of_mem_upper mem (by decide)))
    · rcases (rejoined_plain _).2 _ mem with comma | inside
      · exact absurd comma (by decide)
      · exact inOperands inside

/-- A line that was put together ends as its last field does, or with the tab in front of that. -/
theorem getLast?_intercalate_tab {front : List (List Char)} (filled : front ≠ [])
    (last : List Char) :
    (['\t'].intercalate (front ++ [last])).getLast? = some (last.getLast?.getD '\t') := by
  induction front with
  | nil => exact absurd rfl filled
  | cons piece others ih =>
    cases others with
    | nil => simp [List.getLast?_cons]
    | cons next further =>
      have later := ih (by simp)
      rw [List.cons_append] at later
      rw [List.cons_append, List.cons_append, List.intercalate_cons_cons, List.getLast?_append,
        later, Option.some_or]

/-- A canonical line has no line ends at its end: its last field is the comment, which ends as the
line did, or the operands, which are trimmed. -/
theorem withoutLineEnd_canonicalFields {line label operator : List Char}
    {further : List (List Char)}
    (cut : Cut 3 (withoutLineEnd line) (label :: operator :: further)) :
    withoutLineEnd (['\t'].intercalate (canonicalFields label operator further)) =
      ['\t'].intercalate (canonicalFields label operator further) := by
  refine withoutLineEnd_eq_self_iff.2 fun c ends => ?_
  rw [canonicalFields] at ends
  cases noted : further[1]? with
  | none =>
    rw [noted] at ends
    have last := ends.symm.trans
      (@getLast?_intercalate_tab [_, _] (by simp) (rejoined (further.headD [])))
    cases own : (rejoined (further.headD [])).getLast? with
    | none =>
      rw [own] at last
      cases last
      decide
    | some d =>
      rw [own] at last
      cases last
      rw [← (rejoined_plain _).1] at own
      have plain := Text.isBlank_getLast_trim own
      constructor
      · rintro rfl
        exact absurd plain (by decide)
      · rintro rfl
        exact absurd plain (by decide)
  | some comment =>
    rw [noted] at ends
    have last := ends.symm.trans
      (@getLast?_intercalate_tab [_, _, _] (by simp) comment)
    obtain ⟨third, shape⟩ : ∃ third, further = [third, comment] := by
      have count := cut.count
      cases further with
      | nil => cases noted
      | cons third others =>
        cases others with
        | nil => cases noted
        | cons fourth more =>
          simp only [List.length_cons] at count
          obtain rfl : more = [] := List.length_eq_zero_iff.1 (by omega)
          exact ⟨third, by simpa using noted⟩
    -- The comment was the last field of the line too, so both lines end alike.
    have own := @getLast?_intercalate_tab [label, operator, third] (by simp) comment
    rw [← last] at own
    apply withoutLineEnd_eq_self_iff.1 (withoutLineEnd_withoutLineEnd line)
    rw [cut.whole, shape]
    exact own

/-- A canonical line is read as the statement that it was written for, wherever it stands: reading
it again gives the same label, operator, operands and comment, if the operator is in upper case. -/
theorem parse_canonicalLine {line : String} {place : Option Location} {statement : Statement}
    (read : parse line place = .ok statement)
    (upper : Text.upper statement.operator.toList = statement.operator.toList)
    (elsewhere : Option Location) :
    ∃ again, parse statement.canonicalLine elsewhere = .ok again ∧
      again.label = statement.label ∧ again.operator = statement.operator ∧
      again.operands = statement.operands ∧ again.comment = statement.comment := by
  obtain ⟨label, operator, further, cut, named, few, rfl⟩ := parse_eq_ok_iff.1 read
  have shape := canonicalLine_ofFields line place label operator further
  generalize (ofFields line place label operator further).canonicalLine = canonical at shape
  have ends := withoutLineEnd_canonicalFields cut
  have cutAgain := cut_canonicalFields cut
  rw [← shape] at ends cutAgain
  rw [← ends] at cutAgain
  have operands : (ofFields canonical elsewhere (Text.trim label) (Text.upper (Text.trim operator))
      (rejoined (further.headD []) :: (further[1]?).toList)).operands =
        (ofFields line place label operator further).operands := by
    rw [operands_ofFields, operands_ofFields, List.headD_cons, fieldOperands_rejoined]
  refine ⟨_, parse_eq_ok_iff.2 ⟨_, _, _, cutAgain, ?_, ?_, rfl⟩, ?_, ?_, operands, ?_⟩
  · rw [Text.trim_upper_trim]
    exact fun none => named (Text.upper_eq_nil_iff.1 none)
  · rw [operands]
    exact few
  · rw [ofFields, ofFields, Text.trim_trim]
  · rw [ofFields, String.toList_ofList] at upper
    rw [ofFields, ofFields, Text.trim_upper_trim, upper]
  · cases noted : further[1]? <;> simp [ofFields, noted]

/-- A statement with an empty operand and a quote that is not closed, on a line with blanks around
its fields. -/
def padded : Statement where
  label := some "A"
  operator := "BYTE"
  operands := ["C'x,y'", "", "=C'z ,"]
  comment := some " note \t end"
  location := none
  operatorLocation := none
  line := " A \t byte \t C'x,y' ,, =C'z , \t note \t end\r\n"

/-- The canonical line of the padded statement, which reads as that statement. -/
theorem parse_canonicalLine_padded :
    parse padded.line none = .ok padded ∧
      Text.upper padded.operator.toList = padded.operator.toList ∧
      padded.canonicalLine = "A\tBYTE\tC'x,y',,=C'z ,\t note \t end" ∧
      ∃ again, parse padded.canonicalLine none = .ok again ∧
        again.label = padded.label ∧ again.operator = padded.operator ∧
        again.operands = padded.operands ∧ again.comment = padded.comment := by
  have read : parse padded.line none = .ok padded := by decide +kernel
  have upper : Text.upper padded.operator.toList = padded.operator.toList := by decide +kernel
  exact ⟨read, upper, by decide +kernel, parse_canonicalLine read upper none⟩

end Statement

end TwoPass
