import TwoPass.Proofs.Reading
import TwoPass.Proofs.UpperCase

/-!
# The fields of a line

What the cutting of a line says without its loops: a text is its fields with tabs between them, and
an operand field is its operands with commas between them, of which none stands outside quotes in an
operand.  Each of these cuts is the only one of its kind, so the same lemmas take a line apart and
put one together.  `Statement.parse_eq_ok_iff` says what a line is read as in terms of its fields.
-/

namespace TwoPass

namespace Text

/-- A text in front of a trimmed one and a text behind it that were dropped are blank. -/
theorem exists_trim (text : List Char) :
    ∃ front back, text = front ++ (trim text ++ back) ∧ (∀ c ∈ front, isBlank c = true) ∧
      ∀ c ∈ back, isBlank c = true := by
  refine ⟨text.takeWhile isBlank, (trimLeft text).rtakeWhile isBlank, ?_, ?_, ?_⟩
  · have right : trim text ++ (trimLeft text).rtakeWhile isBlank = trimLeft text :=
      List.rdropWhile_append_rtakeWhile
    rw [right, trimLeft, List.takeWhile_append_dropWhile]
  · exact fun c mem => List.mem_takeWhile_imp mem
  · exact fun c mem => List.mem_rtakeWhile_imp mem

/-- A text is trimmed if it neither begins nor ends with a blank. -/
theorem trim_eq_self {text : List Char} (head : ∀ c, text.head? = some c → isBlank c = false)
    (last : ∀ c, text.getLast? = some c → isBlank c = false) : trim text = text := by
  have left : trimLeft text = text := by
    cases text with
    | nil => rfl
    | cons c rest => exact List.dropWhile_cons_of_neg (by simp [head c rfl])
  rw [trim, left]
  refine List.rdropWhile_eq_self_iff.2 fun filled => ?_
  rw [last _ (List.getLast?_eq_some_getLast filled)]
  exact Bool.false_ne_true

/-- A trimmed text does not begin with a blank. -/
theorem isBlank_head_trim {text : List Char} {c : Char} (head : (trim text).head? = some c) :
    isBlank c = false := by
  obtain ⟨back, whole⟩ : trim text <+: trimLeft text := List.rdropWhile_prefix isBlank _
  have first : (trimLeft text).head? = some c := by
    rw [← whole, List.head?_append, head, Option.some_or]
  have plain := List.head?_dropWhile_not isBlank text
  rw [← trimLeft, first] at plain
  exact plain

/-- A trimmed text does not end with a blank. -/
theorem isBlank_getLast_trim {text : List Char} {c : Char}
    (last : (trim text).getLast? = some c) : isBlank c = false := by
  have filled : trim text ≠ [] := by
    intro none
    rw [none] at last
    cases last
  have plain := List.rdropWhile_last_not isBlank (trimLeft text) filled
  rw [List.getLast?_eq_some_getLast filled, Option.some.injEq] at last
  rw [← last]
  exact Bool.eq_false_iff.2 plain

/-- Trimming a second time changes nothing. -/
theorem trim_trim (text : List Char) : trim (trim text) = trim text :=
  trim_eq_self (fun _ => isBlank_head_trim) fun _ => isBlank_getLast_trim

end Text

/-! ### Joining pieces -/

/-- A character in front of a text that is cut goes to the first piece. -/
theorem intercalate_pushFront (separator : List Char) (c : Char) {pieces : List (List Char)}
    (filled : pieces ≠ []) :
    separator.intercalate (Text.pushFront c pieces) = c :: separator.intercalate pieces := by
  obtain ⟨first, others, rfl⟩ := List.exists_cons_of_ne_nil filled
  cases others with
  | nil => simp [Text.pushFront]
  | cons second further => simp [Text.pushFront]

/-- A separator in front of a text that is cut opens an empty piece. -/
theorem intercalate_nil_cons (separator : List Char) {pieces : List (List Char)}
    (filled : pieces ≠ []) :
    separator.intercalate ([] :: pieces) = separator ++ separator.intercalate pieces := by
  obtain ⟨first, others, rfl⟩ := List.exists_cons_of_ne_nil filled
  simp

/-- A text that is joined from pieces begins with the first one. -/
theorem exists_intercalate_cons (separator piece : List Char) (others : List (List Char)) :
    ∃ back, separator.intercalate (piece :: others) = piece ++ back := by
  cases others with
  | nil => exact ⟨[], by simp⟩
  | cons next further =>
    exact ⟨_, by rw [List.intercalate_cons_cons, List.append_assoc]⟩

/-- The characters of a text that is joined from pieces are those of the pieces and of what stands
between them. -/
theorem mem_intercalate {separator : List Char} {pieces : List (List Char)} {c : Char}
    (mem : c ∈ separator.intercalate pieces) : c ∈ separator ∨ ∃ piece ∈ pieces, c ∈ piece := by
  induction pieces with
  | nil => cases mem
  | cons piece others ih =>
    cases others with
    | nil => exact .inr ⟨piece, List.mem_cons_self, by simpa using mem⟩
    | cons next further =>
      rw [List.intercalate_cons_cons, List.append_assoc, List.mem_append, List.mem_append] at mem
      rcases mem with first | between | later
      · exact .inr ⟨piece, List.mem_cons_self, first⟩
      · exact .inl between
      · rcases ih later with between | ⟨other, found, inside⟩
        · exact .inl between
        · exact .inr ⟨other, List.mem_cons_of_mem piece found, inside⟩

/-! ### Cutting at tabs -/

/-- A text is cut at its first tabs, at most as often as `limit` says. -/
structure Cut (limit : Nat) (text : List Char) (pieces : List (List Char)) : Prop where
  /-- There is a piece, be it empty. -/
  filled : pieces ≠ []
  /-- The text is its pieces with a tab between each two. -/
  whole : text = ['\t'].intercalate pieces
  /-- There is at most one piece more than cuts. -/
  count : pieces.length ≤ limit + 1
  /-- A tab is left only in a piece that follows the last cut that is allowed. -/
  plain : ∀ piece ∈ pieces.take limit, '\t' ∉ piece

/-- The fields of a text are a cut of it. -/
theorem cut_fields (limit : Nat) (text : List Char) : Cut limit text (fields limit text) := by
  induction text generalizing limit with
  | nil =>
    refine ⟨by simp [fields], by simp [fields], by simp [fields], fun piece mem => ?_⟩
    rw [fields] at mem
    rw [List.mem_singleton.1 (List.mem_of_mem_take mem)]
    simp
  | cons c rest ih =>
    cases limit with
    | zero => exact ⟨by simp [fields], by simp [fields], by simp [fields], by simp [fields]⟩
    | succ remaining =>
      rw [fields]
      split
      · rename_i tab
        have later := ih remaining
        refine ⟨by simp, ?_, by simpa using later.count, ?_⟩
        · rw [intercalate_nil_cons _ later.filled, ← later.whole, tab]
          rfl
        · rw [List.take_succ_cons, List.forall_mem_cons]
          exact ⟨by simp, later.plain⟩
      · rename_i other
        have later := ih (remaining + 1)
        obtain ⟨first, others, shape⟩ := List.exists_cons_of_ne_nil later.filled
        refine ⟨by rw [shape]; simp [Text.pushFront], ?_, ?_, ?_⟩
        · rw [intercalate_pushFront _ c later.filled, ← later.whole]
        · have count := later.count
          rw [shape] at count ⊢
          exact count
        · have plain := later.plain
          rw [shape, List.take_succ_cons, List.forall_mem_cons] at plain
          rw [shape, Text.pushFront, List.take_succ_cons, List.forall_mem_cons]
          refine ⟨fun mem => ?_, plain.2⟩
          rcases List.mem_cons.1 mem with own | inside
          · exact other own.symm
          · exact plain.1 inside

/-- A piece without tabs and the tab behind it are one field. -/
theorem fields_append_tab (limit : Nat) {piece : List Char} (plain : '\t' ∉ piece)
    (rest : List Char) :
    fields (limit + 1) (piece ++ '\t' :: rest) = piece :: fields limit rest := by
  induction piece with
  | nil => simp [fields]
  | cons c others ih =>
    rw [List.mem_cons, not_or] at plain
    rw [List.cons_append, fields, if_neg (Ne.symm plain.1), ih plain.2]
    rfl

/-- A text is one field if it has no tabs or may not be cut. -/
theorem fields_eq_singleton {limit : Nat} {text : List Char} (plain : limit = 0 ∨ '\t' ∉ text) :
    fields limit text = [text] := by
  induction text with
  | nil => simp [fields]
  | cons c others ih =>
    cases limit with
    | zero => simp [fields]
    | succ remaining =>
      have free : '\t' ∉ c :: others := by simpa using plain
      rw [List.mem_cons, not_or] at free
      rw [fields, if_neg (Ne.symm free.1), ih (.inr free.2)]
      rfl

/-- A text has no cut but its fields. -/
theorem Cut.eq_fields {limit : Nat} {text : List Char} {pieces : List (List Char)}
    (cut : Cut limit text pieces) : fields limit text = pieces := by
  induction pieces generalizing limit text with
  | nil => exact absurd rfl cut.filled
  | cons piece others ih =>
    obtain ⟨-, rfl, count, plain⟩ := cut
    cases others with
    | nil =>
      rw [List.intercalate_singleton]
      apply fields_eq_singleton
      cases limit with
      | zero => exact .inl rfl
      | succ remaining => exact .inr (plain piece (by simp))
    | cons next further =>
      cases limit with
      | zero => simp at count
      | succ remaining =>
        rw [List.take_succ_cons, List.forall_mem_cons] at plain
        have later := ih ⟨by simp, rfl, by simpa using count, plain.2⟩
        rw [List.intercalate_cons_cons, List.append_assoc, List.singleton_append,
          fields_append_tab remaining plain.1, later]

/-- Pieces are the fields of a text exactly if they are a cut of it. -/
theorem fields_eq_iff {limit : Nat} {text : List Char} {pieces : List (List Char)} :
    fields limit text = pieces ↔ Cut limit text pieces :=
  ⟨fun own => own ▸ cut_fields limit text, Cut.eq_fields⟩

/-- A line has no line ends at its end if its last character is none. -/
theorem withoutLineEnd_eq_self_iff {line : List Char} :
    withoutLineEnd line = line ↔ ∀ c, line.getLast? = some c → c ≠ '\r' ∧ c ≠ '\n' := by
  have own : withoutLineEnd line = line.rdropWhile fun c => c = '\r' ∨ c = '\n' := rfl
  rw [own, List.rdropWhile_eq_self_iff]
  constructor
  · intro plain c last
    have filled : line ≠ [] := by
      intro none
      rw [none] at last
      cases last
    rw [List.getLast?_eq_some_getLast filled, Option.some.injEq] at last
    have ends := plain filled
    rw [last] at ends
    simpa using ends
  · intro plain filled
    simpa using plain _ (List.getLast?_eq_some_getLast filled)

/-- A line without its line ends has none at its end. -/
theorem withoutLineEnd_withoutLineEnd (line : List Char) :
    withoutLineEnd (withoutLineEnd line) = withoutLineEnd line :=
  List.rdropWhile_idempotent _ line

/-! ### Cutting at commas -/

/-- Whether a quote is open behind a text, if it has no comma outside quotes; `quoted` says whether
one is open in front of it. -/
def openBehind? (quoted : Bool) : List Char → Option Bool
  | [] => some quoted
  | c :: rest =>
    if c = ',' ∧ quoted = false then none
    else openBehind? (if c = '\'' then !quoted else quoted) rest

/-- Quotes are followed from one text to the next. -/
theorem openBehind?_append (quoted : Bool) (front back : List Char) :
    openBehind? quoted (front ++ back) =
      (openBehind? quoted front).bind fun between => openBehind? between back := by
  induction front generalizing quoted with
  | nil => rfl
  | cons c rest ih =>
    rw [List.cons_append, openBehind?, openBehind?]
    split
    · rfl
    · exact ih _

/-- Blanks neither open nor close a quote, and they are no commas. -/
theorem openBehind?_of_blank (quoted : Bool) {text : List Char}
    (blank : ∀ c ∈ text, Text.isBlank c = true) : openBehind? quoted text = some quoted := by
  induction text with
  | nil => rfl
  | cons c rest ih =>
    rw [List.forall_mem_cons] at blank
    have notComma : c ≠ ',' := by
      rintro rfl
      exact absurd blank.1 (by decide)
    have notQuote : c ≠ '\'' := by
      rintro rfl
      exact absurd blank.1 (by decide)
    rw [openBehind?, if_neg (by simp [notComma]), if_neg notQuote, ih blank.2]

/-- The blanks around a text do not matter to its quotes and its commas. -/
theorem openBehind?_trim (quoted : Bool) (text : List Char) :
    openBehind? quoted (Text.trim text) = openBehind? quoted text := by
  obtain ⟨front, back, whole, before, behind⟩ := Text.exists_trim text
  have follow : openBehind? quoted text =
      (openBehind? quoted (Text.trim text)).bind fun between => openBehind? between back := by
    conv_lhs => rw [whole]
    rw [openBehind?_append, openBehind?_of_blank quoted before, Option.bind_some,
      openBehind?_append]
  -- The blanks behind leave the state as it is, so they add nothing to the trimmed text.
  rw [follow]
  cases openBehind? quoted (Text.trim text) with
  | none => rfl
  | some between => rw [Option.bind_some, openBehind?_of_blank between behind]

/-- Pieces that commas separate: none has a comma outside quotes, and every quote is closed in its
piece, but for the last one. -/
def Separate (quoted : Bool) : List (List Char) → Prop
  | [] => False
  | [last] => (openBehind? quoted last).isSome
  | piece :: next :: further => openBehind? quoted piece = some false ∧ Separate false (next :: further)

/-- A character outside quotes that is no comma may be put in front of the first piece. -/
theorem Separate.pushFront {quoted : Bool} {c : Char} {pieces : List (List Char)}
    (inside : ¬(c = ',' ∧ quoted = false))
    (separate : Separate (if c = '\'' then !quoted else quoted) pieces) :
    Separate quoted (Text.pushFront c pieces) := by
  cases pieces with
  | nil => exact absurd separate id
  | cons first others =>
    have step : openBehind? quoted (c :: first) =
        openBehind? (if c = '\'' then !quoted else quoted) first := by
      rw [openBehind?, if_neg inside]
    cases others with
    | nil => simpa only [Text.pushFront, Separate, step] using separate
    | cons next further => simpa only [Text.pushFront, Separate, step] using separate

/-- The pieces of a text that is cut at commas are separate, and with commas between them they are
the text. -/
theorem separate_cutAtCommas (quoted : Bool) (text : List Char) :
    Separate quoted (cutAtCommas quoted text) ∧
      text = [','].intercalate (cutAtCommas quoted text) := by
  induction text generalizing quoted with
  | nil => exact ⟨rfl, rfl⟩
  | cons c rest ih =>
    rw [cutAtCommas]
    split
    · rename_i comma
      obtain ⟨separate, whole⟩ := ih false
      have filled : cutAtCommas false rest ≠ [] := by
        intro none
        rw [none] at separate
        exact separate
      refine ⟨?_, ?_⟩
      · obtain ⟨first, others, shape⟩ := List.exists_cons_of_ne_nil filled
        rw [shape] at separate ⊢
        exact ⟨by rw [openBehind?, comma.2], separate⟩
      · rw [intercalate_nil_cons _ filled, ← whole, comma.1]
        rfl
    · rename_i inside
      obtain ⟨separate, whole⟩ := ih (if c = '\'' then !quoted else quoted)
      refine ⟨separate.pushFront inside, ?_⟩
      rw [intercalate_pushFront, ← whole]
      intro none
      rw [none] at separate
      exact separate

/-- A piece without commas outside quotes is not cut; a comma behind it cuts if no quote is open
there. -/
theorem cutAtCommas_of_openBehind? {quoted between : Bool} {piece : List Char}
    (closed : openBehind? quoted piece = some between) :
    cutAtCommas quoted piece = [piece] ∧
      (between = false → ∀ rest,
        cutAtCommas quoted (piece ++ ',' :: rest) = piece :: cutAtCommas false rest) := by
  induction piece generalizing quoted with
  | nil =>
    cases closed
    refine ⟨rfl, ?_⟩
    rintro rfl rest
    simp [cutAtCommas]
  | cons c others ih =>
    rw [openBehind?] at closed
    split at closed
    · cases closed
    · rename_i inside
      obtain ⟨alone, cuts⟩ := ih closed
      refine ⟨?_, fun outside rest => ?_⟩
      · rw [cutAtCommas, if_neg inside, alone]
        rfl
      · rw [List.cons_append, cutAtCommas, if_neg inside, cuts outside rest]
        rfl

/-- Separate pieces with commas between them are cut into the same pieces. -/
theorem Separate.cutAtCommas_intercalate {quoted : Bool} {pieces : List (List Char)}
    (separate : Separate quoted pieces) :
    cutAtCommas quoted ([','].intercalate pieces) = pieces := by
  induction pieces generalizing quoted with
  | nil => exact absurd separate id
  | cons piece others ih =>
    cases others with
    | nil =>
      obtain ⟨between, closed⟩ := Option.isSome_iff_exists.1 separate
      rw [List.intercalate_singleton]
      exact (cutAtCommas_of_openBehind? closed).1
    | cons next further =>
      rw [List.intercalate_cons_cons, List.append_assoc, List.singleton_append,
        (cutAtCommas_of_openBehind? separate.1).2 rfl, ih separate.2]

/-- Separate pieces are so without the blanks around them. -/
theorem Separate.trim {quoted : Bool} {pieces : List (List Char)}
    (separate : Separate quoted pieces) : Separate quoted (pieces.map Text.trim) := by
  induction pieces generalizing quoted with
  | nil => exact separate
  | cons piece others ih =>
    cases others with
    | nil =>
      rw [List.map_singleton, Separate, openBehind?_trim]
      exact separate
    | cons next further => exact ⟨(openBehind?_trim quoted piece).trans separate.1, ih separate.2⟩

/-! ### Reading the fields -/

namespace Statement

/-- The operands of an operand field; a blank one has none. -/
def fieldOperands (field : List Char) : List String :=
  if (Text.trim field).isEmpty then [] else operandsIn (String.ofList (Text.trim field))

/-- The statement that a line holds, in terms of the fields of the line. -/
def ofFields (line : String) (place : Option Location) (label operator : List Char)
    (further : List (List Char)) : Statement :=
  let operand := further.headD []
  let operatorLocation :=
    place.map fun begin => begin.shifted (label.length + 1 + Text.indentation operator)
  { label := if (Text.trim label).isEmpty then none else some (String.ofList (Text.trim label))
    operator := String.ofList (Text.upper (Text.trim operator))
    operands := fieldOperands operand
    comment := further[1]?.map String.ofList
    location :=
      if (Text.trim operand).isEmpty then operatorLocation
      else place.map fun begin =>
        begin.shifted (label.length + 1 + operator.length + 1 + Text.indentation operand)
    operatorLocation
    line }

/-- The operands of a statement are those of the third field. -/
theorem operands_ofFields (line : String) (place : Option Location) (label operator : List Char)
    (further : List (List Char)) :
    (ofFields line place label operator further).operands = fieldOperands (further.headD []) := rfl

/-- What becomes of a line that has a second field: it is refused if that field is blank or there are
too many operands. -/
theorem parse_of_cut {line : String} (place : Option Location) {label operator : List Char}
    {further : List (List Char)}
    (cut : Cut 3 (withoutLineEnd line.toList) (label :: operator :: further)) :
    parse line place =
      if Text.trim operator = [] then
        .error { cause := .operatorMissing, location := place, line := some line }
      else
        let statement := ofFields line place label operator further
        if operandLimit < statement.operands.length then
          .error (statement.complaint (.tooManyOperands statement.operands.length))
        else .ok statement := by
  unfold parse
  rw [cut.eq_fields]
  by_cases blank : Text.trim operator = []
  · rw [if_pos blank]
    exact if_pos (by simp [blank, Text.upper])
  · rw [if_neg blank]
    exact if_neg (by simpa [Text.upper_eq_nil_iff] using blank)

/-- A line is read as the statement of its fields if the second one is not blank and the third one
has no more operands than are allowed; no other line is read. -/
theorem parse_eq_ok_iff {line : String} {place : Option Location} {statement : Statement} :
    parse line place = .ok statement ↔
      ∃ label operator further,
        Cut 3 (withoutLineEnd line.toList) (label :: operator :: further) ∧
        Text.trim operator ≠ [] ∧
        statement.operands.length ≤ operandLimit ∧
        statement = ofFields line place label operator further := by
  constructor
  · intro read
    obtain ⟨_, label, operator, further, split, _⟩ := parse_eq_ok read
    have cut := fields_eq_iff.1 split
    rw [parse_of_cut place cut] at read
    split at read
    · cases read
    · rename_i named
      dsimp only at read
      split at read
      · cases read
      · rename_i few
        cases read
        exact ⟨label, operator, further, cut, named, Nat.le_of_not_lt few, rfl⟩
  · rintro ⟨label, operator, further, cut, named, few, rfl⟩
    rw [parse_of_cut place cut, if_neg named]
    exact if_neg (Nat.not_lt.2 few)

end Statement

end TwoPass
