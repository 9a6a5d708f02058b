import Mathlib.Data.List.Nodup
import TwoPass.Proofs.Code
import TwoPass.Proofs.Shapes

/-!
# Readings of operands

Both passes try one reading of an operand after the other: each asks for a shape, and the first whose
shape the operand has decides.  As the shapes exclude each other, the readings may be tried in any
order: `Operand.shape_unambiguous` says so of the value of an equated label, of the displacement of an
instruction and of the code of a data item.
-/

namespace TwoPass

namespace Operand

/-- An operand without its first character. -/
def behindMark (operand : String) : String := String.ofList (operand.toList.drop 1)

/-- The number that a numeral spells; any other text counts as zero. -/
def numeral (text : String) : Except Failure Nat := (numeral? text).getD (.ok 0)

/-- A reading of an operand. -/
structure Reading (Result : Type) where
  /-- Whether it reads what stands behind a mark. -/
  marked : Bool := false
  /-- The shape that it asks for. -/
  shape : Shape
  /-- What the operand then gives. -/
  result : Result

variable {Result : Type} {marked : Bool} {operand : String} {refused : Result}

/-- Whether a reading is one of an operand; `marked` says whether a mark is taken off the operand. -/
def Reading.applies (marked : Bool) (operand : String) (reading : Reading Result) : Bool :=
  if reading.marked then marked && reading.shape.describes (behindMark operand)
  else reading.shape.describes operand

/-- What the first reading that applies gives, or `refused` if none does. -/
def firstReading (marked : Bool) (operand : String) (refused : Result)
    (readings : List (Reading Result)) : Result :=
  (readings.find? (Reading.applies marked operand)).elim refused Reading.result

/-- The first reading is tried before the others. -/
theorem firstReading_cons (reading : Reading Result) (rest : List (Reading Result)) :
    firstReading marked operand refused (reading :: rest) =
      if reading.applies marked operand then reading.result
      else firstReading marked operand refused rest := by
  rw [firstReading, List.find?_cons]
  cases reading.applies marked operand <;> rfl

/-- An operand without readings is refused. -/
theorem firstReading_nil : firstReading marked operand refused [] = refused := rfl

/-- An operand is refused if no reading applies. -/
theorem firstReading_of_none {readings : List (Reading Result)}
    (none : ∀ reading ∈ readings, reading.applies marked operand = false) :
    firstReading marked operand refused readings = refused := by
  rw [firstReading, List.find?_eq_none.2 fun reading listed => by simp [none reading listed]]
  rfl

/-- Readings that apply to one operand ask for the same.  A mark is taken off only if there is one,
and then the operand itself has no shape. -/
theorem Reading.eq_of_applies (sound : marked = true → addressing operand ≠ .simple)
    {left right : Reading Result} (first : left.applies marked operand = true)
    (second : right.applies marked operand = true) :
    (left.marked, left.shape) = (right.marked, right.shape) := by
  rw [applies] at first second
  cases before : left.marked with
  | false =>
    rw [before, if_neg Bool.false_ne_true] at first
    cases behind : right.marked with
    | false =>
      rw [behind, if_neg Bool.false_ne_true] at second
      rw [Shape.eq_of_describes first second]
    | true =>
      rw [behind, if_pos rfl, Bool.and_eq_true] at second
      exact absurd (Shape.addressing_of_describes first) (sound second.1)
  | true =>
    rw [before, if_pos rfl, Bool.and_eq_true] at first
    cases behind : right.marked with
    | false =>
      rw [behind, if_neg Bool.false_ne_true] at second
      exact absurd (Shape.addressing_of_describes second) (sound first.1)
    | true =>
      rw [behind, if_pos rfl, Bool.and_eq_true] at second
      rw [Shape.eq_of_describes first.2 second.2]

/-- Of readings that ask for different things, the one that applies decides. -/
theorem firstReading_of_mem (sound : marked = true → addressing operand ≠ .simple)
    {readings : List (Reading Result)}
    (once : (readings.map fun reading => (reading.marked, reading.shape)).Nodup)
    {reading : Reading Result} (listed : reading ∈ readings)
    (own : reading.applies marked operand = true) :
    firstReading marked operand refused readings = reading.result := by
  rw [firstReading]
  cases found : readings.find? (Reading.applies marked operand) with
  | none => exact absurd own (List.find?_eq_none.1 found reading listed)
  | some other =>
    have asks := Reading.eq_of_applies sound (List.find?_some found) own
    rw [List.inj_on_of_nodup_map once (List.mem_of_find?_eq_some found) listed asks]
    rfl

/-- Readings that ask for different things may be tried in any order. -/
theorem firstReading_perm (sound : marked = true → addressing operand ≠ .simple)
    {readings order : List (Reading Result)}
    (once : (readings.map fun reading => (reading.marked, reading.shape)).Nodup)
    (same : order.Perm readings) :
    firstReading marked operand refused order = firstReading marked operand refused readings := by
  by_cases some : ∃ reading ∈ readings, reading.applies marked operand = true
  · obtain ⟨reading, listed, own⟩ := some
    rw [firstReading_of_mem sound once listed own,
      firstReading_of_mem sound ((same.map _).nodup_iff.2 once) (same.mem_iff.2 listed) own]
  · have none : ∀ reading ∈ readings, reading.applies marked operand = false := by
      simpa using some
    rw [firstReading_of_none none,
      firstReading_of_none fun reading listed => none reading (same.mem_iff.1 listed)]

/-- A number has a numeral. -/
theorem numeral?_of_isNumber (digits : isNumber operand = true) :
    numeral? operand = some (numeral operand) := by
  obtain ⟨value, spelled⟩ := Option.isSome_iff_exists.1 digits
  simp [numeral, numeral?, spelled]

/-- Any other text has none. -/
theorem numeral?_of_not_isNumber (other : ¬ isNumber operand = true) : numeral? operand = none := by
  rw [isNumber, Option.not_isSome_iff_eq_none] at other
  rw [numeral?, other, Option.map_none]

end Operand

open Operand

namespace Layout

/-- The readings of the operand that gives a label its value. -/
def equateReadings (symbols : SymbolTable) (counter : Nat) (statement : Statement)
    (operand : String) : List (Reading (Except Failure Int)) :=
  let value := Expression.evaluate symbols.find? operand statement.location (some statement.line)
  [{ shape := .here, result := .ok counter },
    { shape := .number, result := (numeral operand).map fun value => (value : Int) },
    { shape := .symbol, result := value },
    { shape := .expression, result := value }]

/-- The value that an operand gives to a label is that of its first reading. -/
theorem equated_eq_firstReading {statement : Statement} {operand : String}
    (first : statement.first? = some operand) (symbols : SymbolTable) (counter : Nat) :
    equated symbols counter statement =
      firstReading false operand (.error (statement.failure (.invalidEquate operand)))
        (equateReadings symbols counter statement operand) := by
  simp only [equated, first, equateReadings, firstReading_cons, firstReading_nil, Reading.applies,
    Shape.describes, Bool.false_eq_true, if_false, decide_eq_true_eq]
  by_cases here : operand = "*"
  · rw [if_pos here, if_pos here]
  · rw [if_neg here, if_neg here]
    by_cases digits : isNumber operand = true
    · rw [numeral?_of_isNumber digits, if_pos digits]
    · rw [numeral?_of_not_isNumber digits, if_neg digits]
      by_cases symbol : isSymbol operand = true
      · simp [symbol]
      · by_cases expression : isExpression operand = true
        · simp [symbol, expression]
        · simp [symbol, expression]

/-- The readings of an equated operand may be tried in any order. -/
theorem firstReading_equate {symbols : SymbolTable} {counter : Nat} {statement : Statement}
    {operand : String} {order : List (Reading (Except Failure Int))}
    (first : statement.first? = some operand)
    (same : order.Perm (equateReadings symbols counter statement operand)) :
    firstReading false operand (.error (statement.failure (.invalidEquate operand))) order =
      equated symbols counter statement := by
  have once : ((equateReadings symbols counter statement operand).map fun reading =>
      (reading.marked, reading.shape)).Nodup := by simp [equateReadings]
  rw [equated_eq_firstReading first, firstReading_perm (fun wrong => by cases wrong) once same]

end Layout

namespace Encoding

/-- The readings of the operand of an instruction on memory.  Behind a mark there is no literal. -/
def memoryReadings (tables : Tables) (item : Item) (format : Format) (operand : String) :
    List (Reading (Except Failure (Int × List Modification))) :=
  let number (text : String) := (numeral text).map fun value => ((value : Int), [])
  [{ shape := .literal
     result := ((tables.literals.get? operand).bind Literal.location).elim
       (.error (item.statement.failure (.missingLiteral operand)))
       fun target => .ok (target - (item.location + format.size), []) },
    { shape := .symbol, result := symbolDisplacement tables item format operand },
    { shape := .number, result := number operand },
    { marked := true, shape := .symbol
      result := symbolDisplacement tables item format (behindMark operand) },
    { marked := true, shape := .number, result := number (behindMark operand) }]

/-- Whether the flags of an item say that its operand begins with a mark. -/
def takesMark (item : Item) : Bool := !(item.flags.n && item.flags.i)

/-- The displacement of an operand is that of its first reading, if a mark is taken off only where
there is one. -/
theorem displacement_eq_firstReading {item : Item} {operand : String}
    (sound : takesMark item = true → addressing operand ≠ .simple) (tables : Tables)
    (format : Format) :
    displacement tables item format operand =
      firstReading (takesMark item) operand
        (.error (item.statement.failure (.invalidOperand operand)))
        (memoryReadings tables item format operand) := by
  simp only [displacement, memoryReadings, firstReading_cons, firstReading_nil, Reading.applies,
    Shape.describes, Bool.false_eq_true, if_false, if_true]
  rw [takesMark] at sound ⊢
  cases simple : item.flags.n && item.flags.i with
  | true =>
    simp only [Bool.true_and, Bool.not_true, Bool.false_and, Bool.false_eq_true, if_false, if_true]
    by_cases literal : isLiteral operand = true
    · rw [if_pos literal, if_pos literal]
      cases (tables.literals.get? operand).bind Literal.location <;> rfl
    · rw [if_neg literal, if_neg literal]
      by_cases symbol : isSymbol operand = true
      · rw [if_pos symbol, if_pos symbol]
      · rw [if_neg symbol, if_neg symbol]
        by_cases digits : isNumber operand = true
        · rw [numeral?_of_isNumber digits, if_pos digits]
        · rw [numeral?_of_not_isNumber digits, if_neg digits]
  | false =>
    -- The operand begins with a mark, so it has no shape itself.
    have bare (shape : Shape) : ¬ shape.describes operand = true :=
      fun own => sound (by rw [simple]; rfl) (Shape.addressing_of_describes own)
    have literal : ¬ isLiteral operand = true := bare .literal
    have symbol : ¬ isSymbol operand = true := bare .symbol
    have number : ¬ isNumber operand = true := bare .number
    simp only [Bool.false_and, Bool.not_false, Bool.true_and, Bool.false_eq_true, if_false]
    rw [if_neg literal, if_neg symbol, if_neg number, ← behindMark]
    by_cases symbol : isSymbol (behindMark operand) = true
    · rw [if_pos symbol, if_pos symbol]
    · rw [if_neg symbol, if_neg symbol]
      by_cases digits : isNumber (behindMark operand) = true
      · rw [numeral?_of_isNumber digits, if_pos digits]
      · rw [numeral?_of_not_isNumber digits, if_neg digits]

/-- Once the flags of an item are set, a mark is taken off its operand only where there is one. -/
theorem takesMark_flagged {item : Item} {operand : String}
    (first : item.statement.first? = some operand) (format : Format)
    (taken : takesMark (item.flagged format) = true) : addressing operand ≠ .simple := by
  intro simple
  have filled : ¬ item.statement.operands.isEmpty = true := by
    intro none
    rw [Statement.first?, List.isEmpty_iff.1 none] at first
    cases first
  rw [takesMark, Item.flagged, if_neg filled] at taken
  simp [Flags.union, operandFlags, first, simple, flagsOf, Flags.simple] at taken

/-- The readings of the operand of an instruction on memory may be tried in any order. -/
theorem firstReading_memory {tables : Tables} {item : Item} {format : Format} {operand : String}
    {order : List (Reading (Except Failure (Int × List Modification)))}
    (first : item.statement.first? = some operand)
    (same : order.Perm (memoryReadings tables (item.flagged format) format operand)) :
    firstReading (takesMark (item.flagged format)) operand
        (.error ((item.flagged format).statement.failure (.invalidOperand operand))) order =
      displacement tables (item.flagged format) format operand := by
  have sound := takesMark_flagged first format
  have once : ((memoryReadings tables (item.flagged format) format operand).map fun reading =>
      (reading.marked, reading.shape)).Nodup := by simp [memoryReadings]
  rw [displacement_eq_firstReading sound, firstReading_perm sound once same]

/-- The readings of the operand of a data item. -/
def dataReadings (tables : Tables) (item : Item) (instruction : Instruction) (operand : String) :
    List (Reading (List Modification × Except Failure String)) :=
  let needed := relocations tables item (2 * instruction.size) (Expression.split operand)
  let zeros := String.ofList (List.replicate (2 * instruction.size) '0')
  let relocated := (needed.1, needed.2.map fun _ => zeros)
  [{ shape := .form, result := ([], formCode instruction item.statement operand) },
    { shape := .expression, result := relocated },
    { shape := .symbol, result := relocated },
    { shape := .number
      result := ([], (numeral operand).bind (numberCode instruction item.statement)) }]

/-- The code of a data item is that of the first reading of its operand. -/
theorem dataCode_eq_firstReading {item : Item} {operand : String}
    (first : item.statement.first? = some operand) (tables : Tables) (instruction : Instruction) :
    dataCode tables item instruction =
      firstReading false operand
        ([], .error (item.statement.failure (.invalidData instruction.mnemonic operand)))
        (dataReadings tables item instruction operand) := by
  simp only [dataCode, first, dataReadings, firstReading_cons, firstReading_nil, Reading.applies,
    Shape.describes, Bool.false_eq_true, if_false]
  by_cases form : isForm operand = true
  · rw [if_pos form, if_pos form]
  · rw [if_neg form, if_neg form]
    by_cases expression : isExpression operand = true
    · simp [expression]
    · by_cases symbol : isSymbol operand = true
      · simp [expression, symbol]
      · by_cases digits : isNumber operand = true
        · simp [expression, symbol, digits, numeral?_of_isNumber digits]
        · simp [expression, symbol, digits, numeral?_of_not_isNumber digits]

/-- The readings of the operand of a data item may be tried in any order. -/
theorem firstReading_data {tables : Tables} {item : Item} {instruction : Instruction}
    {operand : String} {order : List (Reading (List Modification × Except Failure String))}
    (first : item.statement.first? = some operand)
    (same : order.Perm (dataReadings tables item instruction operand)) :
    firstReading false operand
        ([], .error (item.statement.failure (.invalidData instruction.mnemonic operand))) order =
      dataCode tables item instruction := by
  have once : ((dataReadings tables item instruction operand).map fun reading =>
      (reading.marked, reading.shape)).Nodup := by simp [dataReadings]
  rw [dataCode_eq_firstReading first, firstReading_perm (fun wrong => by cases wrong) once same]

end Encoding

namespace Operand

/-- The shapes of an operand exclude each other, and no operand with a shape has a mark.  So it does
not matter in which order the passes try the readings of an operand: of an equated one, of that of an
instruction on memory, whatever flags it had before, and of that of a data item. -/
theorem shape_unambiguous (operand : String) :
    (∀ left right : Shape, left.describes operand = true → right.describes operand = true →
        left = right) ∧
      (∀ shape : Shape, shape.describes operand = true → (addressing operand).mark = "") ∧
      (∀ (symbols : SymbolTable) (counter : Nat) (statement : Statement),
        statement.first? = some operand →
        ∀ order, order.Perm (Layout.equateReadings symbols counter statement operand) →
          firstReading false operand (.error (statement.failure (.invalidEquate operand))) order =
            Layout.equated symbols counter statement) ∧
      (∀ (tables : Tables) (item : Item) (format : Format),
        item.statement.first? = some operand →
        ∀ order, order.Perm (Encoding.memoryReadings tables (item.flagged format) format operand) →
          firstReading (Encoding.takesMark (item.flagged format)) operand
              (.error ((item.flagged format).statement.failure (.invalidOperand operand))) order =
            Encoding.displacement tables (item.flagged format) format operand) ∧
      ∀ (tables : Tables) (item : Item) (instruction : Instruction),
        item.statement.first? = some operand →
        ∀ order, order.Perm (Encoding.dataReadings tables item instruction operand) →
          firstReading false operand
              ([], .error (item.statement.failure (.invalidData instruction.mnemonic operand)))
              order =
            Encoding.dataCode tables item instruction := by
  refine ⟨fun left right => Shape.eq_of_describes, fun shape own => ?_, ?_, ?_, ?_⟩
  · rw [Shape.addressing_of_describes own]
    rfl
  · exact fun symbols counter statement first order => Layout.firstReading_equate first
  · exact fun tables item format first order => Encoding.firstReading_memory first
  · exact fun tables item instruction first order => Encoding.firstReading_data first

/-- The readings in reverse order of an equated symbol, of a symbol behind a mark, and of a data form
that has an operator between its quotes. -/
theorem shape_unambiguous_reversed :
    let tables : Tables := { symbols := OrderedMap.put {} "A" 5 }
    let equated := Statement.unplaced none "EQU" ["A"]
    let loaded : Item := { statement := .unplaced none "LDA" ["#A"] }
    let stored : Item := { statement := .unplaced none "WORD" ["C'A-B'"] }
    (∀ shape : Shape, shape.describes "C'A-B'" = true → shape = .form) ∧
      (addressing "C'A-B'").mark = "" ∧
      firstReading false "A" (.error (equated.failure (.invalidEquate "A")))
        (Layout.equateReadings tables.symbols 7 equated "A").reverse = .ok 5 ∧
      firstReading (Encoding.takesMark (loaded.flagged .three)) "#A"
        (.error ((loaded.flagged .three).statement.failure (.invalidOperand "#A")))
        (Encoding.memoryReadings tables (loaded.flagged .three) .three "#A").reverse = .ok (2, []) ∧
      firstReading false "C'A-B'"
        ([], .error (stored.statement.failure (.invalidData "WORD" (some "C'A-B'"))))
        (Encoding.dataReadings tables stored (.ofDirective .word) "C'A-B'").reverse =
          ([], .ok "412D42") := by
  intro tables equated loaded stored
  have form : Shape.form.describes "C'A-B'" = true := by decide +kernel
  obtain ⟨unique, bare, _, _, data⟩ := shape_unambiguous "C'A-B'"
  obtain ⟨_, _, equate, _⟩ := shape_unambiguous "A"
  obtain ⟨_, _, _, memory, _⟩ := shape_unambiguous "#A"
  refine ⟨fun shape own => unique shape .form own form, bare .form form, ?_, ?_, ?_⟩
  · rw [equate tables.symbols 7 equated rfl _ (List.reverse_perm _)]
    decide +kernel
  · rw [memory tables loaded .three rfl _ (List.reverse_perm _)]
    decide +kernel
  · rw [← show (Instruction.ofDirective .word).mnemonic = "WORD" from rfl,
      data tables stored (.ofDirective .word) rfl _ (List.reverse_perm _)]
    decide +kernel

end Operand

end TwoPass
