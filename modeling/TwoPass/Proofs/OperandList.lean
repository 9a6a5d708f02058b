import TwoPass.Proofs.LineFields

/-!
# Operand lists

An operand field is cut at the commas that stand outside quotes, and a comma stands outside quotes
if the number of quotes in front of it is even.  `isOpen` follows the quotes by that parity, and the
loop that cuts a field is compared with it at every comma.  The main statement,
`operandsIn_intercalate`, says that operands which hide their commas behind quotes are given back by
the field that joins them, and how many operands any field has.
-/

namespace TwoPass

/-- The number of quotes in front of a place in a text. -/
def quotesBefore (text : List Char) (place : Nat) : Nat := (text.take place).count '\''

/-- An operand that may stand beside others: there are no blanks around it, its quotes come in
pairs, and every comma in it stands behind an odd number of its quotes. -/
structure StandsAlone (operand : String) : Prop where
  /-- It does not begin with a blank. -/
  head : ∀ c ∈ operand.toList.head?, Text.isBlank c = false
  /-- It does not end with a blank. -/
  last : ∀ c ∈ operand.toList.getLast?, Text.isBlank c = false
  /-- Its quotes come in pairs. -/
  paired : operand.toList.count '\'' % 2 = 0
  /-- Each of its commas stands between quotes. -/
  hidden : ∀ place < operand.toList.length,
    operand.toList[place]? = some ',' → quotesBefore operand.toList place % 2 = 1

/-- The conditions on an operand, in a form that can be computed. -/
theorem standsAlone_iff {operand : String} :
    StandsAlone operand ↔
      operand.toList.head?.all (!Text.isBlank ·) = true ∧
        operand.toList.getLast?.all (!Text.isBlank ·) = true ∧
        operand.toList.count '\'' % 2 = 0 ∧
        ∀ place < operand.toList.length,
          operand.toList[place]? = some ',' → quotesBefore operand.toList place % 2 = 1 := by
  simp only [Option.all_eq_true, Bool.not_eq_true']
  constructor
  · rintro ⟨head, last, paired, hidden⟩
    exact ⟨head, last, paired, hidden⟩
  · rintro ⟨head, last, paired, hidden⟩
    exact ⟨head, last, paired, hidden⟩

instance (operand : String) : Decidable (StandsAlone operand) :=
  decidable_of_iff _ standsAlone_iff.symm

/-- The number of commas in a text that have an even number of quotes in front of them. -/
def outerCommas (text : List Char) : Nat :=
  (List.range text.length).countP fun place =>
    decide (text[place]? = some ',' ∧ quotesBefore text place % 2 = 0)

/-- Whether a quote is open behind a text; `quoted` says whether one is open in front of it. -/
def isOpen (quoted : Bool) (text : List Char) : Bool :=
  quoted ^^ decide (text.count '\'' % 2 = 1)

/-- A quote in front of a text opens or closes one, and no other character does. -/
theorem isOpen_cons (quoted : Bool) (c : Char) (rest : List Char) :
    isOpen quoted (c :: rest) = isOpen (if c = '\'' then !quoted else quoted) rest := by
  by_cases quote : c = '\''
  · have flips : decide ((rest.count '\'' + 1) % 2 = 1) = !decide (rest.count '\'' % 2 = 1) := by
      rw [← decide_not, decide_eq_decide]
      omega
    rw [isOpen, isOpen, if_pos quote, quote, List.count_cons_self, flips]
    cases quoted <;> simp
  · rw [isOpen, isOpen, if_neg quote, List.count_cons_of_ne quote]

/-- A text whose commas all stand between quotes has no comma outside quotes, and what is open
behind it is told by the number of its quotes. -/
theorem openBehind?_of_hidden {quoted : Bool} {text : List Char}
    (hidden : ∀ place < text.length, text[place]? = some ',' →
      isOpen quoted (text.take place) = true) :
    openBehind? quoted text = some (isOpen quoted text) := by
  induction text generalizing quoted with
  | nil => simp [openBehind?, isOpen]
  | cons c rest ih =>
    have inside : ¬(c = ',' ∧ quoted = false) := by
      rintro ⟨rfl, rfl⟩
      exact absurd (hidden 0 (by simp) rfl) (by simp [isOpen])
    rw [openBehind?, if_neg inside, isOpen_cons]
    apply ih
    intro place bound comma
    have own := hidden (place + 1) (by simpa using bound) comma
    rwa [List.take_succ_cons, isOpen_cons] at own

/-- Whether a place in a text has a comma at which no quote is open. -/
def separatesAt (quoted : Bool) (text : List Char) (place : Nat) : Bool :=
  decide (text[place]? = some ',' ∧ isOpen quoted (text.take place) = false)

/-- The commas that separate are those with an even number of quotes in front of them. -/
theorem countP_separatesAt (text : List Char) :
    (List.range text.length).countP (separatesAt false text) = outerCommas text := by
  rw [outerCommas]
  congr 1
  funext place
  rw [separatesAt, decide_eq_decide, isOpen, quotesBefore, Bool.false_xor, decide_eq_false_iff_not]
  exact and_congr_right fun _ => Nat.mod_two_ne_one

/-- The first character of a text separates if it is a comma and no quote is open; the others
separate as they do without it. -/
theorem countP_separatesAt_cons (quoted : Bool) (c : Char) (rest : List Char) :
    (List.range (c :: rest).length).countP (separatesAt quoted (c :: rest)) =
      (List.range rest.length).countP (separatesAt (if c = '\'' then !quoted else quoted) rest) +
        if c = ',' ∧ quoted = false then 1 else 0 := by
  have later : separatesAt quoted (c :: rest) ∘ Nat.succ =
      separatesAt (if c = '\'' then !quoted else quoted) rest := by
    funext place
    simp only [Function.comp_apply, separatesAt, Nat.succ_eq_add_one, List.getElem?_cons_succ,
      List.take_succ_cons, isOpen_cons]
  rw [List.length_cons, List.range_succ_eq_map, List.countP_cons, List.countP_map, later]
  simp [separatesAt, isOpen]

/-- The pieces of a text that is cut at commas are one more than the commas that separate. -/
theorem length_cutAtCommas (quoted : Bool) (text : List Char) :
    (cutAtCommas quoted text).length =
      (List.range text.length).countP (separatesAt quoted text) + 1 := by
  induction text generalizing quoted with
  | nil => rfl
  | cons c rest ih =>
    rw [countP_separatesAt_cons, cutAtCommas]
    by_cases cuts : c = ',' ∧ quoted = false
    · have state : (if c = '\'' then !quoted else quoted) = false := by simp [cuts.1, cuts.2]
      rw [if_pos cuts, if_pos cuts, state, List.length_cons, ih]
    · have count := ih (if c = '\'' then !quoted else quoted)
      rw [if_neg cuts, if_neg cuts]
      cases pieces : cutAtCommas (if c = '\'' then !quoted else quoted) rest with
      | nil => simp [pieces] at count
      | cons first others => simpa [pieces, Text.pushFront] using count

/-- An operand that stands alone has no comma outside quotes, and no quote is open behind it. -/
theorem StandsAlone.closed {operand : String} (alone : StandsAlone operand) :
    openBehind? false operand.toList = some false := by
  have hidden : ∀ place < operand.toList.length, operand.toList[place]? = some ',' →
      isOpen false (operand.toList.take place) = true := by
    intro place bound comma
    have odd := alone.hidden place bound comma
    rw [isOpen, Bool.false_xor, decide_eq_true_eq]
    exact odd
  rw [openBehind?_of_hidden hidden, isOpen, alone.paired]
  rfl

/-- Operands that stand alone are separate pieces of a field. -/
theorem separate_of_standsAlone {operands : List String} (filled : operands ≠ [])
    (each : ∀ operand ∈ operands, StandsAlone operand) :
    Separate false (operands.map String.toList) := by
  induction operands with
  | nil => exact absurd rfl filled
  | cons operand others ih =>
    rw [List.forall_mem_cons] at each
    cases others with
    | nil => simp [Separate, each.1.closed]
    | cons next further => exact ⟨each.1.closed, ih (by simp) each.2⟩

/-- Joining operands with commas inverts the cutting of a field: operands that stand alone are the
operands of the field that joins them.  Any field has one operand more than it has commas with an
even number of quotes in front of them. -/
theorem operandsIn_intercalate (operands : List String) (field : String) :
    (operands ≠ [] → (∀ operand ∈ operands, StandsAlone operand) →
        operandsIn (",".intercalate operands) = operands) ∧
      (operandsIn field).length = outerCommas field.toList + 1 := by
  constructor
  · intro filled each
    have joined : (",".intercalate operands).toList =
        [','].intercalate (operands.map String.toList) := String.toList_intercalate
    have trimmed : ∀ operand ∈ operands,
        ((fun piece => String.ofList (Text.trim piece)) ∘ String.toList) operand = id operand := by
      intro operand mem
      rw [Function.comp_apply, Text.trim_eq_self (each operand mem).head (each operand mem).last,
        String.ofList_toList, id]
    rw [operandsIn, joined, (separate_of_standsAlone filled each).cutAtCommas_intercalate,
      List.map_map, List.map_congr_left trimmed, List.map_id]
  · rw [operandsIn, List.length_map, length_cutAtCommas, countP_separatesAt]

/-- Operands with commas between quotes, with commas at their ends, and with nothing in them. -/
theorem operandsIn_intercalate_hidden :
    (∀ operand ∈ ["C'A,B'", "", "=C',,'", "X"], StandsAlone operand) ∧
      operandsIn "C'A,B',,=C',,',X" = ["C'A,B'", "", "=C',,'", "X"] ∧
      (operandsIn " C'A,B' , C',").length = 2 := by
  have each : ∀ operand ∈ ["C'A,B'", "", "=C',,'", "X"], StandsAlone operand := by decide
  obtain ⟨joins, count⟩ :=
    operandsIn_intercalate ["C'A,B'", "", "=C',,'", "X"] " C'A,B' , C',"
  refine ⟨each, joins (by simp) each, ?_⟩
  rw [count]
  decide

end TwoPass
