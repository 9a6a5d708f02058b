import TwoPass.Proofs.Passes
import TwoPass.Proofs.Grammar

/-!
# What the labels of a section stand for

A label stands for the address of the last item that has it, and the symbol table lists the labels in
the order of their first definition.  An item that gives its label a value looks only at the items in
front of it: its operand is the current location, a number, or an expression whose symbols stand for
the last definitions so far.  A symbol that has none stops the first pass.
-/

namespace TwoPass

/-- An item that gives a label a value has the instruction that does so. -/
theorem Item.exists_of_equates {item : Item} (equates : item.equates = true) :
    ∃ instruction, item.instruction = some instruction ∧
      instruction.action = .directive .equ := by
  simpa [Item.equates] using equates

namespace Layout

/-- The labels of some items, in order. -/
def labels (items : List Item) : List String := items.filterMap fun item => item.statement.label

/-- The labels of two rows of items are those of the first and then those of the second. -/
theorem labels_append (front back : List Item) :
    labels (front ++ back) = labels front ++ labels back := List.filterMap_append

/-- The labels of an item and of those behind it. -/
theorem labels_cons (item : Item) (rest : List Item) :
    labels (item :: rest) = item.statement.label.toList ++ labels rest := by
  cases own : item.statement.label with
  | none => simp [labels, own]
  | some label => simp [labels, own]

/-- The address of the last item with a label. -/
def latest? (items : List Item) (name : String) : Option Int :=
  (items.filter fun item => item.statement.label = some name).getLast?.map Item.location

/-- A further item is the last one with its label. -/
theorem latest?_concat (items : List Item) (item : Item) (name : String) :
    latest? (items ++ [item]) name =
      if item.statement.label = some name then some item.location else latest? items name := by
  rw [latest?, latest?, List.filter_append]
  by_cases own : item.statement.label = some name
  · simp [own]
  · simp [own]

/-- A label has an address exactly when some item has the label. -/
theorem isSome_latest?_iff {items : List Item} {name : String} :
    (latest? items name).isSome = true ↔ name ∈ labels items := by
  rw [latest?, labels, Option.isSome_map, List.mem_filterMap]
  simp

/-- The symbols once the label of an item has its address as value. -/
def define (symbols : SymbolTable) (item : Item) : SymbolTable :=
  item.statement.label.elim symbols fun label => symbols.put label item.location

/-- A symbol table that holds the labels of some items. -/
structure Defines (symbols : SymbolTable) (items : List Item) : Prop where
  /-- A label stands for the last item that has it. -/
  values : ∀ name, symbols.find? name = latest? items name
  /-- The labels are listed in the order of their first definition. -/
  names : symbols.keys = (labels items).eraseDups

/-- The empty table holds no labels. -/
theorem Defines.empty : Defines {} [] := ⟨fun _ => rfl, rfl⟩

/-- A further item defines its label. -/
theorem Defines.concat {symbols : SymbolTable} {items : List Item} (defines : Defines symbols items)
    (item : Item) : Defines (define symbols item) (items ++ [item]) := by
  cases label : item.statement.label with
  | none =>
    have same : define symbols item = symbols := by rw [define, label]; rfl
    rw [same]
    refine ⟨fun name => ?_, ?_⟩
    · rw [latest?_concat, label, if_neg (by simp), defines.values]
    · rw [defines.names, labels_append, labels_cons, label]
      simp [labels]
  | some own =>
    have put : define symbols item = symbols.put own item.location := by rw [define, label]; rfl
    rw [put]
    refine ⟨fun name => ?_, ?_⟩
    · rw [latest?_concat, label, OrderedMap.find?_put, defines.values]
      by_cases same : name = own
      · simp [same]
      · rw [if_neg same, if_neg fun equal => same (Option.some.inj equal).symm]
    · have further : labels (items ++ [item]) = labels items ++ [own] := by
        rw [labels_append, labels_cons, label]
        rfl
      rw [OrderedMap.keys_put, defines.names, further, eraseDups_concat]

variable {rules : Rules} {instruction : Instruction} {progress : Progress} {item : Item}

/-- A label that is not refused gets the address of its item as value. -/
theorem bindLabel_symbols {strict : Bool}
    (binds : (bindLabel strict progress item).result = .ok ()) :
    (bindLabel strict progress item).state.1.tables.symbols =
      define progress.tables.symbols item := by
  cases label : item.statement.label with
  | none => simp [bindLabel, define, label, Outcome.done]
  | some own =>
    rw [bindLabel, label] at binds ⊢
    rw [define, label]
    simp only at binds ⊢
    split at binds
    · cases binds
    · rfl

/-- A step that succeeds defines the label of the item that it writes, and nothing else. -/
theorem step_symbols (known : item.instruction = some instruction)
    (succeeds : (step rules progress item).result = .ok ()) :
    (step rules progress item).state.1.tables.symbols =
      define progress.tables.symbols (step rules progress item).state.2 := by
  have kept := (obeyed_kept instruction progress item).1
  rcases step_cases rules known progress with ⟨failure, _, _, fails⟩ |
    ⟨_, symbols, bound, ⟨failure, _, _, fails⟩ | ⟨binds, reached, _⟩⟩
  · rw [succeeds] at fails
    cases fails
  · rw [succeeds] at fails
    cases fails
  · have defined := bindLabel_symbols binds
    rw [bound, kept] at defined
    obtain ⟨literals, gathered⟩ := gatherLiterals_state _ _ _
    rw [reached, gathered]
    exact defined

/-- How an operand gives a label a value, where the symbols and the location counter have theirs. -/
inductive Equates (symbols : String → Option Int) (counter : Nat) (operand : String) : Int → Prop
  /-- A star stands for the location counter. -/
  | here (star : operand = "*") : Equates symbols counter operand counter
  /-- A number stands for itself. -/
  | number {value : Nat} (spelled : Operand.number? operand = some value) :
      Equates symbols counter operand value
  /-- A symbol or an expression is evaluated from left to right. -/
  | expression {value : Int}
      (shape : Operand.isSymbol operand = true ∨ Operand.isExpression operand = true)
      (evaluated : Expression.value symbols operand = .ok value) :
      Equates symbols counter operand value

/-- A value that a label is given comes from the first operand. -/
theorem equates_of_equated {symbols : SymbolTable} {counter : Nat} {statement : Statement}
    {value : Int} (found : equated symbols counter statement = .ok value) :
    ∃ operand, statement.first? = some operand ∧
      Equates symbols.find? counter operand value := by
  cases first : statement.first? with
  | none => simp [equated, first] at found
  | some operand =>
    refine ⟨operand, rfl, ?_⟩
    simp only [equated, first] at found
    by_cases star : operand = "*"
    · rw [if_pos star] at found
      cases found
      exact .here star
    · rw [if_neg star] at found
      cases numeral : Operand.numeral? operand with
      | some number =>
        simp only [numeral] at found
        cases number with
        | error failure => cases found
        | ok own =>
          cases found
          exact .number (Operand.number?_of_numeral? numeral)
      | none =>
        simp only [numeral] at found
        by_cases shape : (Operand.isSymbol operand || Operand.isExpression operand) = true
        · rw [if_pos shape, Expression.evaluate] at found
          cases evaluated : Expression.value symbols.find? operand with
          | error failure => simp [evaluated] at found
          | ok result =>
            simp only [evaluated, Except.ok.injEq] at found
            exact .expression (by simpa using shape) (found ▸ evaluated)
        · rw [if_neg shape] at found
          cases found

/-- An operand whose first symbol without value is known is refused for that symbol, unless a numeral
in front of it has too many digits. -/
theorem equated_of_firstUnknown {symbols : SymbolTable} {counter : Nat} {statement : Statement}
    {operand name : String} {before : List Term} (first : statement.first? = some operand)
    (shape : Operand.isSymbol operand = true ∨ Operand.isExpression operand = true)
    (unknown : Expression.FirstUnknown symbols.find? operand before name) :
    equated symbols counter statement =
      .error ((before.find? Term.isTooLong).elim (statement.failure (.undefinedSymbol name))
        fun numeral => .numeralTooLong numeral.name.length) := by
  have valid : (Operand.isSymbol operand || Operand.isExpression operand) = true := by
    simpa using shape
  rw [equated, first]
  simp only [Expression.ne_star_of_shape shape, if_false, Expression.numeral?_of_shape shape, valid,
    if_true, Expression.evaluate, unknown.value_eq shape]
  cases before.find? Term.isTooLong with
  | none => rfl
  | some numeral => rfl

/-- What an instruction does that gives a label a value. -/
theorem obeyed_of_equ (action : instruction.action = .directive .equ) (progress : Progress)
    (item : Item) : obeyed instruction progress item = equate progress (progress.locate item) := by
  have size : instruction.size = 0 := by simp [Instruction.size, action, Directive.size]
  simp [obeyed, obey, action, Progress.past, size]

/-- A step that gives a label a value gives the item the value of its operand as address. -/
theorem step_equates (known : item.instruction = some instruction)
    (action : instruction.action = .directive .equ)
    (succeeds : (step rules progress item).result = .ok ()) :
    ∃ operand, item.statement.first? = some operand ∧
      Equates progress.tables.symbols.find? progress.counter operand
        (step rules progress item).state.2.location := by
  obtain ⟨symbols, literals, reached⟩ := step_state rules known progress
  have obeys := obeyed_of_step known succeeds
  rw [reached]
  rw [obeyed_of_equ action, equate] at obeys ⊢
  cases found : equated progress.tables.symbols progress.counter item.statement with
  | error failure => simp [Progress.locate, found, Outcome.failed] at obeys
  | ok value =>
    simp only [Progress.locate, found, Outcome.done]
    exact equates_of_equated found

/-- A step fails where the label of its item gets no value. -/
theorem step_of_equated_error (known : item.instruction = some instruction)
    (action : instruction.action = .directive .equ) {failure : Failure}
    (fails : equated progress.tables.symbols progress.counter item.statement = .error failure) :
    (step rules progress item).result = .error failure := by
  have refused : (obeyed instruction progress item).result = .error failure := by
    rw [obeyed_of_equ action]
    simp [equate, Progress.locate, fails, Outcome.failed]
  rcases step_cases rules known progress with ⟨other, same, _, result⟩ | ⟨obeys, _⟩
  · rw [result, ← same, refused]
  · rw [refused] at obeys
    cases obeys

/-- Along a run the symbol table holds the labels of the items written so far. -/
theorem runs_defines {items done : List Item} {final : Progress}
    (run : Outcome.Runs (step rules) ⟨{}, 0⟩ items final done)
    (known : ∀ item ∈ items, item.instruction.isSome = true) :
    Defines final.tables.symbols done := by
  apply run.invariant (motive := fun _ written progress => Defines progress.tables.symbols written)
  · exact .empty
  · intro _ written progress item mem defines succeeds
    obtain ⟨instruction, found⟩ := Option.isSome_iff_exists.1 (known item mem)
    rw [step_symbols found succeeds]
    exact defines.concat _

/-- Along a run a label is given a value that depends on the items in front of it alone. -/
theorem runs_equates {items front back : List Item} {final : Progress}
    (run : Outcome.Runs (step rules) ⟨{}, 0⟩ items final (front ++ item :: back))
    (known : ∀ item ∈ items, item.instruction.isSome = true)
    (empty : ∀ item ∈ items, item.pool = []) (equates : item.equates = true) :
    ∃ operand, item.statement.first? = some operand ∧
      Equates (latest? front) (front.map Item.advance).sum operand item.location := by
  -- The item is written by a step behind a run over the items in front of it, so what holds along
  -- every run holds of those items.
  obtain ⟨before, read, after, reached, rfl, prior, succeeds, rfl⟩ := run.exists_step
  have earlier {other : Item} (mem : other ∈ before) : other ∈ before ++ read :: after :=
    List.mem_append_left _ mem
  obtain ⟨instruction, found⟩ :=
    Option.isSome_iff_exists.1 (known read (List.mem_append_right _ List.mem_cons_self))
  obtain ⟨location, pool, same⟩ := step_item rules found reached
  have action : instruction.action = .directive .equ := by
    rw [same] at equates
    simpa [Item.equates, found] using equates
  have defines := runs_defines prior fun other mem => known other (earlier mem)
  have counter := (runs_contiguous prior (fun other mem => known other (earlier mem))
    fun other mem => empty other (earlier mem)).2
  obtain ⟨operand, first, value⟩ := step_equates found action succeeds
  have symbols : reached.tables.symbols.find? = latest? front := funext defines.values
  rw [symbols, counter] at value
  refine ⟨operand, ?_, value⟩
  rw [same]
  exact first

end Layout

namespace Section

variable {directory : Directory} {part : Section}

/-- A section whose symbol table holds the labels of its items. -/
structure SymbolsDefined (part : Section) : Prop where
  /-- A name is in the table exactly when it is the label of some item. -/
  listed : ∀ name, part.symbols.contains name = true ↔
    ∃ item ∈ part.items, item.statement.label = some name
  /-- A label stands for the last item that has it, and the labels are listed in the order of their
  first definition. -/
  defines : Layout.Defines part.symbols part.items
  /-- A label that is given a value gets it from the items in front of it. -/
  equates : ∀ (front : List Item) (item : Item) (back : List Item),
    part.items = front ++ item :: back → item.equates = true →
      ∃ operand, item.statement.first? = some operand ∧
        Layout.Equates (Layout.latest? front) (front.map Item.advance).sum operand item.location

/-- A first pass over a fresh section that succeeds defines its labels. -/
theorem Fresh.symbolsDefined {rules : Rules} (fresh : part.Fresh directory)
    (lays : (part.layOut rules).result = .ok ()) : SymbolsDefined (part.layOut rules).state := by
  have run := fresh.runs lays
  have empty : ∀ item ∈ part.items, item.pool = [] := fun item mem => (fresh.items item mem).pool_eq
  have defines := Layout.runs_defines run fresh.known
  obtain ⟨header, state⟩ := layOut_state rules part
  rw [state]
  refine ⟨fun name => ?_, defines, ?_⟩
  · have defined := @Layout.isSome_latest?_iff (part.laying rules).state.2 name
    rw [OrderedMap.contains, defines.values, defined, Layout.labels, List.mem_filterMap]
  · intro front item back split equates
    simp only at split
    rw [split] at run
    exact Layout.runs_equates run fresh.known empty equates

/-- The front of a fresh section is fresh. -/
theorem Fresh.front (fresh : part.Fresh directory) {front back : List Item}
    (split : part.items = front ++ back) : Fresh directory { part with items := front } := by
  refine ⟨fresh.tables, fun item mem => fresh.items item ?_⟩
  rw [split]
  exact List.mem_append_left back mem

/-- The first pass stops at an item whose label gets no value from the items in front of it. -/
theorem Fresh.layOut_error {rules : Rules} (fresh : part.Fresh directory) {front back : List Item}
    {item : Item} (split : part.items = front ++ item :: back) (equates : item.equates = true)
    (lays : (layOut rules { part with items := front }).result = .ok ()) {failure : Failure}
    (fails : ∀ (symbols : SymbolTable) (counter : Nat),
      symbols.find? = Layout.latest? (layOut rules { part with items := front }).state.items →
        Layout.equated symbols counter item.statement = .error failure) :
    (part.layOut rules).result = .error failure := by
  have early := fresh.front split
  have run := early.runs lays
  have defines := Layout.runs_defines run early.known
  obtain ⟨header, state⟩ := layOut_state rules { part with items := front }
  rw [state] at fails
  obtain ⟨instruction, found, action⟩ := Item.exists_of_equates equates
  rw [layOut_result, laying, fresh.tables, split]
  apply run.sweep_error
  exact Layout.step_of_equated_error found action (fails _ _ (funext defines.values))

/-- A first pass over a fresh section that succeeds defines its labels.  If no item in front of one
that gives its label a value fails, and a symbol of the operand has no value yet, then the pass stops
at the first such symbol, unless a numeral in front of it has too many digits; an operand of no known
shape is refused. -/
theorem symbols_defined (fresh : part.Fresh directory) (rules : Rules) :
    ((part.layOut rules).result = .ok () → SymbolsDefined (part.layOut rules).state) ∧
      ∀ (front : List Item) (item : Item) (back : List Item) (operand : String),
        part.items = front ++ item :: back → item.equates = true →
        item.statement.first? = some operand →
        let earlier := layOut rules { part with items := front }
        earlier.result = .ok () →
        (Operand.isSymbol operand = true ∨ Operand.isExpression operand = true →
          ∀ before name,
            Expression.FirstUnknown (Layout.latest? earlier.state.items) operand before name →
            (part.layOut rules).result =
              .error ((before.find? Term.isTooLong).elim
                (item.statement.failure (.undefinedSymbol name))
                fun numeral => .numeralTooLong numeral.name.length)) ∧
        (operand ≠ "*" → Operand.isNumber operand = false → Operand.isSymbol operand = false →
          Operand.isExpression operand = false →
            (part.layOut rules).result =
              .error (item.statement.failure (.invalidEquate operand))) := by
  refine ⟨fresh.symbolsDefined, fun front item back operand split equates first lays => ⟨?_, ?_⟩⟩
  · intro shape before name unknown
    apply fresh.layOut_error split equates lays
    intro symbols counter same
    rw [← same] at unknown
    exact Layout.equated_of_firstUnknown first shape unknown
  · intro other unspelled unnamed plain
    apply fresh.layOut_error split equates lays
    intro symbols counter _
    have numeral : Operand.numeral? operand = none := by
      rw [Operand.numeral?, Option.map_eq_none_iff]
      simpa [Operand.isNumber] using unspelled
    simp [Layout.equated, first, other, numeral, unnamed, plain]

/-- A section whose labels are defined more than once and from one another. -/
def redefined : Section :=
  .ofStatements .builtin
    [.unplaced (some "A") "WORD" ["1"], .unplaced (some "B") "EQU" ["*"],
      .unplaced (some "A") "EQU" ["A+B*2"], .unplaced (some "C") "EQU" ["A-100"],
      .unplaced (some "B") "EQU" ["7"], .unplaced (some "A") "EQU" ["C/B"]]

/-- A section that stops at a symbol whose first definition is under way. -/
def selfReferring : Section :=
  .ofStatements .builtin
    [.unplaced (some "A") "EQU" ["5"], .unplaced (some "B") "EQU" ["A*2+B-C"],
      .unplaced (some "C") "EQU" ["1"]]

/-- Each definition sees the last ones in front of it, and none sees itself. -/
theorem symbols_defined_redefined :
    let reached := (redefined.layOut ⟨.builtin, false⟩).state
    redefined.Fresh .builtin ∧ (redefined.layOut ⟨.builtin, false⟩).result = .ok () ∧
      SymbolsDefined reached ∧ reached.symbols.entries = [("A", -13), ("B", 7), ("C", -94)] ∧
      selfReferring.Fresh .builtin ∧
      (selfReferring.layOut ⟨.builtin, false⟩).result =
        .error ((Statement.unplaced (some "B") "EQU" ["A*2+B-C"]).failure
          (.undefinedSymbol "B")) := by
  have fresh : redefined.Fresh .builtin := by decide +kernel
  have lays : (redefined.layOut ⟨.builtin, false⟩).result = .ok () := by decide +kernel
  have other : selfReferring.Fresh .builtin := by decide +kernel
  refine ⟨fresh, lays, (symbols_defined fresh ⟨.builtin, false⟩).1 lays, by decide +kernel, other, ?_⟩
  have stops := (symbols_defined other ⟨.builtin, false⟩).2 (selfReferring.items.take 1) _
    (selfReferring.items.drop 2) "A*2+B-C" rfl (by decide +kernel) (by decide +kernel)
    (by decide +kernel)
  exact stops.1 (by decide +kernel) [⟨none, "A"⟩, ⟨some .multiply, "2"⟩] "B"
    ⟨⟨some .add, [⟨some .subtract, "C"⟩], by decide +kernel⟩, by decide +kernel, by decide +kernel,
      by decide +kernel, by decide +kernel⟩

open Expression (nines isNumber_nines isTooLong_nines)

/-- The sum of a numeral and a symbol that is nowhere defined. -/
def sumOf (numeral : String) : String := numeral ++ "+NOWHERE"

/-- A section that asks for such a sum. -/
def summing (numeral : String) : Section :=
  .ofStatements .builtin [.unplaced (some "A") "EQU" [sumOf numeral]]

/-- The sum as a row of two terms. -/
def sumRow (count : Nat) : Expression.Row where
  first := nines count
  rest := [(.add, ⟨"NOWHERE", .inl (by decide)⟩)]

/-- The row is spelled as the sum. -/
theorem text_sumRow (count : Nat) : (sumRow count).text = sumOf (nines count).name := rfl

/-- The sum has two terms. -/
theorem split_sumOf_nines (count : Nat) :
    Expression.split (sumOf (nines count).name) =
      [⟨none, (nines count).name⟩, ⟨some .add, "NOWHERE"⟩] := by
  rw [← text_sumRow, Expression.Row.split_text]
  rfl

/-- The sum is an expression. -/
theorem isExpression_sumOf_nines (count : Nat) :
    Operand.isExpression (sumOf (nines count).name) = true := by
  rw [← text_sumRow]
  exact (sumRow count).isExpression_text (List.cons_ne_nil _ _)

/-- The symbol of the sum has no value, and no division comes in front of it. -/
theorem firstUnknown_sumOf_nines {count : Nat} (long : Text.digitLimit ≤ count) :
    Expression.FirstUnknown (Layout.latest? []) (sumOf (nines count).name)
      [⟨none, (nines count).name⟩] "NOWHERE" := by
  refine ⟨⟨some .add, [], split_sumOf_nines count⟩, by decide, rfl, ?_, ?_⟩
  · rw [List.forall_mem_singleton]
    intro symbol
    have none := Operand.numeral?_of_isSymbol symbol
    rw [Operand.numeral?, Option.map_eq_none_iff] at none
    have number := isNumber_nines count
    simp [Operand.isNumber, none] at number
  · have fails := @Expression.termValue_of_isTooLong (Layout.latest? []) _ (isTooLong_nines long)
    simp [Expression.valueFrom, Expression.step, fails, Failure.ofCause]

/-- The section that asks for the sum is fresh, and it stops at the numeral. -/
theorem layOut_summing {count : Nat} (long : Text.digitLimit ≤ count) :
    (summing (nines count).name).Fresh .builtin ∧
      ((summing (nines count).name).layOut ⟨.builtin, false⟩).result =
        .error (.numeralTooLong (nines count).name.length) := by
  -- The look-up is evaluated by itself, so that the numeral never is.
  have found : Directory.builtin.lookup "EQU" = some (.ofDirective .equ) := by decide +kernel
  have fresh : (summing (nines count).name).Fresh .builtin := by
    refine ⟨rfl, ?_⟩
    simp [summing, ofStatements, Statement.unplaced, Item.Fresh, found, Statement.resolve,
      Instruction.ofDirective, Directive.neededOperands]
  have split : (summing (nines count).name).items = [] ++ _ :: [] := rfl
  have equates : Item.equates { statement := .unplaced (some "A") "EQU" [sumOf (nines count).name]
                                instruction := Directory.builtin.lookup "EQU" } = true := by
    simp [Item.equates, found, Instruction.ofDirective]
  refine ⟨fresh, fresh.layOut_error split equates rfl ?_⟩
  intro symbols counter same
  have here : symbols.find? = Layout.latest? [] := same
  have unknown := firstUnknown_sumOf_nines long
  rw [← here] at unknown
  rw [Layout.equated_of_firstUnknown rfl (.inr (isExpression_sumOf_nines count)) unknown,
    List.find?_cons_of_pos (isTooLong_nines long), Option.elim_some]

/-- An operand is a sum with a numeral of one digit more than are read.  Its symbol has no value, and
no division comes in front of it, but the first pass does not stop at the symbol. -/
theorem layOut_summing_limit :
    let numeral := (nines Text.digitLimit).name
    (summing numeral).Fresh .builtin ∧ Operand.isExpression (sumOf numeral) = true ∧
      Expression.FirstUnknown (Layout.latest? []) (sumOf numeral) [⟨none, numeral⟩] "NOWHERE" ∧
      ((summing numeral).layOut ⟨.builtin, false⟩).result ≠
        .error ((Statement.unplaced (some "A") "EQU" [sumOf numeral]).failure
          (.undefinedSymbol "NOWHERE")) := by
  obtain ⟨fresh, result⟩ := layOut_summing (Nat.le_refl Text.digitLimit)
  refine ⟨fresh, isExpression_sumOf_nines _, firstUnknown_sumOf_nines (Nat.le_refl _), ?_⟩
  rw [result, Statement.failure, Failure.ofDiagnostic]
  intro same
  split at same <;> cases same

end Section

end TwoPass
