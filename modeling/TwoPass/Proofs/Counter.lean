import TwoPass.Proofs.Pooling

/-!
# The location counter

Each item takes up a number of bytes: those of its instruction, those that it reserves, and those of
its pool.  The first pass lays the items out one behind the other, so the address of an item is the
sum of what the items in front of it take up, and the length of the section is the sum over all.
Only an item that gives a label a value has an address of its own.
-/

namespace TwoPass

namespace Item

/-- The number in the first operand of an item; an operand that is no number counts for nothing. -/
def count (item : Item) : Nat := (item.statement.first?.bind Operand.number?).getD 0

/-- The number of bytes that an item reserves without giving them a value. -/
def reserved (item : Item) : Nat :=
  (item.instruction.map Instruction.reservedUnit).getD 0 * item.count

/-- The number of bytes that the instruction of an item takes up. -/
def size (item : Item) : Nat := (item.instruction.map Instruction.size).getD 0

/-- The number of bytes to which an item gives a value: those of its instruction and those of its
pool. -/
def filled (item : Item) : Nat := item.size + (item.pool.map Form.lengthOf).sum

/-- The number of bytes that an item takes up, once its literals are placed. -/
def advance (item : Item) : Nat := item.filled + item.reserved

/-- Whether an item gives a label a value of its own. -/
def equates (item : Item) : Bool :=
  item.instruction.map Instruction.action = some (.directive .equ)

end Item

namespace Layout

variable {instruction : Instruction} {progress : Progress} {item : Item}

/-- A parameter that is accepted is the number that the first operand spells. -/
theorem spelled_of_operandNumber {statement : Statement} {number : Nat}
    (accepted : operandNumber instruction statement = .ok number) :
    ∃ operand, statement.first? = some operand ∧ Operand.number? operand = some number := by
  rw [operandNumber] at accepted
  split at accepted
  · rename_i read found
    obtain ⟨operand, first, numeral⟩ := Option.bind_eq_some_iff.1 found
    obtain ⟨value, spelled, limited⟩ := Option.map_eq_some_iff.1 numeral
    rw [accepted] at limited
    split at limited
    · cases limited
    · cases limited
      exact ⟨operand, first, spelled⟩
  · cases accepted

/-- A parameter that is accepted is what the item counts. -/
theorem count_of_operandNumber {number : Nat}
    (accepted : operandNumber instruction item.statement = .ok number) : item.count = number := by
  obtain ⟨operand, first, spelled⟩ := spelled_of_operandNumber accepted
  simp [Item.count, first, spelled]

/-- Reserving space moves the location counter by the number in the first operand. -/
theorem counter_of_reserve {width : Nat}
    (succeeds : (reserve width instruction progress item).result = .ok ()) :
    (reserve width instruction progress item).state =
      ({ progress with counter := progress.counter + width * item.count }, item) := by
  rw [reserve] at succeeds ⊢
  split at succeeds
  · rename_i number accepted
    rw [count_of_operandNumber accepted]
    rfl
  · cases succeeds

/-- Whether items lie one behind the other from an address on; an item that gives a label a value
has an address of its own. -/
def Contiguous (address : Nat) : List Item → Prop
  | [] => True
  | item :: rest =>
    (item.equates = false → item.location = address) ∧ Contiguous (address + item.advance) rest

/-- A further item lies behind all others. -/
theorem contiguous_concat {address : Nat} {items : List Item} (item : Item)
    (front : Contiguous address items)
    (last : item.equates = false →
      item.location = (address + (items.map Item.advance).sum : Nat)) :
    Contiguous address (items ++ [item]) := by
  induction items generalizing address with
  | nil => exact ⟨by simpa using last, trivial⟩
  | cons first rest ih =>
    refine ⟨front.1, ih front.2 ?_⟩
    intro own
    rw [last own, List.map_cons, List.sum_cons, Nat.add_assoc]

/-- An instruction that places no literals moves the location counter past the bytes that its item
reserves, and changes the address of an item only to give a label a value. -/
theorem obey_counter (known : item.instruction = some instruction)
    (plain : instruction.placesLiterals = false)
    (succeeds : (obey instruction progress item).result = .ok ()) :
    (obey instruction progress item).state.1.counter = progress.counter + item.reserved ∧
      ∃ location, (obey instruction progress item).state.2 = { item with location } ∧
        (item.equates = false → location = item.location) := by
  have reserved : item.reserved = instruction.reservedUnit * item.count := by
    rw [Item.reserved, known]
    rfl
  have unmoved (state : Progress × Item) (nothing : instruction.reservedUnit = 0)
      (counter : state.1.counter = progress.counter) (kept : state.2 = item) :
      state.1.counter = progress.counter + item.reserved ∧
        ∃ location, state.2 = { item with location } ∧
          (item.equates = false → location = item.location) := by
    rw [counter, kept, reserved, nothing, Nat.zero_mul]
    exact ⟨rfl, item.location, rfl, fun _ => rfl⟩
  have deed := obey_cases instruction progress item
  generalize obey instruction progress item = outcome at deed succeeds ⊢
  cases deed with
  | code holds => exact unmoved _ (Instruction.size_pos_of_holdsCode holds).2 rfl rfl
  | opening directive action opens =>
    obtain ⟨header, reached⟩ := nameSection_state directive instruction progress item
    rw [reached]
    refine unmoved _ ?_ rfl rfl
    rcases opens with rfl | rfl <;> simp [Instruction.reservedUnit, action]
  | exporting action => exact unmoved _ (by simp [Instruction.reservedUnit, action]) rfl rfl
  | importing action => exact unmoved _ (by simp [Instruction.reservedUnit, action]) rfl rfl
  | reserving action =>
    rw [counter_of_reserve succeeds, reserved]
    exact ⟨rfl, item.location, rfl, fun _ => rfl⟩
  | equating action =>
    obtain ⟨location, reached⟩ := equate_state progress item
    have nothing : instruction.reservedUnit = 0 := by simp [Instruction.reservedUnit, action]
    rw [reached, reserved, nothing, Nat.zero_mul]
    refine ⟨rfl, location, rfl, fun own => ?_⟩
    simp [Item.equates, known, action] at own
  | placing places =>
    rw [plain] at places
    cases places

/-- An instruction takes up the bytes that its item counts, and the item stands in front of them
unless it gives a label a value. -/
theorem obeyed_counter {done : List Item} (pooled : Pooled done progress.tables.literals)
    (known : item.instruction = some instruction) (empty : item.pool = [])
    (succeeds : (obeyed instruction progress item).result = .ok ()) :
    let reached := (obeyed instruction progress item).state
    reached.1.counter = progress.counter + reached.2.advance ∧
      (reached.2.equates = false → reached.2.location = progress.counter) := by
  rw [obeyed] at succeeds ⊢
  cases places : instruction.placesLiterals with
  | false =>
    have kept : (progress.locate item).instruction = some instruction := known
    obtain ⟨counter, location, reached, own⟩ := obey_counter kept places succeeds
    have same (location : Int) :
        ({ progress.locate item with location } : Item).advance =
          instruction.size + (progress.locate item).reserved := by
      simp [Item.advance, Item.filled, Item.size, Item.reserved, Item.count, Progress.locate, known,
        empty]
    simp only [counter, reached, same]
    exact ⟨Nat.add_assoc _ _ _, own⟩
  | true =>
    have storable : ∀ literal ∈ progress.tables.literals.unplaced, Form.Storable literal.text :=
      fun literal waiting => pooled.storable literal (List.mem_of_mem_filter waiting)
    have different := pooled.different
    rw [pooled.ordered] at different
    have start : (progress.past instruction).tables.literals.entries =
        progress.tables.literals.placed ++ progress.tables.literals.unplaced := pooled.ordered
    obtain ⟨_, state⟩ := @fillPool_eq (progress.past instruction) (progress.locate item) _ _ start
      different storable
    obtain ⟨nothing, unit, _⟩ := Instruction.plain_of_places places
    have waiting : (progress.past instruction).tables.literals.unplaced =
        progress.tables.literals.unplaced := rfl
    rw [obey_of_places places, waiting, state]
    refine ⟨?_, fun _ => rfl⟩
    simp [Item.advance, Item.filled, Item.size, Item.reserved, Progress.past, Progress.locate, known,
      empty, nothing, unit, Function.comp_def]

/-- A step moves the location counter past the item that it writes. -/
theorem step_counter {rules : Rules} {done : List Item}
    (pooled : Pooled done progress.tables.literals) (known : item.instruction = some instruction)
    (empty : item.pool = []) (succeeds : (step rules progress item).result = .ok ()) :
    let reached := (step rules progress item).state
    reached.1.counter = progress.counter + reached.2.advance ∧
      (reached.2.equates = false → reached.2.location = progress.counter) := by
  obtain ⟨symbols, literals, reached⟩ := step_state rules known progress
  rw [reached]
  exact obeyed_counter pooled known empty (obeyed_of_step known succeeds)

/-- A run of the first pass lays fresh items out one behind the other, and the location counter ends
behind the last of them. -/
theorem runs_contiguous {rules : Rules} {items done : List Item} {final : Progress}
    (run : Outcome.Runs (step rules) ⟨{}, 0⟩ items final done)
    (known : ∀ item ∈ items, item.instruction.isSome = true)
    (empty : ∀ item ∈ items, item.pool = []) :
    Contiguous 0 done ∧ final.counter = (done.map Item.advance).sum := by
  have pooled_and_laid : Pooled done final.tables.literals ∧ Contiguous 0 done ∧
      final.counter = (done.map Item.advance).sum := by
    apply run.invariant (motive := fun _ written progress =>
      Pooled written progress.tables.literals ∧ Contiguous 0 written ∧
        progress.counter = (written.map Item.advance).sum)
    · exact ⟨Pooled.empty, trivial, rfl⟩
    · rintro read written progress item mem ⟨pooled, laid, counter⟩ succeeds
      obtain ⟨instruction, found⟩ := Option.isSome_iff_exists.1 (known item mem)
      obtain ⟨later, _⟩ := step_pooled pooled (empty item mem) found rules
      obtain ⟨moved, located⟩ := step_counter pooled found (empty item mem) succeeds
      refine ⟨later, contiguous_concat _ laid ?_, ?_⟩
      · intro own
        rw [located own, counter, Nat.zero_add]
      · rw [moved, counter]
        simp
  exact pooled_and_laid.2

end Layout

end TwoPass
