import TwoPass.Proofs.Passes

/-!
# Where the items of a section lie

`Item.Advances` lists by how many bytes each kind of item moves the location counter on.  After a first
pass that succeeds the address of an item is the sum of what the items in front of it take up, unless
the item gives a label a value of its own, and the length of the section is the sum over all items.  So
the addresses never decrease and never exceed the length.
-/

namespace TwoPass

namespace Item

/-- By how many bytes an item moves the location counter on. -/
inductive Advances (item : Item) : Nat → Prop
  /-- A machine instruction takes up the bytes of its format. -/
  | machine {format : Format} {opcode : Int}
      (action : item.instruction.map Instruction.action = some (.machine format opcode)) :
      Advances item format.size
  /-- A byte of data is one byte. -/
  | byte (action : item.instruction.map Instruction.action = some (.directive .byte)) :
      Advances item 1
  /-- A word of data is three bytes. -/
  | word (action : item.instruction.map Instruction.action = some (.directive .word)) :
      Advances item 3
  /-- Reserved words are three bytes each, as many as the first operand says. -/
  | words {operand : String} {number : Nat}
      (action : item.instruction.map Instruction.action = some (.directive .resw))
      (first : item.statement.first? = some operand)
      (spelled : Operand.number? operand = some number) : Advances item (3 * number)
  /-- Reserved bytes are as many as the first operand says. -/
  | bytes {operand : String} {number : Nat}
      (action : item.instruction.map Instruction.action = some (.directive .resb))
      (first : item.statement.first? = some operand)
      (spelled : Operand.number? operand = some number) : Advances item number
  /-- Where literals are placed, they take up their bytes. -/
  | pool {lengths : List Nat} (places : item.placesLiterals = true)
      (sizes : item.pool.mapM Form.byteLengthOf = .ok lengths) : Advances item lengths.sum
  /-- The other directives take up nothing. -/
  | nothing {directive : Directive}
      (action : item.instruction.map Instruction.action = some (.directive directive))
      (other : directive ∈ [.start, .csect, .extdef, .extref, .equ]) : Advances item 0

/-- Whether an item reserves space. -/
def reservesSpace (item : Item) : Bool :=
  item.instruction.any fun instruction =>
    instruction.action = .directive .resw || instruction.action = .directive .resb

/-- Whether the first operand of an item is a number. -/
def IsCounted (item : Item) : Prop :=
  ∃ operand number, item.statement.first? = some operand ∧ Operand.number? operand = some number

/-- What an item takes up that is laid out is by how much its kind moves the location counter on. -/
theorem LaidOut.advances {literals : LiteralTable} {item : Item} (laid : item.LaidOut literals)
    (counted : item.reservesSpace = true → item.IsCounted) : item.Advances item.advance := by
  obtain ⟨instruction, known⟩ := Option.isSome_iff_exists.1 laid.known
  have does : item.instruction.map Instruction.action = some instruction.action := by rw [known]; rfl
  have places : item.placesLiterals = instruction.placesLiterals := by simp [placesLiterals, known]
  have whole : item.advance = instruction.size + (item.pool.map Form.lengthOf).sum +
      instruction.reservedUnit * item.count := by
    simp [advance, filled, size, reserved, known]
  have pooled (asks : instruction.placesLiterals = true) : item.Advances item.advance := by
    obtain ⟨size, unit, _⟩ := Instruction.plain_of_places asks
    rw [whole, size, unit, Nat.zero_mul, Nat.add_zero, Nat.zero_add]
    exact .pool (places.trans asks) (Layout.mapM_byteLengthOf laid.storable)
  have alone (none : instruction.placesLiterals = false) :
      item.advance = instruction.size + instruction.reservedUnit * item.count := by
    rw [whole, laid.plain (places.trans none), List.map_nil, List.sum_nil, Nat.add_zero]
  have spelled (reserves : instruction.action = .directive .resw ∨
      instruction.action = .directive .resb) :
      ∃ operand, item.statement.first? = some operand ∧
        Operand.number? operand = some item.count := by
    obtain ⟨operand, number, first, value⟩ :=
      counted (by simpa [reservesSpace, known] using reserves)
    exact ⟨operand, first, by simp [count, first, value]⟩
  -- Once the action is a constructor, the size of the instruction and what it reserves compute.
  obtain ⟨mnemonic, action, neededOperands, opensSection⟩ := instruction
  cases action with
  | machine format opcode =>
    have own : item.advance = format.size + 0 * item.count := alone rfl
    rw [own, Nat.zero_mul]
    exact .machine does
  | directive directive =>
    cases directive with
    | ltorg => exact pooled rfl
    | finish => exact pooled rfl
    | byte =>
      have one : item.advance = 1 + 0 * item.count := alone rfl
      rw [one, Nat.zero_mul]
      exact .byte does
    | word =>
      have three : item.advance = 3 + 0 * item.count := alone rfl
      rw [three, Nat.zero_mul]
      exact .word does
    | resw =>
      have words : item.advance = 0 + 3 * item.count := alone rfl
      obtain ⟨operand, first, value⟩ := spelled (.inl rfl)
      rw [words, Nat.zero_add]
      exact .words does first value
    | resb =>
      have bytes : item.advance = 0 + 1 * item.count := alone rfl
      obtain ⟨operand, first, value⟩ := spelled (.inr rfl)
      rw [bytes, Nat.zero_add, Nat.one_mul]
      exact .bytes does first value
    | start | csect | extdef | extref | equ =>
      have nothing : item.advance = 0 + 0 * item.count := alone rfl
      rw [nothing, Nat.zero_mul]
      exact .nothing does (by decide)

end Item

namespace Layout

variable {rules : Rules} {instruction : Instruction} {progress : Progress} {item : Item}

/-- Space is reserved only by an item whose first operand is a number. -/
theorem isCounted_of_step (known : item.instruction = some instruction)
    (succeeds : (step rules progress item).result = .ok ()) (reserves : item.reservesSpace = true) :
    item.IsCounted := by
  have obeys := obeyed_of_step known succeeds
  rw [obeyed] at obeys
  have counts {width : Nat} {past : Progress}
      (reserved : (reserve width instruction past (progress.locate item)).result = .ok ()) :
      item.IsCounted := by
    rw [reserve] at reserved
    split at reserved
    · rename_i number accepted
      obtain ⟨operand, first, value⟩ := spelled_of_operandNumber accepted
      exact ⟨operand, number, first, value⟩
    · cases reserved
  rw [Item.reservesSpace, known] at reserves
  rcases (by simpa using reserves : instruction.action = .directive .resw ∨
    instruction.action = .directive .resb) with action | action
  · simp only [obey, action] at obeys
    exact counts obeys
  · simp only [obey, action] at obeys
    exact counts obeys

/-- An item behind others lies behind what they take up. -/
theorem Contiguous.location_eq {address : Nat} {front back : List Item}
    (laid : Contiguous address (front ++ item :: back)) (own : item.equates = false) :
    item.location = (address + (front.map Item.advance).sum : Nat) := by
  induction front generalizing address with
  | nil => simpa using laid.1 own
  | cons first rest ih =>
    rw [ih laid.2, List.map_cons, List.sum_cons, Nat.add_assoc]

/-- Of items that lie one behind the other, the addresses never decrease. -/
theorem Contiguous.ordered {address : Nat} {items : List Item} (laid : Contiguous address items) :
    ((items.filter fun item => !item.equates).map Item.location).Pairwise (· ≤ ·) := by
  induction items generalizing address with
  | nil => exact .nil
  | cons first rest ih =>
    cases own : first.equates with
    | true => simpa [own] using ih laid.2
    | false =>
      simp only [List.filter_cons, own, Bool.not_false, if_true, List.map_cons]
      refine .cons ?_ (ih laid.2)
      intro place listed
      obtain ⟨item, kept, rfl⟩ := List.mem_map.1 listed
      obtain ⟨mem, plain⟩ := List.mem_filter.1 kept
      obtain ⟨front, back, rfl⟩ := List.append_of_mem mem
      have behind := laid.2.location_eq (by simpa using plain : item.equates = false)
      have here := laid.1 own
      omega

end Layout

namespace Section

/-- A section whose location counter was kept: it counts what each item takes up. -/
structure Counted (part : Section) : Prop where
  /-- Every item takes up what its kind says. -/
  advances : ∀ item ∈ part.items, item.Advances item.advance
  /-- An item lies behind what the items in front of it take up, unless it gives a label a value. -/
  locations : ∀ (front : List Item) (item : Item) (back : List Item),
    part.items = front ++ item :: back → item.equates = false →
      item.location = ((front.map Item.advance).sum : Nat)
  /-- The section is as long as what all items take up. -/
  length : part.header.length = ((part.items.map Item.advance).sum : Nat)
  /-- The addresses never decrease. -/
  ordered : ((part.items.filter fun item => !item.equates).map Item.location).Pairwise (· ≤ ·)
  /-- No address exceeds the length. -/
  bounded : ∀ item ∈ part.items, item.equates = false →
    0 ≤ item.location ∧ item.location ≤ part.header.length

variable {directory : Directory} {part : Section} {rules : Rules}

/-- In a section that is laid out the address of an item is the sum of what the items in front of it
take up, so the addresses are in order and inside the section. -/
theorem LaidOut.counted (laid : part.LaidOut)
    (spelled : ∀ item ∈ part.items, item.reservesSpace = true → item.IsCounted) : part.Counted := by
  have locations (front : List Item) (item : Item) (back : List Item)
      (split : part.items = front ++ item :: back) (own : item.equates = false) :
      item.location = ((front.map Item.advance).sum : Nat) := by
    have contiguous := laid.contiguous
    rw [split] at contiguous
    rw [contiguous.location_eq own, Nat.zero_add]
  refine ⟨fun item mem => (laid.items item mem).advances (spelled item mem), locations, laid.length,
    laid.contiguous.ordered, ?_⟩
  intro item mem own
  obtain ⟨front, back, split⟩ := List.append_of_mem mem
  rw [locations front item back split own, laid.length, split]
  simp only [List.map_append, List.map_cons, List.sum_append, List.sum_cons]
  omega

/-- Where the first pass succeeds, the items that reserve space have a number as first operand. -/
theorem Fresh.isCounted (fresh : part.Fresh directory) (lays : (part.layOut rules).result = .ok ()) :
    ∀ item ∈ (part.layOut rules).state.items, item.reservesSpace = true → item.IsCounted := by
  have rows : List.Forall₂ (fun _ laid : Item => laid.reservesSpace = true → laid.IsCounted)
      part.items (part.laying rules).state.2 := by
    apply (fresh.runs lays).forall₂
    intro progress item mem succeeds
    obtain ⟨instruction, known⟩ := Option.isSome_iff_exists.1 (fresh.known item mem)
    obtain ⟨location, pool, same⟩ := Layout.step_item rules known progress
    rw [same]
    exact @Layout.isCounted_of_step rules instruction progress item known succeeds
  obtain ⟨header, state⟩ := layOut_state rules part
  intro item mem
  rw [state] at mem
  obtain ⟨_, _, counted⟩ := exists_mem_of_forall₂ rows mem
  exact counted

/-- A first pass over a fresh section that succeeds keeps the location counter: the items are the same
statements, and each lies behind what the items in front of it take up. -/
theorem locations_counted (fresh : part.Fresh directory)
    (lays : (part.layOut rules).result = .ok ()) :
    let reached := (part.layOut rules).state
    (reached.items.map fun item => (item.statement, item.instruction)) =
        part.items.map (fun item => (item.statement, item.instruction)) ∧
      reached.Counted :=
  ⟨layOut_kept fresh.known rules, (fresh.laidOut lays).counted (fresh.isCounted lays)⟩

/-- A section with items of every kind. -/
def everyKind : Section :=
  .ofStatements .builtin
    [.unplaced (some "MAIN") "START" ["4096"], .unplaced none "EXTREF" ["FAR"],
      .unplaced none "EXTDEF" ["LAST"], .unplaced (some "FIRST") "LDA" ["=C'EOF'"],
      .unplaced none "+JSUB" ["FAR"], .unplaced none "CLEAR" ["X"], .unplaced none "FIX" [],
      .unplaced (some "BIG") "EQU" ["4096"], .unplaced none "LTORG" [],
      .unplaced (some "BUFFER") "RESW" ["2"], .unplaced (some "SIZE") "EQU" ["FIRST-BUFFER"],
      .unplaced none "RESB" ["5"], .unplaced none "BYTE" ["X'F1'"], .unplaced none "LDA" ["=X'0507'"],
      .unplaced (some "LAST") "WORD" ["3"], .unplaced none "END" ["FIRST"]]

/-- The labels that are given a value lie outside the order of the addresses and move nothing. -/
theorem locations_counted_everyKind :
    let reached := (everyKind.layOut ⟨.builtin, true⟩).state
    everyKind.Fresh .builtin ∧ (everyKind.layOut ⟨.builtin, true⟩).result = .ok () ∧
      reached.Counted ∧
      reached.items.map Item.location =
        [0, 0, 0, 0, 3, 7, 9, 4096, 10, 13, -13, 19, 24, 25, 28, 31] ∧
      reached.header.length = 33 := by
  have fresh : everyKind.Fresh .builtin := by decide +kernel
  have lays : (everyKind.layOut ⟨.builtin, true⟩).result = .ok () := by decide +kernel
  exact ⟨fresh, lays, (locations_counted fresh lays).2, by decide +kernel, by decide +kernel⟩

end Section

end TwoPass
