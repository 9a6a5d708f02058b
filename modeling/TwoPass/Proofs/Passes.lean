import TwoPass.Assembly
import TwoPass.Proofs.Code
import TwoPass.Proofs.Counter
import TwoPass.Proofs.LiteralPools

/-!
# What both passes leave

After both passes over a fresh section every item that holds code has it, in the width that the first
pass left room for, every literal in a pool has its place, and the items lie one behind the other up
to the length of the section.  The passes over a row of sections are those over each section, and a
source is assembled when it can be read, when they succeed, and when the object program can be
written.
-/

namespace TwoPass

/-- A member of the second of two related rows is related to a member of the first. -/
theorem exists_mem_of_forall₂ {α β : Type} {related : α → β → Prop} {left : List α} {right : List β}
    (rows : List.Forall₂ related left right) {value : β} (mem : value ∈ right) :
    ∃ source ∈ left, related source value := by
  induction rows with
  | nil => cases mem
  | cons head _ ih =>
    rcases List.mem_cons.1 mem with rfl | later
    · exact ⟨_, List.mem_cons_self, head⟩
    · obtain ⟨source, inside, holds⟩ := ih later
      exact ⟨source, List.mem_cons_of_mem _ inside, holds⟩

/-- Two related rows look alike where related members do. -/
theorem map_eq_of_forall₂ {α β : Type} {related : α → α → Prop} {left right : List α} {view : α → β}
    (rows : List.Forall₂ related left right)
    (alike : ∀ source value, related source value → view value = view source) :
    right.map view = left.map view := by
  induction rows with
  | nil => rfl
  | cons head _ ih => rw [List.map_cons, List.map_cons, alike _ _ head, ih]

/-- An item over which both passes have been. -/
structure Item.Ready (literals : LiteralTable) (item : Item) : Prop where
  /-- The instruction is known. -/
  known : item.instruction.isSome = true
  /-- An item that holds code has as much of it as its instruction takes up. -/
  code : item.holdsCode = true → ∃ code, item.code = some code ∧
    Encoding.Bytes item.size code.toList
  /-- Every other item has none. -/
  bare : item.holdsCode = false → item.code = none
  /-- Literals are placed only where they are asked for. -/
  plain : item.placesLiterals = false → item.pool = []
  /-- The pool is laid out from the address of the item on. -/
  laid : literals.Laid item.location item.pool
  /-- The literals of the pool can be written. -/
  storable : ∀ text ∈ item.pool, Form.Storable text

/-- An item that the first pass has laid out, and that the second may or may not have encoded. -/
structure Item.LaidOut (literals : LiteralTable) (item : Item) : Prop where
  /-- The instruction is known. -/
  known : item.instruction.isSome = true
  /-- Only an item that holds code has any, and as much of it as its instruction takes up. -/
  code : ∀ code, item.code = some code →
    item.holdsCode = true ∧ Encoding.Bytes item.size code.toList
  /-- Literals are placed only where they are asked for. -/
  plain : item.placesLiterals = false → item.pool = []
  /-- The pool is laid out from the address of the item on. -/
  laid : literals.Laid item.location item.pool
  /-- The literals of the pool can be written. -/
  storable : ∀ text ∈ item.pool, Form.Storable text

/-- An item over which both passes have been is laid out. -/
theorem Item.Ready.laidOut {literals : LiteralTable} {item : Item} (ready : item.Ready literals) :
    item.LaidOut literals := by
  refine ⟨ready.known, fun code written => ?_, ready.plain, ready.laid, ready.storable⟩
  cases holds : item.holdsCode with
  | false => cases (ready.bare holds).symm.trans written
  | true =>
    obtain ⟨own, found, bytes⟩ := ready.code holds
    obtain rfl : own = code := Option.some.inj (found.symm.trans written)
    exact ⟨rfl, bytes⟩

/-- A section that the first pass has laid out, and that the second may or may not have encoded. -/
structure Section.LaidOut (part : Section) : Prop where
  /-- Every item is laid out. -/
  items : ∀ item ∈ part.items, item.LaidOut part.literals
  /-- The items lie one behind the other. -/
  contiguous : Layout.Contiguous 0 part.items
  /-- The section ends behind the last item. -/
  length : part.header.length = ((part.items.map Item.advance).sum : Nat)

/-- A section over which both passes have been. -/
structure Section.Assembled (part : Section) : Prop where
  /-- Both passes have been over every item. -/
  items : ∀ item ∈ part.items, item.Ready part.literals
  /-- The items lie one behind the other. -/
  contiguous : Layout.Contiguous 0 part.items
  /-- The section ends behind the last item. -/
  length : part.header.length = ((part.items.map Item.advance).sum : Nat)

/-- A section over which both passes have been is laid out. -/
theorem Section.Assembled.laidOut {part : Section} (assembled : part.Assembled) : part.LaidOut :=
  ⟨fun item mem => (assembled.items item mem).laidOut, assembled.contiguous, assembled.length⟩

/-- Encoding an item that the first pass has laid out makes it ready. -/
theorem Item.ready_of_encode {directory : Directory} {tables : Tables} {literals : LiteralTable}
    {item : Item} {instruction : Instruction} (known : item.instruction = some instruction)
    (byte : instruction.hasByteOpcode = true) (bare : item.code = none)
    (plain : item.placesLiterals = false → item.pool = [])
    (laid : literals.Laid item.location item.pool)
    (storable : ∀ text ∈ item.pool, Form.Storable text)
    (succeeds : (item.encode directory tables).result = .ok ()) :
    (item.encode directory tables).state.1.Ready literals := by
  obtain ⟨flags, code, byteSize, same⟩ := encode_item known directory tables
  have holds : (item.encode directory tables).state.1.holdsCode = instruction.holdsCode := by
    simp [same, holdsCode, known]
  have size : (item.encode directory tables).state.1.size = instruction.size := by
    simp [same, Item.size, known]
  refine ⟨?_, ?_, ?_, ?_, ?_, ?_⟩
  · simp [same, known]
  · intro own
    rw [holds] at own
    rw [size]
    exact encode_bytes known byte own succeeds
  · intro none
    rw [holds] at none
    rw [encode_plain known none, withOwnCode, bare]
    exact bare
  · rw [same]
    exact plain
  · rw [same]
    exact laid
  · rw [same]
    exact storable

namespace Layout

/-- Items with the same instructions, operands, addresses and pools lie alike. -/
theorem Contiguous.encoded {items done : List Item} {address : Nat}
    (laid : Contiguous address items)
    (same : List.Forall₂ (fun item other : Item => ∃ flags code byteSize,
      other = { item with flags, code, byteSize }) items done) :
    Contiguous address done ∧ done.map Item.advance = items.map Item.advance := by
  induction same generalizing address with
  | nil => exact ⟨trivial, rfl⟩
  | cons head _ ih =>
    obtain ⟨own, further⟩ := laid
    obtain ⟨flags, code, byteSize, rfl⟩ := head
    obtain ⟨rest, sums⟩ := ih further
    exact ⟨⟨own, rest⟩, by rw [List.map_cons, List.map_cons, sums]; rfl⟩

end Layout

namespace Section

variable {directory : Directory} {part : Section} {rules : Rules}

/-- Every item that the first pass leaves was read, and nothing of it has changed but its address and,
where literals are placed, its pool. -/
theorem exists_read (known : ∀ item ∈ part.items, item.instruction.isSome = true) {laid : Item}
    (mem : laid ∈ (part.layOut rules).state.items) :
    ∃ item ∈ part.items, ∃ location pool, laid = { item with location, pool } ∧
      (item.placesLiterals = false → pool = item.pool) := by
  obtain ⟨header, state⟩ := layOut_state rules part
  rw [state] at mem
  exact exists_mem_of_forall₂ (laying_items known rules) mem

/-- The first pass keeps the instructions. -/
theorem known_layOut (known : ∀ item ∈ part.items, item.instruction.isSome = true) (rules : Rules) :
    ∀ item ∈ (part.layOut rules).state.items, item.instruction.isSome = true := by
  intro laid mem
  obtain ⟨item, read, location, pool, rfl, _⟩ := exists_read known mem
  exact known item read

/-- The first pass keeps the statements and the instructions. -/
theorem layOut_kept (known : ∀ item ∈ part.items, item.instruction.isSome = true) (rules : Rules) :
    ((part.layOut rules).state.items.map fun item => (item.statement, item.instruction)) =
      part.items.map fun item => (item.statement, item.instruction) := by
  obtain ⟨header, state⟩ := layOut_state rules part
  have items : (part.layOut rules).state.items = (part.laying rules).state.2 := by rw [state]
  rw [items, map_eq_of_forall₂ (laying_items known rules)]
  rintro item _ ⟨location, pool, rfl, _⟩
  rfl

/-- The first pass over a fresh section leaves items without code, and with instructions of its
directory. -/
theorem Fresh.bare (fresh : part.Fresh directory) {laid : Item}
    (mem : laid ∈ (part.layOut rules).state.items) :
    laid.code = none ∧ ∃ instruction operator, laid.instruction = some instruction ∧
      directory.lookup operator = some instruction := by
  obtain ⟨item, read, location, pool, rfl, _⟩ := exists_read fresh.known mem
  obtain ⟨instruction, known, found⟩ := (fresh.items item read).known
  exact ⟨(fresh.items item read).code_eq, instruction, _, known, found⟩

/-- The first pass over a fresh section leaves it laid out. -/
theorem Fresh.laidOut (fresh : part.Fresh directory)
    (lays : (part.layOut rules).result = .ok ()) : LaidOut (part.layOut rules).state := by
  have empty : ∀ item ∈ part.items, item.pool = [] := fun item mem => (fresh.items item mem).pool_eq
  obtain ⟨contiguous, counter⟩ := Layout.runs_contiguous (fresh.runs lays) fresh.known empty
  obtain ⟨pooled, _⟩ := laying_pooled fresh rules
  obtain ⟨header, state⟩ := layOut_state rules part
  have items : (part.layOut rules).state.items = (part.laying rules).state.2 := by rw [state]
  have literals : (part.layOut rules).state.literals =
      (part.laying rules).state.1.tables.literals := by rw [state]
  rw [← items] at contiguous counter pooled
  refine ⟨fun laid mem => ?_, contiguous, by rw [layOut_header lays, counter]⟩
  obtain ⟨none, instruction, _, known, _⟩ := fresh.bare mem
  obtain ⟨item, read, location, pool, same, plain⟩ := exists_read fresh.known mem
  rw [literals]
  refine ⟨by rw [known]; rfl, ?_, ?_, pooled.laid laid mem, pooled.storable_pool mem⟩
  · intro code written
    cases none.symm.trans written
  · rw [same]
    exact fun nowhere => (plain nowhere).trans (empty item read)

/-- The second pass over a section that is laid out and has no code leaves it laid out, whether it
succeeds or fails. -/
theorem LaidOut.encode (laid : part.LaidOut) (bare : ∀ item ∈ part.items, item.code = none)
    (bytes : ∀ item ∈ part.items, ∀ instruction, item.instruction = some instruction →
      instruction.hasByteOpcode = true) (rules : Rules) :
    LaidOut (part.encode rules).state := by
  have known : ∀ item ∈ part.items, item.instruction.isSome = true :=
    fun item mem => (laid.items item mem).known
  have each : List.Forall₂ (fun item done : Item => item.LaidOut part.literals →
      done.LaidOut part.literals) part.items (part.encode rules).state.items := by
    rw [(encode_eq rules part).2]
    apply Outcome.forall₂_sweep
    · exact fun item _ => id
    · intro _ item mem own
      obtain ⟨instruction, found⟩ := Option.isSome_iff_exists.1 (known item mem)
      obtain ⟨flags, code, byteSize, same⟩ :=
        Item.encode_item found rules.directory part.toTables
      have written := @Item.bytes_of_encode_code rules.directory part.toTables item instruction found
        (bytes item mem instruction found) (bare item mem)
      change Item.LaidOut part.literals (item.encode rules.directory part.toTables).state.1
      rw [same] at written ⊢
      refine ⟨own.known, fun text coded => ?_, own.plain, own.laid, own.storable⟩
      obtain ⟨holds, width⟩ := written coded
      exact ⟨by simpa [Item.holdsCode, found] using holds, by simpa [Item.size, found] using width⟩
  obtain ⟨contiguous, sums⟩ := laid.contiguous.encoded (encoding_kept known rules)
  refine ⟨fun done mem => ?_, contiguous, ?_⟩
  · obtain ⟨item, read, keeps⟩ := exists_mem_of_forall₂ each mem
    have own := keeps (laid.items item read)
    rwa [(encode_eq rules part).2]
  · rw [sums, ← laid.length, (encode_eq rules part).2]

/-- The second pass over what the first leaves of a fresh section leaves it laid out, whether it
succeeds or fails. -/
theorem Fresh.laidOut_encode (fresh : part.Fresh directory) (bytes : directory.HasByteOpcodes)
    (lays : (part.layOut rules).result = .ok ()) :
    LaidOut ((part.layOut rules).state.encode rules).state := by
  apply (fresh.laidOut lays).encode
  · exact fun item mem => (fresh.bare mem).1
  · intro item mem instruction found
    obtain ⟨_, own, operator, known, looked⟩ := fresh.bare mem
    obtain rfl : own = instruction := Option.some.inj (known.symm.trans found)
    exact bytes.lookup looked

/-- Both passes over a fresh section leave every item ready. -/
theorem ready (fresh : part.Fresh directory) (bytes : directory.HasByteOpcodes)
    (lays : (part.layOut rules).result = .ok ())
    (encodes : ((part.layOut rules).state.encode rules).result = .ok ()) :
    ∀ item ∈ ((part.layOut rules).state.encode rules).state.items,
      item.Ready (part.layOut rules).state.literals := by
  intro done mem
  obtain ⟨laid, written, succeeds, rfl⟩ := exists_mem_of_forall₂ (encoding_items encodes) mem
  obtain ⟨bare, instruction, operator, known, found⟩ := fresh.bare written
  have own := (fresh.laidOut lays).items laid written
  exact Item.ready_of_encode known (bytes.lookup found) bare own.plain own.laid own.storable succeeds

/-- Both passes succeed exactly when the second succeeds on what the first leaves. -/
theorem assemble_eq_ok (succeeds : (part.assemble rules).result = .ok ()) :
    (part.layOut rules).result = .ok () ∧
      ((part.layOut rules).state.encode rules).result = .ok () ∧
      (part.assemble rules).state = ((part.layOut rules).state.encode rules).state := by
  obtain ⟨_, lays, encodes⟩ := Outcome.andThen_eq_ok.1 succeeds
  exact ⟨lays, encodes, Outcome.state_andThen_of_ok lays _⟩

/-- Both passes keep the statements and the instructions. -/
theorem assemble_kept (known : ∀ item ∈ part.items, item.instruction.isSome = true)
    (succeeds : (part.assemble rules).result = .ok ()) :
    ((part.assemble rules).state.items.map fun item => (item.statement, item.instruction)) =
      part.items.map fun item => (item.statement, item.instruction) := by
  obtain ⟨_, _, reached⟩ := assemble_eq_ok succeeds
  rw [reached, map_eq_of_forall₂ (encoding_kept (known_layOut known rules) rules),
    layOut_kept known rules]
  rintro item _ ⟨flags, code, byteSize, rfl⟩
  rfl

/-- Every item that both passes leave has the statement and the instruction of one that was read. -/
theorem exists_source (known : ∀ item ∈ part.items, item.instruction.isSome = true)
    (succeeds : (part.assemble rules).result = .ok ()) :
    ∀ item ∈ (part.assemble rules).state.items, ∃ source ∈ part.items,
      source.statement = item.statement ∧ source.instruction = item.instruction := by
  intro item mem
  have listed := List.mem_map_of_mem (f := fun item : Item => (item.statement, item.instruction)) mem
  rw [assemble_kept known succeeds] at listed
  obtain ⟨source, read, same⟩ := List.mem_map.1 listed
  exact ⟨source, read, Prod.mk.inj same⟩

/-- Both passes keep the statements and the instructions of a fresh section. -/
theorem Fresh.kept (fresh : part.Fresh directory)
    (succeeds : (part.assemble rules).result = .ok ()) :
    ((part.assemble rules).state.items.map fun item => (item.statement, item.instruction)) =
      part.items.map fun item => (item.statement, item.instruction) :=
  assemble_kept fresh.known succeeds

/-- Both passes over a fresh section leave it assembled. -/
theorem assembled (fresh : part.Fresh directory) (bytes : directory.HasByteOpcodes)
    (succeeds : (part.assemble rules).result = .ok ()) :
    Assembled (part.assemble rules).state := by
  obtain ⟨lays, encodes, reached⟩ := assemble_eq_ok succeeds
  have done := fresh.laidOut_encode bytes lays
  have literals : ((part.layOut rules).state.encode rules).state.literals =
      (part.layOut rules).state.literals := by rw [(encode_eq rules _).2]
  rw [reached]
  refine ⟨?_, done.contiguous, done.length⟩
  rw [literals]
  exact ready fresh bytes lays encodes

end Section

namespace Assembly

variable {rules : Rules}

/-- The same assembly with its sections as both passes leave them. -/
def passed (rules : Rules) (assembly : Assembly) : Assembly :=
  { assembly with sections := assembly.sections.map fun part => (part.assemble rules).state }

/-- The passes succeed over a row of sections exactly when they do over each section, and then they
leave each section as they would leave it alone. -/
theorem assembleSections_spec (rules : Rules) (assembly : Assembly) :
    ((assembly.assembleSections rules).result = .ok () ↔
        ∀ part ∈ assembly.sections, (part.assemble rules).result = .ok ()) ∧
      ((assembly.assembleSections rules).result = .ok () →
        (assembly.assembleSections rules).state = assembly.passed rules) := by
  have rows (sections : List Section) :
      let swept := Outcome.sweep
        (fun _ part => (part.assemble rules).mapState fun part => ((), part)) () sections
      (swept.result = .ok () ↔ ∀ part ∈ sections, (part.assemble rules).result = .ok ()) ∧
        (swept.result = .ok () →
          swept.state.2 = sections.map fun part => (part.assemble rules).state) := by
    induction sections with
    | nil => simp [Outcome.sweep, Outcome.done]
    | cons part rest ih =>
      cases result : (part.assemble rules).result with
      | error failure => simp [Outcome.sweep, Outcome.mapState, result]
      | ok value =>
        simp only [Outcome.sweep, Outcome.mapState, result, List.forall_mem_cons, List.map_cons,
          true_and]
        exact ⟨ih.1, fun succeeds => congrArg ((part.assemble rules).state :: ·) (ih.2 succeeds)⟩
  obtain ⟨result, state⟩ := rows assembly.sections
  exact ⟨result, fun succeeds =>
    congrArg (fun sections => { assembly with sections }) (state succeeds)⟩

/-- A source is assembled exactly when it can be read, when the passes over its sections succeed, and
when the object programs of the sections can be written. -/
theorem assemble_eq_ok_iff {limit : Int} {source file program : String} :
    (assemble rules limit source file).result = .ok program ↔
      (addSource rules.directory {} source file).result = .ok () ∧
        (∀ part ∈ (addSource rules.directory {} source file).state.sections,
          (part.assemble rules).result = .ok ()) ∧
        objectPrograms limit
          ((addSource rules.directory {} source file).state.passed rules).sections =
            .ok program := by
  obtain ⟨each, state⟩ :=
    assembleSections_spec rules (addSource rules.directory {} source file).state
  rw [assemble, Outcome.andThen_eq_ok, ← each]
  constructor
  · rintro ⟨_, both, written⟩
    obtain ⟨_, reads, passes⟩ := Outcome.andThen_eq_ok.1 both
    rw [Outcome.state_andThen_of_ok reads, state passes] at written
    exact ⟨reads, passes, written⟩
  · rintro ⟨reads, passes, written⟩
    refine ⟨(), Outcome.andThen_eq_ok.2 ⟨(), reads, passes⟩, ?_⟩
    rw [Outcome.state_andThen_of_ok reads, state passes]
    exact written

/-- A source that is assembled leaves its sections as both passes leave them. -/
theorem state_assemble {limit : Int} {source file program : String}
    (succeeds : (assemble rules limit source file).result = .ok program) :
    (assemble rules limit source file).state =
      (addSource rules.directory {} source file).state.passed rules := by
  obtain ⟨_, both, _⟩ := Outcome.andThen_eq_ok.1 succeeds
  obtain ⟨_, reads, passes⟩ := Outcome.andThen_eq_ok.1 both
  rw [assemble, Outcome.state_andThen_of_ok both, Outcome.state_andThen_of_ok reads]
  exact (assembleSections_spec rules _).2 passes

end Assembly

end TwoPass
