import TwoPass.Instruction.Table
import TwoPass.Proofs.ByteCount

/-!
# What the second pass may touch

The second pass writes the flags, the code and the count of bytes of its items, and it appends to the
modifications.  Everything else of a section stays as it is, also when the pass fails.  It fails at one
item: the items in front of it are left as a pass over them alone would leave them, the item itself
has at most its flags set, and the items behind it are untouched.  The bytes that an item counts are
half its digits as long as the opcode is a byte; an opcode of three digits leaves one over.
-/

namespace TwoPass

namespace Item

variable {directory : Directory} {tables : Tables} {item : Item} {instruction : Instruction}

/-- An item that cannot be encoded has at most its flags set. -/
theorem encode_stopped (known : item.instruction = some instruction) {failure : Failure}
    (fails : (item.encode directory tables).result = .error failure) :
    ∃ flags, (item.encode directory tables).state.1 = { item with flags } := by
  cases holds : instruction.holdsCode with
  | false =>
    rw [encode_plain known holds] at fails
    cases fails
  | true =>
    rcases Instruction.holdsCode_cases holds with ⟨format, opcode, action⟩ | data
    · rw [encode_machine known action] at fails ⊢
      split at fails
      · exact item.flagged_kept format
      · cases fails
    · rw [encode_data known data] at fails ⊢
      split at fails
      · cases fails
      · exact ⟨item.flags, rfl⟩

end Item

namespace Section

variable {part : Section} {rules : Rules}

/-- The same section with some of its items only. -/
def only (part : Section) (items : List Item) : Section := { part with items }

/-- How the second pass over a section stops: at which item, and what it leaves. -/
structure Stopped (rules : Rules) (part reached : Section) (failure : Failure) (front : List Item)
    (item : Item) (back : List Item) : Prop where
  /-- The item stands between the others. -/
  items : part.items = front ++ item :: back
  /-- It is the item that cannot be encoded. -/
  refused : (item.encode rules.directory part.toTables).result = .error failure
  /-- The items in front of it can be. -/
  encodes : ((part.only front).encode rules).result = .ok ()
  /-- They are left as a pass over them alone leaves them, the item has at most its flags set, and the
  items behind it are as they were. -/
  left : ∃ flags, reached.items =
    ((part.only front).encode rules).state.items ++ { item with flags } :: back
  /-- The modifications of that pass are followed by those that the item had asked for. -/
  modifications : reached.modifications =
    ((part.only front).encode rules).state.modifications ++
      (item.encode rules.directory part.toTables).state.2

/-- A second pass that fails stops at one item. -/
theorem exists_stopped (known : ∀ item ∈ part.items, item.instruction.isSome = true)
    {failure : Failure} (fails : (part.encode rules).result = .error failure) :
    ∃ front item back, Stopped rules part (part.encode rules).state failure front item back := by
  rw [(encode_eq rules part).1] at fails
  rcases Outcome.sweep_cases (encodeStep rules part.toTables) part.modifications part.items with
    ⟨succeeds, _⟩ | ⟨front, item, back, reached, done, own, split, run, refused, result, state⟩
  · cases succeeds.symm.trans fails
  · obtain rfl : own = failure := Except.error.inj (result.symm.trans fails)
    obtain ⟨succeeds, left⟩ := run.sweep_eq
    have alone := encode_eq rules (part.only front)
    have whole := encode_eq rules part
    obtain ⟨instruction, found⟩ := Option.isSome_iff_exists.1 (known item (by simp [split]))
    obtain ⟨flags, same⟩ := Item.encode_stopped found refused
    -- A step sees the tables and its own item, so the items in front are swept as if alone.
    have sweptAlone : ((part.only front).encoding rules).state = (reached, done) := left
    have swept : (part.encoding rules).state =
        (reached ++ (item.encode rules.directory part.toTables).state.2,
          done ++ (item.encode rules.directory part.toTables).state.1 :: back) := state
    refine ⟨front, item, back, split, refused, alone.1.trans succeeds, ⟨flags, ?_⟩, ?_⟩
    · rw [whole.2, alone.2, sweptAlone, swept, same]
    · rw [whole.2, alone.2, sweptAlone, swept]

/-- The second pass appends to the modifications. -/
theorem modifications_prefix (rules : Rules) (part : Section) :
    part.modifications <+: (part.encode rules).state.modifications := by
  rw [(encode_eq rules part).2]
  apply Outcome.state_sweep (motive := fun changes => part.modifications <+: changes)
  · exact List.prefix_rfl
  · exact fun changes item _ kept => kept.trans (List.prefix_append _ _)

/-- The second pass over items without code changes nothing of a section but the flags, the code and
the count of bytes of its items, and it appends to the modifications.  Every item counts the bytes of
its code, exactly or not as the opcode has it.  A pass that fails stops at one item, and leaves the others as if that item and those behind
it were not there. -/
theorem encode_touches (known : ∀ item ∈ part.items, item.instruction.isSome = true)
    (bare : ∀ item ∈ part.items, item.code = none ∧ item.byteSize = 0) (rules : Rules) :
    let reached := (part.encode rules).state
    reached = { part with modifications := reached.modifications, items := reached.items } ∧
      part.modifications <+: reached.modifications ∧
      List.Forall₂ (fun item done : Item =>
        ∃ flags code byteSize, done = { item with flags, code, byteSize }) part.items reached.items ∧
      (∀ item ∈ reached.items, item.CountsBytes) ∧
      ∀ failure, (part.encode rules).result = .error failure →
        ∃ front item back, item.code = none ∧ item.byteSize = 0 ∧
          Stopped rules part reached failure front item back := by
  refine ⟨?_, modifications_prefix rules part, encoding_kept known rules, ?_, ?_⟩
  · rw [(encode_eq rules part).2]
  · rw [(encode_eq rules part).2]
    have each : List.Forall₂ (fun item done : Item => done.CountsBytes) part.items
        (part.encoding rules).state.2 := by
      apply Outcome.forall₂_sweep
      · intro item mem code written
        cases (bare item mem).1.symm.trans written
      · intro _ item mem
        obtain ⟨instruction, found⟩ := Option.isSome_iff_exists.1 (known item mem)
        exact Item.countsBytes_of_encode found (bare item mem).1
    intro item mem
    obtain ⟨_, _, counts⟩ := exists_mem_of_forall₂ each mem
    exact counts
  · intro failure fails
    obtain ⟨front, item, back, stopped⟩ := exists_stopped known fails
    obtain ⟨empty, none⟩ := bare item (by simp [stopped.items])
    exact ⟨front, item, back, empty, none, stopped⟩

/-- A section whose second item asks for a modification before it fails. -/
def interrupted : Section :=
  { ofStatements .builtin
      [.unplaced none "LDA" ["#1"], .unplaced none "WORD" ["FAR-NOWHERE"],
        .unplaced none "RSUB" []] with
    externals := { imports := ["FAR"] }
    modifications := [⟨100, 6, "+", "OLD"⟩] }

/-- The failure at the second item of the section. -/
def nowhere : Failure :=
  .diagnostic { cause := .undefinedSymbol "NOWHERE", location := none, line := some "" }

/-- The pass over the section leaves the code of the first item and what the second had asked for. -/
theorem encode_touches_interrupted :
    let reached := (interrupted.encode ⟨.builtin, true⟩).state
    (∀ item ∈ interrupted.items, item.instruction.isSome = true) ∧
      (∀ item ∈ interrupted.items, item.code = none ∧ item.byteSize = 0) ∧
      (interrupted.encode ⟨.builtin, true⟩).result = .error nowhere ∧
      reached.items.map Item.code = [some "010001", none, none] ∧
      reached.modifications = [⟨100, 6, "+", "OLD"⟩, ⟨0, 6, "+", "FAR"⟩] ∧
      reached = { interrupted with modifications := reached.modifications, items := reached.items } ∧
      interrupted.modifications <+: reached.modifications ∧
      ∃ front item back, item.code = none ∧ item.byteSize = 0 ∧
        Stopped ⟨.builtin, true⟩ interrupted reached nowhere front item back := by
  intro reached
  have known : ∀ item ∈ interrupted.items, item.instruction.isSome = true := by decide +kernel
  have bare : ∀ item ∈ interrupted.items, item.code = none ∧ item.byteSize = 0 := by decide +kernel
  have fails : (interrupted.encode ⟨.builtin, true⟩).result = .error nowhere := by decide +kernel
  obtain ⟨frame, kept, _, _, stops⟩ := encode_touches known bare ⟨.builtin, true⟩
  exact ⟨known, bare, fails, by decide +kernel, by decide +kernel, frame, kept, stops nowhere fails⟩

/-- A pass over one instruction of one byte whose opcode has three digits: the pass succeeds, and the
bytes counted are not half the digits written. -/
theorem byteSize_not_half :
    ((Directory.ofText "inst.txt" "BIG\t1\t123\t0\n").map fun directory =>
      let part := ofStatements directory [.unplaced none "BIG" []]
      let done := part.encode ⟨directory, true⟩
      (part.items.all fun item => item.instruction.isSome && item.code.isNone && item.byteSize == 0,
        done.result.isOk, done.state.items.map fun item => (item.code, item.byteSize))) =
      .ok (true, true, [(some "123", 1)]) ∧ 2 * 1 ≠ "123".length := by
  decide +kernel

end Section

end TwoPass
