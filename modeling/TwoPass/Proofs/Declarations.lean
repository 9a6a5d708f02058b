import TwoPass.Proofs.FirstMention
import TwoPass.Proofs.Reading

/-!
# Declared names

What the first pass writes into the header and into the lists of shared names.  A section exports and
imports the names that its items declare, in order of first mention and each once.  Its name is a
label, so it stands on one line, and its start address is not negative.
-/

namespace TwoPass

namespace Item

/-- The names that an item declares as exported. -/
def exported (item : Item) : List String :=
  if item.instruction.map Instruction.action = some (.directive .extdef) then
    item.statement.operands
  else []

/-- The names that an item declares as imported. -/
def imported (item : Item) : List String :=
  if item.instruction.map Instruction.action = some (.directive .extref) then
    item.statement.operands
  else []

/-- An exported name is an operand. -/
theorem mem_operands_of_exported {item : Item} {name : String} (mem : name ∈ item.exported) :
    name ∈ item.statement.operands := by
  rw [exported] at mem
  split at mem
  · exact mem
  · cases mem

/-- An imported name is an operand. -/
theorem mem_operands_of_imported {item : Item} {name : String} (mem : name ∈ item.imported) :
    name ∈ item.statement.operands := by
  rw [imported] at mem
  split at mem
  · exact mem
  · cases mem

end Item

/-- A header with a name on one line and a start address that is not negative. -/
structure Header.Sound (header : Header) : Prop where
  /-- The start address is not negative. -/
  start : 0 ≤ header.start
  /-- The name stands on one line. -/
  name : ∀ c ∈ header.name.toList, Text.isLineEnd c = false

namespace Layout

variable {instruction : Instruction} {progress : Progress} {item : Item}

/-- Naming a section after a label keeps its header sound. -/
theorem nameSection_sound (plain : item.statement.Plain) (sound : progress.tables.header.Sound)
    (directive : Directive) (instruction : Instruction) :
    (nameSection directive instruction progress item).state.1.tables.header.Sound := by
  rw [nameSection]
  split
  · exact sound
  · rename_i name found
    have named := plain.label name found
    simp only
    split
    · split
      · exact ⟨Int.natCast_nonneg _, named⟩
      · exact ⟨sound.start, named⟩
    · exact ⟨sound.start, named⟩

/-- Obeying an instruction keeps the header sound. -/
theorem obey_sound (plain : item.statement.Plain) (sound : progress.tables.header.Sound)
    (instruction : Instruction) :
    (obey instruction progress item).state.1.tables.header.Sound := by
  have deed := obey_cases instruction progress item
  generalize obey instruction progress item = outcome at deed ⊢
  cases deed with
  | code holds => exact sound
  | opening directive action opens => exact nameSection_sound plain sound directive instruction
  | exporting action => exact sound
  | importing action => exact sound
  | reserving action =>
    obtain ⟨counter, reached⟩ :=
      reserve_state instruction.reservedUnit instruction progress item
    rw [reached]
    exact sound
  | equating action =>
    obtain ⟨location, reached⟩ := equate_state progress item
    rw [reached]
    exact sound
  | placing places =>
    obtain ⟨literals, counter, pool, reached⟩ :=
      fillPool_state progress item progress.tables.literals.unplaced
    rw [reached]
    exact sound

/-- Obeying an instruction merges the names that its item declares. -/
theorem obey_externals (known : item.instruction = some instruction) (progress : Progress) :
    (obey instruction progress item).state.1.tables.externals =
      ⟨Externals.merge progress.tables.externals.exports item.exported,
        Externals.merge progress.tables.externals.imports item.imported⟩ := by
  have action_eq : item.instruction.map Instruction.action = some instruction.action := by
    rw [known]
    rfl
  have silent (exporting : instruction.action ≠ .directive .extdef)
      (importing : instruction.action ≠ .directive .extref) :
      progress.tables.externals =
        ⟨Externals.merge progress.tables.externals.exports item.exported,
          Externals.merge progress.tables.externals.imports item.imported⟩ := by
    simp [Item.exported, Item.imported, action_eq, exporting, importing, Externals.merge]
  have deed := obey_cases instruction progress item
  generalize obey instruction progress item = outcome at deed ⊢
  cases deed with
  | code holds =>
    apply silent
    · rintro action
      simp [Instruction.holdsCode, action] at holds
    · rintro action
      simp [Instruction.holdsCode, action] at holds
  | opening directive action opens =>
    obtain ⟨header, reached⟩ := nameSection_state directive instruction progress item
    rw [reached]
    rcases opens with rfl | rfl <;> exact silent (by simp [action]) (by simp [action])
  | exporting action =>
    simp [Item.exported, Item.imported, action_eq, action, Externals.merge, Outcome.done,
      Progress.withExternals, Externals.addExports]
  | importing action =>
    simp [Item.exported, Item.imported, action_eq, action, Externals.merge, Outcome.done,
      Progress.withExternals, Externals.addImports]
  | reserving action =>
    obtain ⟨counter, reached⟩ :=
      reserve_state instruction.reservedUnit instruction progress item
    rw [reached]
    rcases action with action | action <;> exact silent (by simp [action]) (by simp [action])
  | equating action =>
    obtain ⟨location, reached⟩ := equate_state progress item
    rw [reached]
    exact silent (by simp [action]) (by simp [action])
  | placing places =>
    obtain ⟨literals, counter, pool, reached⟩ :=
      fillPool_state progress item progress.tables.literals.unplaced
    rw [reached]
    rcases Instruction.placesLiterals_cases places with action | action <;>
      exact silent (by simp [action]) (by simp [action])

/-- The declarations of a row of items: the header is sound, and the names are listed in order of
first mention. -/
structure Declared (items : List Item) (tables : Tables) : Prop where
  /-- The header is sound. -/
  header : tables.header.Sound
  /-- The exported names are those that are declared so. -/
  exports : tables.externals.exports = (items.flatMap Item.exported).eraseDups
  /-- The imported names are those that are declared so. -/
  imports : tables.externals.imports = (items.flatMap Item.imported).eraseDups

/-- A step takes in the declarations of its item. -/
theorem step_declared {rules : Rules} {items : List Item} (declared : Declared items progress.tables)
    (known : item.instruction = some instruction) (plain : item.statement.Plain) :
    Declared (items ++ [item]) (step rules progress item).state.1.tables := by
  obtain ⟨symbols, literals, reached⟩ := step_state rules known progress
  have kept : (progress.locate item).instruction = some instruction := known
  have start : (progress.past instruction).tables = progress.tables := rfl
  have externals := obey_externals kept (progress.past instruction)
  rw [reached]
  refine ⟨?_, ?_, ?_⟩
  · have own : (progress.locate item).statement.Plain := plain
    have sound : (progress.past instruction).tables.header.Sound := declared.header
    exact obey_sound own sound instruction
  · rw [obeyed, externals, start, declared.exports, Externals.merge_eraseDups]
    simp [Item.exported, Progress.locate]
  · rw [obeyed, externals, start, declared.imports, Externals.merge_eraseDups]
    simp [Item.imported, Progress.locate]

end Layout

namespace Section

variable {directory : Directory} {part : Section}

/-- The first pass over a fresh section takes in what its items declare. -/
theorem laying_declared (fresh : part.Fresh directory)
    (plain : ∀ item ∈ part.items, item.statement.Plain) {rules : Rules}
    (lays : (part.layOut rules).result = .ok ()) :
    Layout.Declared part.items (part.laying rules).state.1.tables := by
  apply (fresh.runs lays).invariant (motive := fun read _ progress =>
    Layout.Declared read progress.tables)
  · exact ⟨⟨by decide, by simp⟩, rfl, rfl⟩
  · intro read _ progress item mem declared _
    obtain ⟨instruction, found⟩ := Option.isSome_iff_exists.1 (fresh.known item mem)
    exact Layout.step_declared declared found (plain item mem)

end Section

end TwoPass
