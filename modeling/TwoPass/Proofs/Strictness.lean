import TwoPass.Proofs.Symbols

/-!
# Labels that are defined twice

Strict rules add one check to the first pass: a label that has a value is refused.  Where no label is
repeated the pass does the same under both rules.  Otherwise it does the same up to the first label
that is repeated, and if it gets as far as that label, the strict rules stop there with the value
that the label has.
-/

namespace TwoPass

namespace Layout

variable {directory : Directory} {instruction : Instruction} {progress : Progress} {item : Item}
  {label : String} {value : Int}

/-- A label without a value is bound alike under both rules. -/
theorem bindLabel_of_new (new : ∀ label, item.statement.label = some label →
      progress.tables.symbols.find? label = none) :
    bindLabel true progress item = bindLabel false progress item := by
  cases own : item.statement.label with
  | none => simp [bindLabel, own]
  | some label => simp [bindLabel, own, new label own]

/-- Under strict rules a label that has a value is refused. -/
theorem bindLabel_of_repeated (own : item.statement.label = some label)
    (repeated : progress.tables.symbols.find? label = some value) :
    bindLabel true progress item =
      .failed (progress, item) (item.statement.failure (.duplicateSymbol label value)) := by
  simp [bindLabel, own, repeated]

/-- Under lax rules no label is refused. -/
theorem bindLabel_lax (progress : Progress) (item : Item) :
    (bindLabel false progress item).result = .ok () := by
  cases own : item.statement.label with
  | none => simp [bindLabel, own, Outcome.done]
  | some label => simp [bindLabel, own, Outcome.done]

/-- A step that gets as far as a label which has a value. -/
structure Repeats (progress : Progress) (item : Item) (label : String) (value : Int) : Prop where
  /-- The instruction is obeyed. -/
  obeys : ∃ instruction, item.instruction = some instruction ∧
    (obeyed instruction progress item).result = .ok ()
  /-- The item has the label. -/
  labelled : item.statement.label = some label
  /-- The label has a value. -/
  defined : progress.tables.symbols.find? label = some value

/-- Under strict rules such a step stops with the value of the label. -/
theorem Repeats.step_error (repeats : Repeats progress item label value) (directory : Directory) :
    (step ⟨directory, true⟩ progress item).result =
      .error (item.statement.failure (.duplicateSymbol label value)) := by
  obtain ⟨instruction, known, obeys⟩ := repeats.obeys
  obtain ⟨symbols, statement⟩ := obeyed_kept instruction progress item
  have refused := bindLabel_of_repeated (statement ▸ repeats.labelled)
    (symbols ▸ repeats.defined)
  rcases step_cases ⟨directory, true⟩ known progress with ⟨failure, fails, _, _⟩ |
    ⟨_, _, _, ⟨failure, same, _, result⟩ | ⟨binds, _, _⟩⟩
  · rw [obeys] at fails
    cases fails
  · rw [result, ← same, refused, statement]
    rfl
  · rw [refused] at binds
    cases binds

/-- Every other step is the same under both rules. -/
theorem step_strict (known : item.instruction = some instruction)
    (new : ∀ label value, ¬ Repeats progress item label value) :
    step ⟨directory, true⟩ progress item = step ⟨directory, false⟩ progress item := by
  obtain ⟨symbols, statement⟩ := obeyed_kept instruction progress item
  rw [step_of_known _ known, step_of_known _ known]
  change ((obeyed instruction progress item).andThen _).andThen _ =
    ((obeyed instruction progress item).andThen _).andThen _
  cases obeys : (obeyed instruction progress item).result with
  | error failure => simp [Outcome.andThen, obeys]
  | ok _ =>
    have same : bindLabel true (obeyed instruction progress item).state.1
        (obeyed instruction progress item).state.2 =
          bindLabel false (obeyed instruction progress item).state.1
            (obeyed instruction progress item).state.2 := by
      apply bindLabel_of_new
      intro label own
      rw [statement] at own
      rw [symbols]
      cases defined : progress.tables.symbols.find? label with
      | none => rfl
      | some value => exact absurd ⟨⟨instruction, known, obeys⟩, own, defined⟩ (new label value)
    simp only [Outcome.andThen, obeys, same]

/-- A step that refuses a label has got as far as a label which has a value. -/
theorem repeats_of_step (known : item.instruction = some instruction) {failure : Failure}
    (fails : (step ⟨directory, true⟩ progress item).result = .error failure)
    (refuses : failure.refusesLabel = true) :
    ∃ label value, Repeats progress item label value := by
  by_contra none
  simp only [not_exists] at none
  rw [step_strict known none] at fails
  have other : failure.refusesLabel = false := by
    rcases step_cases ⟨directory, false⟩ known progress with ⟨first, stops, _, result⟩ |
      ⟨_, _, _, ⟨first, stops, _, _⟩ | ⟨_, _, result⟩⟩
    · rw [fails] at result
      cases result
      exact refusesLabel_of_obey stops
    · rw [bindLabel_lax] at stops
      cases stops
    · rw [fails] at result
      exact (refuses_of_gatherLiterals result.symm).refusesLabel
  rw [refuses] at other
  cases other

/-- A run keeps the labels. -/
theorem runs_labels {rules : Rules} {items done : List Item} {start final : Progress}
    (run : Outcome.Runs (step rules) start items final done)
    (known : ∀ item ∈ items, item.instruction.isSome = true) : labels done = labels items := by
  have rows : List.Forall₂ (fun item laid : Item => laid.statement = item.statement) items done := by
    apply run.forall₂
    intro progress item mem _
    obtain ⟨instruction, found⟩ := Option.isSome_iff_exists.1 (known item mem)
    obtain ⟨location, pool, same⟩ := step_item rules found progress
    rw [same]
  have statements := map_eq_of_forall₂ rows fun _ _ same => same
  have each (items : List Item) :
      labels items = (items.map Item.statement).filterMap Statement.label :=
    (List.filterMap_map ..).symm
  rw [each, each, statements]

/-- Behind a run a step repeats only labels of the items in front of it. -/
theorem Repeats.mem_labels {rules : Rules} {front done : List Item}
    (repeats : Repeats progress item label value)
    (run : Outcome.Runs (step rules) ⟨{}, 0⟩ front progress done)
    (known : ∀ item ∈ front, item.instruction.isSome = true) : label ∈ labels front := by
  have defined := repeats.defined
  rw [(runs_defines run known).values] at defined
  rw [← runs_labels run known, ← isSome_latest?_iff, defined]
  rfl

/-- A run under strict rules repeats no label. -/
theorem nodup_labels {items done : List Item} {final : Progress}
    (run : Outcome.Runs (step ⟨directory, true⟩) ⟨{}, 0⟩ items final done)
    (known : ∀ item ∈ items, item.instruction.isSome = true) : (labels items).Nodup := by
  -- The induction takes the last item off, since a step sees the labels in front of it.
  induction items using List.reverseRecOn generalizing final done with
  | nil => exact List.nodup_nil
  | append_singleton front item ih =>
    have early : ∀ other ∈ front, other.instruction.isSome = true :=
      fun other mem => known other (List.mem_append_left _ mem)
    obtain ⟨instruction, found⟩ := Option.isSome_iff_exists.1 (known item (by simp))
    obtain ⟨progress, before, after, first, second, rfl⟩ := run.of_append
    cases second with
    | cons succeeds later =>
      rw [labels_append, labels_cons, List.nodup_append]
      refine ⟨ih first early, by cases item.statement.label <;> simp [labels], ?_⟩
      intro old mem label own same
      have labelled : item.statement.label = some old := by simpa [labels, same] using own
      rw [← runs_labels first early, ← isSome_latest?_iff,
        ← (runs_defines first early).values] at mem
      obtain ⟨value, defined⟩ := Option.isSome_iff_exists.1 mem
      have repeats : Repeats progress item old value :=
        ⟨⟨instruction, found, obeyed_of_step found succeeds⟩, labelled, defined⟩
      rw [repeats.step_error] at succeeds
      cases succeeds

/-- Where no label is repeated, both rules do the same. -/
theorem sweep_strict_of_nodup {items : List Item} (different : (labels items).Nodup)
    (known : ∀ item ∈ items, item.instruction.isSome = true) (directory : Directory) :
    Outcome.sweep (step ⟨directory, true⟩) ⟨{}, 0⟩ items =
      Outcome.sweep (step ⟨directory, false⟩) ⟨{}, 0⟩ items := by
  apply Outcome.sweep_congr
  intro front item back reached done split run
  obtain ⟨instruction, found⟩ :=
    Option.isSome_iff_exists.1 (known item (by simp [split]))
  apply step_strict found
  intro label value repeats
  have early := repeats.mem_labels run fun other mem => known other (by simp [split, mem])
  rw [split, labels_append, labels_cons, repeats.labelled, List.nodup_append] at different
  exact different.2.2 label early label (by simp) rfl

/-- Where no label is repeated, the runs under both rules are the same. -/
theorem runs_strict_iff {items done : List Item} {final : Progress}
    (different : (labels items).Nodup)
    (known : ∀ item ∈ items, item.instruction.isSome = true) :
    Outcome.Runs (step ⟨directory, true⟩) ⟨{}, 0⟩ items final done ↔
      Outcome.Runs (step ⟨directory, false⟩) ⟨{}, 0⟩ items final done := by
  rw [Outcome.runs_iff_sweep, Outcome.runs_iff_sweep, sweep_strict_of_nodup different known]

end Layout

namespace Section

variable {origin directory : Directory} {part : Section} {front : List Item} {item : Item}
  {label : String} {value : Int}

/-- Under lax rules the first pass gets as far as the first label that is defined a second time. -/
structure Redefines (directory : Directory) (part : Section) (front : List Item) (item : Item)
    (label : String) (value : Int) : Prop where
  /-- The item stands behind some items. -/
  split : ∃ back, part.items = front ++ item :: back
  /-- The items in front of it are laid out. -/
  lays : (layOut ⟨directory, false⟩ { part with items := front }).result = .ok ()
  /-- No label is repeated among them. -/
  different : (Layout.labels front).Nodup
  /-- The item has a label. -/
  labelled : item.statement.label = some label
  /-- An item in front of it has the same label, at some address. -/
  defined : Layout.latest? (layOut ⟨directory, false⟩ { part with items := front }).state.items label =
    some value
  /-- The instruction of the item is obeyed. -/
  obeys : ∃ instruction, item.instruction = some instruction ∧
    (Layout.obeyed instruction (laying ⟨directory, false⟩ { part with items := front }).state.1
      item).result = .ok ()

/-- At a label that is defined a second time strict rules stop. -/
theorem Redefines.layOut_error (redefines : Redefines directory part front item label value)
    (fresh : part.Fresh origin) :
    (part.layOut ⟨directory, true⟩).result =
      .error (item.statement.failure (.duplicateSymbol label value)) := by
  obtain ⟨back, split⟩ := redefines.split
  have early := fresh.front split
  have lax := early.runs redefines.lays
  have strict := (Layout.runs_strict_iff redefines.different early.known).2 lax
  have defines := Layout.runs_defines lax early.known
  have defined := redefines.defined
  obtain ⟨header, state⟩ := layOut_state ⟨directory, false⟩ { part with items := front }
  rw [state, ← defines.values] at defined
  rw [layOut_result, laying, fresh.tables, split]
  apply strict.sweep_error
  exact Layout.Repeats.step_error ⟨redefines.obeys, redefines.labelled, defined⟩ directory

/-- Where a step behind a strict run comes to a label that has a value, the label is defined a second
time. -/
theorem Fresh.redefines (fresh : part.Fresh origin) {back done : List Item}
    {reached : Layout.Progress} (split : part.items = front ++ item :: back)
    (run : Outcome.Runs (Layout.step ⟨directory, true⟩) ⟨{}, 0⟩ front reached done)
    (repeats : Layout.Repeats reached item label value) :
    Redefines directory part front item label value := by
  have early := fresh.front split
  have different := Layout.nodup_labels run early.known
  have lax := (Layout.runs_strict_iff different early.known).1 run
  have defined := repeats.defined
  rw [(Layout.runs_defines lax early.known).values] at defined
  obtain ⟨succeeds, state⟩ := lax.sweep_eq
  have laid : (laying ⟨directory, false⟩ { part with items := front }).state = (reached, done) := by
    rw [laying, fresh.tables]
    exact state
  obtain ⟨header, left⟩ := layOut_state ⟨directory, false⟩ { part with items := front }
  refine ⟨⟨back, split⟩, ?_, different, repeats.labelled, ?_, ?_⟩
  · rw [layOut_result, laying, fresh.tables]
    exact succeeds
  · rw [left, laid]
    exact defined
  · rw [laid]
    exact repeats.obeys

/-- The first pass is the same under both rules if its sweeps are. -/
theorem Fresh.layOut_strict (fresh : part.Fresh origin)
    (same : Outcome.sweep (Layout.step ⟨directory, true⟩) ⟨{}, 0⟩ part.items =
      Outcome.sweep (Layout.step ⟨directory, false⟩) ⟨{}, 0⟩ part.items) :
    part.layOut ⟨directory, true⟩ = part.layOut ⟨directory, false⟩ := by
  rw [layOut, layOut, fresh.tables, same]

/-- Where no label is defined a second time, the first pass is the same under both rules. -/
theorem Fresh.layOut_strict_of_new (fresh : part.Fresh origin)
    (new : ∀ front item label value, ¬ Redefines directory part front item label value) :
    part.layOut ⟨directory, true⟩ = part.layOut ⟨directory, false⟩ := by
  apply fresh.layOut_strict
  -- The strict sweep is followed and not the lax one: along it no label has been repeated.
  apply Outcome.sweep_congr
  intro front item back reached done split run
  obtain ⟨instruction, found⟩ :=
    Option.isSome_iff_exists.1 (fresh.known item (by simp [split]))
  apply Layout.step_strict found
  intro label value repeats
  exact new front item label value (fresh.redefines split run repeats)

/-- Strict rules refuse a label only where it is defined a second time. -/
theorem Fresh.exists_redefines (fresh : part.Fresh origin) {found : Diagnostic}
    (fails : (part.layOut ⟨directory, true⟩).result = .error (.diagnostic found))
    (cause : found.cause = .duplicateSymbol label value) :
    ∃ front item, Redefines directory part front item label value := by
  have refuses : (Failure.diagnostic found).refusesLabel = true := by
    rw [Failure.refusesLabel, cause]
    rfl
  rw [layOut_result, laying, fresh.tables] at fails
  rcases Outcome.sweep_cases (Layout.step ⟨directory, true⟩) ⟨{}, 0⟩ part.items with ⟨succeeds, _⟩ |
    ⟨front, item, back, reached, done, failure, split, run, stops, result, _⟩
  · rw [succeeds] at fails
    cases fails
  · rw [result] at fails
    cases fails
    obtain ⟨instruction, known⟩ :=
      Option.isSome_iff_exists.1 (fresh.known item (by simp [split]))
    obtain ⟨own, first, repeats⟩ := Layout.repeats_of_step known stops refuses
    rw [repeats.step_error] at stops
    have same := Statement.cause_of_failure (Except.error.inj stops)
    rw [cause] at same
    cases same
    exact ⟨front, item, fresh.redefines split run repeats⟩

/-- Strict rules only add that a second definition of a label is refused.  The first pass succeeds
under them exactly when it succeeds under lax rules and no label is repeated, and then it leaves the
same.  Otherwise it fails as under lax rules, or because the first label that is repeated is refused
with the value it has; and that happens exactly when the pass under lax rules gets as far as that
label. -/
theorem strict_refuses_only (fresh : part.Fresh origin) (directory : Directory) :
    let strict := part.layOut ⟨directory, true⟩
    let lax := part.layOut ⟨directory, false⟩
    (strict.result = .ok () ↔ lax.result = .ok () ∧ (Layout.labels part.items).Nodup) ∧
      (strict.result = .ok () → strict = lax) ∧
      (∀ failure, strict.result = .error failure →
        (∀ item ∈ part.items, ∀ label value,
          failure ≠ item.statement.failure (.duplicateSymbol label value)) → strict = lax) ∧
      (∀ front item label value, Redefines directory part front item label value →
        strict.result = .error (item.statement.failure (.duplicateSymbol label value))) ∧
      ∀ found label value, strict.result = .error (.diagnostic found) →
        found.cause = .duplicateSymbol label value →
          ∃ front item, Redefines directory part front item label value := by
  have strict_eq (different : (Layout.labels part.items).Nodup) :
      part.layOut ⟨directory, true⟩ = part.layOut ⟨directory, false⟩ :=
    fresh.layOut_strict (Layout.sweep_strict_of_nodup different fresh.known directory)
  have different (succeeds : (part.layOut ⟨directory, true⟩).result = .ok ()) :
      (Layout.labels part.items).Nodup := Layout.nodup_labels (fresh.runs succeeds) fresh.known
  refine ⟨⟨fun succeeds => ?_, fun both => ?_⟩, fun succeeds => strict_eq (different succeeds), ?_,
    fun front item label value redefines => redefines.layOut_error fresh,
    fun found label value => fresh.exists_redefines⟩
  · have names := different succeeds
    rw [strict_eq names] at succeeds
    exact ⟨succeeds, names⟩
  · rw [strict_eq both.2]
    exact both.1
  · intro failure fails other
    apply fresh.layOut_strict_of_new
    intro front item label value redefines
    obtain ⟨back, split⟩ := redefines.split
    have refused := redefines.layOut_error fresh
    rw [fails] at refused
    exact other item (by simp [split]) label value (Except.error.inj refused)

/-- A section that repeats the label of its first item, at 0, at an item whose literal is no data form
that can be written. -/
def repeating : Section :=
  .ofStatements .builtin
    [.unplaced (some "A") "WORD" ["1"], .unplaced (some "B") "BYTE" ["X'05'"],
      .unplaced (some "A") "LDA" ["=X'0G'"]]

/-- A section that fails at an item before it comes to the label of the item, which is repeated. -/
def spoiled : Section :=
  .ofStatements .builtin
    [.unplaced (some "A") "WORD" ["1"], .unplaced (some "A") "RESW" ["MANY"]]

/-- A repeated label is refused in front of the literals of its item, and behind its directive. -/
theorem strict_refuses_only_repeating :
    repeating.Fresh .builtin ∧
      (repeating.layOut ⟨.builtin, true⟩).result =
        .error ((Statement.unplaced (some "A") "LDA" ["=X'0G'"]).failure
          (.duplicateSymbol "A" 0)) ∧
      (repeating.layOut ⟨.builtin, false⟩).result =
        .error ((Statement.unplaced (some "A") "LDA" ["=X'0G'"]).failure
          (.invalidHexDigits "=X'0G'")) ∧
      spoiled.Fresh .builtin ∧
      (spoiled.layOut ⟨.builtin, true⟩).result =
        .error ((Statement.unplaced (some "A") "RESW" ["MANY"]).failure
          (.countExpected "RESW" (some "MANY"))) ∧
      spoiled.layOut ⟨.builtin, true⟩ = spoiled.layOut ⟨.builtin, false⟩ := by
  have fresh : repeating.Fresh .builtin := by decide +kernel
  have other : spoiled.Fresh .builtin := by decide +kernel
  have fails : (spoiled.layOut ⟨.builtin, true⟩).result =
      .error ((Statement.unplaced (some "A") "RESW" ["MANY"]).failure
        (.countExpected "RESW" (some "MANY"))) := by decide +kernel
  obtain ⟨_, _, _, refuses, _⟩ := strict_refuses_only fresh .builtin
  obtain ⟨_, _, same, _, _⟩ := strict_refuses_only other .builtin
  refine ⟨fresh, ?_, by decide +kernel, other, fails, ?_⟩
  · exact refuses (repeating.items.take 2) _ "A" 0
      ⟨⟨[], rfl⟩, by decide +kernel, by decide +kernel, rfl, by decide +kernel,
        ⟨_, rfl, by decide +kernel⟩⟩
  · apply same _ fails
    intro item _ label value equal
    have cause := Statement.cause_of_failure equal.symm
    cases cause

end Section

end TwoPass
