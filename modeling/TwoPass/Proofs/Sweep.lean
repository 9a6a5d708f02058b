import Mathlib.Data.List.Forall2
import TwoPass.Outcome

/-!
# Runs along a list

What a sweep does is told by its steps.  `Runs` lists the steps of a sweep none of which fails;
`sweep_cases` says that every sweep is such a run, or such a run over the items in front of one item
whose step fails.  `Runs.invariant` is the induction on which the invariants of both passes rest: it
relates the items read, the items written and the state reached.
-/

namespace TwoPass

/-- Where a function gives every item of a list a value, it gives the list the list of values. -/
theorem mapM_eq_ok {ε α β : Type} {function : α → Except ε β} {value : α → β} {items : List α}
    (each : ∀ item ∈ items, function item = .ok (value item)) :
    items.mapM function = .ok (items.map value) := by
  induction items with
  | nil => rfl
  | cons item rest ih =>
    rw [List.mapM_cons, each item List.mem_cons_self,
      ih fun other mem => each other (List.mem_cons_of_mem item mem)]
    rfl

/-- Where a function gives every item of a list some value, it gives the list some values. -/
theorem exists_mapM_ok {ε α β : Type} {function : α → Except ε β} {items : List α}
    (each : ∀ item ∈ items, ∃ value, function item = .ok value) :
    ∃ values, items.mapM function = .ok values := by
  induction items with
  | nil => exact ⟨[], rfl⟩
  | cons item rest ih =>
    obtain ⟨value, own⟩ := each item List.mem_cons_self
    obtain ⟨values, others⟩ := ih fun other mem => each other (List.mem_cons_of_mem item mem)
    refine ⟨value :: values, ?_⟩
    rw [List.mapM_cons, own, others]
    rfl

/-- Where a function gives a list a list of values, it gives every item of it a value. -/
theorem exists_of_mapM_ok {ε α β : Type} {function : α → Except ε β} {items : List α}
    {values : List β} (found : items.mapM function = .ok values) :
    ∀ item ∈ items, ∃ value, function item = .ok value := by
  induction items generalizing values with
  | nil => simp
  | cons item rest ih =>
    rw [List.mapM_cons] at found
    cases head : function item with
    | error failure =>
      rw [head] at found
      cases found
    | ok value =>
      rw [head] at found
      cases tail : rest.mapM function with
      | error failure =>
        rw [tail] at found
        cases found
      | ok later => exact List.forall_mem_cons.2 ⟨⟨value, head⟩, ih tail⟩

/-- Where a function fails on a list, it fails on an item of it. -/
theorem exists_of_mapM_error {ε α β : Type} {function : α → Except ε β} {items : List α}
    {failure : ε} (fails : items.mapM function = .error failure) :
    ∃ item ∈ items, function item = .error failure := by
  induction items with
  | nil => cases fails
  | cons item rest ih =>
    rw [List.mapM_cons] at fails
    cases head : function item with
    | error other =>
      rw [head] at fails
      cases fails
      exact ⟨item, List.mem_cons_self, head⟩
    | ok value =>
      rw [head] at fails
      cases tail : rest.mapM function with
      | error other =>
        rw [tail] at fails
        cases fails
        obtain ⟨found, mem, refused⟩ := ih tail
        exact ⟨found, List.mem_cons_of_mem item mem, refused⟩
      | ok values =>
        rw [tail] at fails
        cases fails

/-- Two operations one behind the other succeed exactly when both do. -/
theorem bind_eq_ok {ε α β : Type} {first : Except ε α} {next : α → Except ε β} {value : β} :
    (first >>= next) = .ok value ↔ ∃ middle, first = .ok middle ∧ next middle = .ok value := by
  cases first with
  | error failure => simp [bind, Except.bind]
  | ok middle => simp [bind, Except.bind]

/-- Two operations one behind the other fail where one of them does. -/
theorem bind_eq_error {ε α β : Type} {first : Except ε α} {next : α → Except ε β} {failure : ε} :
    (first >>= next) = .error failure ↔
      first = .error failure ∨ ∃ middle, first = .ok middle ∧ next middle = .error failure := by
  cases first with
  | error other => simp [bind, Except.bind]
  | ok middle => simp [bind, Except.bind]

/-- An operation on a result succeeds exactly when there is one. -/
theorem map_eq_ok {ε α β : Type} {first : Except ε α} {function : α → β} {value : β} :
    first.map function = .ok value ↔ ∃ middle, first = .ok middle ∧ function middle = value := by
  cases first with
  | error failure => simp [Except.map]
  | ok middle => simp [Except.map]

/-- An operation on a result fails as the result does. -/
theorem map_eq_error {ε α β : Type} {first : Except ε α} {function : α → β} {failure : ε} :
    first.map function = .error failure ↔ first = .error failure := by
  cases first with
  | error other => simp [Except.map]
  | ok middle => simp [Except.map]

namespace Outcome

variable {σ α β : Type}

/-- A chain of two operations succeeds exactly when both do. -/
theorem andThen_eq_ok {first : Outcome σ α} {next : σ → α → Outcome σ β} {value : β} :
    (first.andThen next).result = .ok value ↔
      ∃ middle, first.result = .ok middle ∧ (next first.state middle).result = .ok value := by
  cases found : first.result with
  | error failure => simp [andThen, found]
  | ok middle => simp [andThen, found]

/-- A chain of two operations fails where one of them does. -/
theorem andThen_eq_error {first : Outcome σ α} {next : σ → α → Outcome σ β} {failure : Failure} :
    (first.andThen next).result = .error failure ↔
      first.result = .error failure ∨
        ∃ middle, first.result = .ok middle ∧
          (next first.state middle).result = .error failure := by
  cases found : first.result with
  | error other => simp [andThen, found]
  | ok middle => simp [andThen, found]

/-- A chain goes on from the state of a success. -/
theorem state_andThen_of_ok {first : Outcome σ α} {middle : α} (succeeds : first.result = .ok middle)
    (next : σ → α → Outcome σ β) :
    (first.andThen next).state = (next first.state middle).state := by
  simp [andThen, succeeds]

variable {step : σ → α → Outcome (σ × α) Unit}

/-- The steps of a sweep, none of which fails: from a state and the items read to the state reached
and the items written. -/
inductive Runs (step : σ → α → Outcome (σ × α) Unit) : σ → List α → σ → List α → Prop
  /-- A sweep along no item. -/
  | nil (state : σ) : Runs step state [] state []
  /-- A step, and a sweep along the items behind it. -/
  | cons {state final : σ} {item : α} {rest done : List α}
      (succeeds : (step state item).result = .ok ())
      (later : Runs step (step state item).state.1 rest final done) :
      Runs step state (item :: rest) final ((step state item).state.2 :: done)

/-- A sweep that succeeds is a run, and one that fails is a run up to the item whose step fails; the
items behind that item stay as they were. -/
theorem sweep_cases (step : σ → α → Outcome (σ × α) Unit) (state : σ) (items : List α) :
    ((sweep step state items).result = .ok () ∧
      Runs step state items (sweep step state items).state.1 (sweep step state items).state.2) ∨
    ∃ front item back reached done failure,
      items = front ++ item :: back ∧ Runs step state front reached done ∧
        (step reached item).result = .error failure ∧
        (sweep step state items).result = .error failure ∧
        (sweep step state items).state =
          ((step reached item).state.1, done ++ (step reached item).state.2 :: back) := by
  induction items generalizing state with
  | nil => exact .inl ⟨rfl, .nil state⟩
  | cons item rest ih =>
    cases result : (step state item).result with
    | error failure =>
      refine .inr ⟨[], item, rest, state, [], failure, rfl, .nil state, result, ?_, ?_⟩
      · simp [sweep, result]
      · simp [sweep, result]
    | ok value =>
      rcases ih (step state item).state.1 with ⟨succeeds, run⟩ |
        ⟨front, bad, back, reached, done, failure, split, run, fails, ends, left⟩
      · refine .inl ⟨?_, ?_⟩
        · simp [sweep, result, succeeds]
        · simpa [sweep, result] using Runs.cons result run
      · refine .inr ⟨item :: front, bad, back, reached, _, failure, ?_, .cons result run, fails,
          ?_, ?_⟩
        · rw [split, List.cons_append]
        · simp [sweep, result, ends]
        · simp [sweep, result, left]

/-- A sweep that succeeds is a run. -/
theorem runs_of_sweep {state : σ} {items : List α}
    (succeeds : (sweep step state items).result = .ok ()) :
    Runs step state items (sweep step state items).state.1 (sweep step state items).state.2 := by
  rcases sweep_cases step state items with ⟨_, run⟩ | ⟨_, _, _, _, _, failure, _, _, _, fails, _⟩
  · exact run
  · rw [succeeds] at fails
    cases fails

/-- A run is what a sweep does. -/
theorem Runs.sweep_eq {state final : σ} {items done : List α}
    (run : Runs step state items final done) :
    (sweep step state items).result = .ok () ∧ (sweep step state items).state = (final, done) := by
  induction run with
  | nil state => exact ⟨rfl, rfl⟩
  | cons succeeds later ih => simp [sweep, succeeds, ih.1, ih.2]

/-- The runs are what sweeps do that succeed. -/
theorem runs_iff_sweep {state final : σ} {items done : List α} :
    Runs step state items final done ↔
      (sweep step state items).result = .ok () ∧
        (sweep step state items).state = (final, done) := by
  refine ⟨Runs.sweep_eq, fun both => ?_⟩
  have run := runs_of_sweep both.1
  rw [both.2] at run
  exact run

/-- A sweep fails at the first item whose step fails. -/
theorem Runs.sweep_error {state reached : σ} {front back done : List α} {item : α}
    {failure : Failure} (run : Runs step state front reached done)
    (fails : (step reached item).result = .error failure) :
    (sweep step state (front ++ item :: back)).result = .error failure := by
  induction run with
  | nil state => simp [sweep, fails]
  | cons succeeds later ih => simp [sweep, succeeds, ih fails]

/-- Work along a list stops at an item: what is in front of the item can be done, and the item is
where it fails. -/
structure StopsAt (work : List α → Except Failure Unit) (items : List α) (place : Nat) (item : α)
    (failure : Failure) : Prop where
  /-- The item stands at the place. -/
  here : items[place]? = some item
  /-- The work on the items in front of it succeeds. -/
  before : work (items.take place) = .ok ()
  /-- The work up to the item fails. -/
  fails : work (items.take (place + 1)) = .error failure

/-- A sweep stops at the item behind a run whose step fails. -/
theorem Runs.stopsAt {state reached : σ} {front done : List α} {item : α} {failure : Failure}
    (run : Runs step state front reached done)
    (fails : (step reached item).result = .error failure) (back : List α) :
    StopsAt (fun row => (sweep step state row).result) (front ++ item :: back) front.length item
      failure := by
  refine ⟨by simp, ?_, ?_⟩
  · rw [List.take_left]
    exact run.sweep_eq.1
  · have upTo : (front ++ item :: back).take (front.length + 1) = front ++ [item] := by
      rw [List.take_length_add_append, List.take_succ_cons, List.take_zero]
    rw [upTo]
    exact run.sweep_error fails

/-- A sweep that fails stops at one of its items, behind a run along the items in front of it. -/
theorem exists_stopsAt {state : σ} {items : List α} {failure : Failure}
    (fails : (sweep step state items).result = .error failure) :
    ∃ place item reached done,
      StopsAt (fun row => (sweep step state row).result) items place item failure ∧
      Runs step state (items.take place) reached done ∧
      (step reached item).result = .error failure := by
  rcases sweep_cases step state items with
    ⟨succeeds, _⟩ | ⟨front, item, back, reached, done, other, rfl, run, refused, result, _⟩
  · rw [succeeds] at fails
    cases fails
  · rw [result] at fails
    cases fails
    refine ⟨front.length, item, reached, done, run.stopsAt refused back, ?_, refused⟩
    rwa [List.take_left]

/-- Two sweeps are the same if their steps agree wherever the first one gets. -/
theorem sweep_congr {other : σ → α → Outcome (σ × α) Unit} {state : σ} {items : List α}
    (agree : ∀ front item back reached done, items = front ++ item :: back →
      Runs step state front reached done → step reached item = other reached item) :
    sweep step state items = sweep other state items := by
  induction items generalizing state with
  | nil => rfl
  | cons item rest ih =>
    have head : step state item = other state item :=
      agree [] item rest state [] rfl (.nil state)
    rw [sweep, sweep, ← head]
    cases result : (step state item).result with
    | error failure => rfl
    | ok value =>
      have later : sweep step (step state item).state.1 rest =
          sweep other (step state item).state.1 rest := by
        apply ih
        intro front next back reached done split run
        refine agree (item :: front) next back reached _ ?_ (.cons result run)
        rw [split, List.cons_append]
      simp only [later]

/-- A run along two lists, one behind the other, is a run along the first and then along the second.
-/
theorem Runs.of_append {state final : σ} {front back done : List α}
    (run : Runs step state (front ++ back) final done) :
    ∃ middle before after, Runs step state front middle before ∧
      Runs step middle back final after ∧ done = before ++ after := by
  induction front generalizing state done with
  | nil => exact ⟨state, [], done, .nil state, run, rfl⟩
  | cons item rest ih =>
    cases run with
    | cons succeeds later =>
      obtain ⟨middle, before, after, first, second, rfl⟩ := ih later
      exact ⟨middle, _, after, .cons succeeds first, second, rfl⟩

/-- Every item that a run writes is written by a step behind a run that writes the items in front. -/
theorem Runs.exists_step {state final : σ} {items front back : List α} {item : α}
    (run : Runs step state items final (front ++ item :: back)) :
    ∃ before read after reached, items = before ++ read :: after ∧
      Runs step state before reached front ∧ (step reached read).result = .ok () ∧
      (step reached read).state.2 = item := by
  induction front generalizing state items with
  | nil =>
    cases run with
    | cons succeeds later => exact ⟨[], _, _, state, rfl, .nil state, succeeds, rfl⟩
  | cons first rest ih =>
    cases run with
    | cons succeeds later =>
      obtain ⟨before, read, after, reached, rfl, prior, steps, same⟩ := ih later
      exact ⟨_ :: before, read, after, reached, rfl, .cons succeeds prior, steps, same⟩

/-- A run writes one item for each that it reads. -/
theorem Runs.length_eq {state final : σ} {items done : List α}
    (run : Runs step state items final done) : done.length = items.length := by
  induction run with
  | nil state => rfl
  | cons succeeds later ih => rw [List.length_cons, List.length_cons, ih]

/-- What every step of a run says about the item it reads and the item it writes holds along the two
lists. -/
theorem Runs.forall₂ {related : α → α → Prop} {state final : σ} {items done : List α}
    (run : Runs step state items final done)
    (each : ∀ state, ∀ item ∈ items, (step state item).result = .ok () →
      related item (step state item).state.2) :
    List.Forall₂ related items done := by
  induction run with
  | nil state => exact .nil
  | @cons state final item rest done succeeds later ih =>
    refine .cons (each _ _ List.mem_cons_self succeeds) (ih fun state other mem => ?_)
    exact each state other (List.mem_cons_of_mem item mem)

/-- What every step, failed or not, says about the item it reads and the item it writes holds along
a sweep, if it holds of an item and itself. -/
theorem forall₂_sweep {related : α → α → Prop} {state : σ} {items : List α}
    (same : ∀ item ∈ items, related item item)
    (each : ∀ state, ∀ item ∈ items, related item (step state item).state.2) :
    List.Forall₂ related items (sweep step state items).state.2 := by
  induction items generalizing state with
  | nil => exact .nil
  | cons item rest ih =>
    have head := each state item List.mem_cons_self
    rw [sweep]
    cases (step state item).result with
    | error failure =>
      refine .cons head ?_
      rw [List.forall₂_same]
      exact fun other mem => same other (List.mem_cons_of_mem item mem)
    | ok value =>
      refine .cons head (ih (fun other mem => same other (List.mem_cons_of_mem item mem)) ?_)
      exact fun state other mem => each state other (List.mem_cons_of_mem item mem)

/-- What every step keeps of the state, failed or not, a sweep keeps. -/
theorem state_sweep {motive : σ → Prop} {state : σ} {items : List α} (begins : motive state)
    (each : ∀ state, ∀ item ∈ items, motive state → motive (step state item).state.1) :
    motive (sweep step state items).state.1 := by
  induction items generalizing state with
  | nil => exact begins
  | cons item rest ih =>
    have head := each state item List.mem_cons_self begins
    rw [sweep]
    cases (step state item).result with
    | error failure => exact head
    | ok value => exact ih head fun state other mem => each state other (List.mem_cons_of_mem item mem)

/-- Two sweeps along a list and its image succeed alike or fail alike if their steps do, and where
they succeed they relate what they reach, if their steps do.  Where the steps differ one of them fails,
and then so does its sweep. -/
theorem sweep_related {τ : Type} {image : τ → α → Outcome (τ × α) Unit} {view : α → α}
    {before : σ → τ → Prop} {related : α → α → Prop} {differs : α → Prop} {failure : Failure}
    {items : List α}
    (each : ∀ state other, ∀ item ∈ items, before state other →
      (image other (view item)).result = (step state item).result ∧
        ((step state item).result = .ok () →
          before (step state item).state.1 (image other (view item)).state.1 ∧
            related (step state item).state.2 (image other (view item)).state.2) ∨
      differs item ∧ ((step state item).result = .error failure ∨
        (image other (view item)).result = .error failure))
    {state : σ} {other : τ} (begins : before state other) :
    (sweep image other (items.map view)).result = (sweep step state items).result ∧
        ((sweep step state items).result = .ok () →
          before (sweep step state items).state.1 (sweep image other (items.map view)).state.1 ∧
            List.Forall₂ related (sweep step state items).state.2
              (sweep image other (items.map view)).state.2) ∨
      (∃ item ∈ items, differs item) ∧ ((sweep step state items).result = .error failure ∨
        (sweep image other (items.map view)).result = .error failure) := by
  induction items generalizing state other with
  | nil => exact .inl ⟨rfl, fun _ => ⟨begins, .nil⟩⟩
  | cons item rest ih =>
    rw [List.map_cons]
    rcases each state other item List.mem_cons_self begins with ⟨same, reaches⟩ | ⟨bad, fails | fails⟩
    · cases result : (step state item).result with
      | error own =>
        rw [result] at same
        refine .inl ⟨by simp [sweep, result, same], fun succeeds => ?_⟩
        simp [sweep, result] at succeeds
      | ok value =>
        rw [result] at same
        obtain ⟨next, head⟩ := reaches result
        rcases ih (fun state other item mem => each state other item (List.mem_cons_of_mem _ mem))
          next with ⟨tail, later⟩ | ⟨⟨bad, mem, differs⟩, fails⟩
        · refine .inl ⟨by simpa [sweep, result, same] using tail, fun succeeds => ?_⟩
          obtain ⟨final, others⟩ := later (by simpa [sweep, result] using succeeds)
          simp only [sweep, result, same]
          exact ⟨final, .cons head others⟩
        · refine .inr ⟨⟨bad, List.mem_cons_of_mem item mem, differs⟩, ?_⟩
          simpa [sweep, result, same] using fails
    · exact .inr ⟨⟨item, List.mem_cons_self, bad⟩, .inl (by simp [sweep, fails])⟩
    · exact .inr ⟨⟨item, List.mem_cons_self, bad⟩, .inr (by simp [sweep, fails])⟩

/-- A sweep that succeeds makes the remarks of its steps, one behind the other, if each step remarks
on its item alone. -/
theorem log_sweep {remarks : α → List Remark} {state : σ} {items : List α}
    (own : ∀ state item, (step state item).log = remarks item)
    (succeeds : (sweep step state items).result = .ok ()) :
    (sweep step state items).log = items.flatMap remarks := by
  induction items generalizing state with
  | nil => rfl
  | cons item rest ih =>
    rw [sweep] at succeeds ⊢
    cases result : (step state item).result with
    | error failure =>
      rw [result] at succeeds
      cases succeeds
    | ok value =>
      rw [result] at succeeds
      simp only [List.flatMap_cons, own, ih succeeds]

/-- What holds at the beginning and is kept by every step holds at the end of a run.  The statement
may speak of the items read so far, of the items written so far, and of the state. -/
theorem Runs.invariant {motive : List α → List α → σ → Prop} {items done : List α} {state final : σ}
    (run : Runs step state items final done) (begins : motive [] [] state)
    (each : ∀ read written state item, item ∈ items → motive read written state →
      (step state item).result = .ok () →
      motive (read ++ [item]) (written ++ [(step state item).state.2]) (step state item).state.1) :
    motive items done final := by
  -- The induction needs the items in front of the run, so it is over any split of the whole.
  suffices general : ∀ read written, motive read written state →
      motive (read ++ items) (written ++ done) final by
    simpa using general [] [] begins
  clear begins
  induction run with
  | nil state => simp
  | @cons state final item rest done succeeds later ih =>
    intro read written holds
    have next := each read written state item List.mem_cons_self holds succeeds
    have mine := ih (fun read written state other mem =>
      each read written state other (List.mem_cons_of_mem item mem))
    simpa using mine _ _ next

end Outcome

end TwoPass
