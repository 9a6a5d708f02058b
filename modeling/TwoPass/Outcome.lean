import TwoPass.Failure
import TwoPass.Remark

/-!
# Outcomes

An assembly step that stops leaves behind what it had done and said so far.  An `Outcome` therefore
holds the state reached, the remarks made, and the result, which is a value or a failure.  `andThen`
goes on from a value and passes a failure through unchanged.  `sweep` runs a step along a list and
changes each item in turn; a failure leaves the items behind it as they were.
-/

namespace TwoPass

/-- The state that an operation reached, its remarks, and its result. -/
structure Outcome (σ α : Type) where
  /-- The state reached, also by an operation that failed. -/
  state : σ
  /-- The remarks made, in order. -/
  log : List Remark
  /-- The value, or what went wrong. -/
  result : Except Failure α

namespace Outcome

variable {σ τ α β : Type}

/-- A value without remarks. -/
def done (state : σ) (value : α) : Outcome σ α := ⟨state, [], .ok value⟩

/-- A failure without remarks. -/
def failed (state : σ) (failure : Failure) : Outcome σ α := ⟨state, [], .error failure⟩

/-- A result that changes no state. -/
def ofExcept (state : σ) (result : Except Failure α) : Outcome σ α := ⟨state, [], result⟩

/-- The same outcome with a remark in front. -/
def remarked (remark : Remark) (outcome : Outcome σ α) : Outcome σ α :=
  { outcome with log := remark :: outcome.log }

/-- The same outcome over another view of its state. -/
def mapState (view : σ → τ) (outcome : Outcome σ α) : Outcome τ α :=
  ⟨view outcome.state, outcome.log, outcome.result⟩

/-- Goes on from the state and value of a success; a failure stays. -/
def andThen (outcome : Outcome σ α) (next : σ → α → Outcome σ β) : Outcome σ β :=
  match outcome.result with
  | .error failure => ⟨outcome.state, outcome.log, .error failure⟩
  | .ok value =>
    let later := next outcome.state value
    ⟨later.state, outcome.log ++ later.log, later.result⟩

@[simp]
theorem andThen_done (state : σ) (value : α) (next : σ → α → Outcome σ β) :
    (done state value).andThen next = next state value := by
  simp [done, andThen]

/-- Runs a step along a list: the step sees the state so far and changes one item.  A failure leaves
the items behind it as they were. -/
def sweep (step : σ → α → Outcome (σ × α) Unit) : σ → List α → Outcome (σ × List α) Unit
  | state, [] => done (state, []) ()
  | state, item :: rest =>
    let head := step state item
    match head.result with
    | .error failure => ⟨(head.state.1, head.state.2 :: rest), head.log, .error failure⟩
    | .ok () =>
      let tail := sweep step head.state.1 rest
      ⟨(tail.state.1, head.state.2 :: tail.state.2), head.log ++ tail.log, tail.result⟩

end Outcome

end TwoPass
