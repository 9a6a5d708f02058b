import TwoPass.Failure

/-!
# Positions

A position in a list counts from zero; a negative one counts from the end.  Positions are signed
numbers of sixty-four bits.
-/

namespace TwoPass

/-- The place in a list of some length that a position means. -/
def position (length : Nat) (index : Int) : Except Failure Nat :=
  if index < -0x8000000000000000 ∨ 0x8000000000000000 ≤ index then .error .indexTooLarge
  else if 0 ≤ index ∧ index < length then .ok index.toNat
  else if index < 0 ∧ -(length : Int) ≤ index then .ok (length + index).toNat
  else .error .noSuchIndex

end TwoPass
