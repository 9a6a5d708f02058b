/-!
# Tables of code points

Character classes beyond ASCII are given by tables of inclusive ranges of code points.  Membership
is plain comparison of code points, so a table reads the same in a proof as in a run.
-/

namespace TwoPass.Text

/-- Inclusive ranges of code points, each given by its first and last member. -/
abbrev CodeRanges := List (Nat × Nat)

/-- Whether some range of the table holds the character. -/
def CodeRanges.holds (table : CodeRanges) (c : Char) : Bool :=
  table.any fun range => range.1 ≤ c.toNat && c.toNat ≤ range.2

/-- A table holds a character exactly when one of its ranges spans the character's code point. -/
theorem CodeRanges.holds_iff (table : CodeRanges) (c : Char) :
    table.holds c = true ↔ ∃ range ∈ table, range.1 ≤ c.toNat ∧ c.toNat ≤ range.2 := by
  simp [CodeRanges.holds]

end TwoPass.Text
