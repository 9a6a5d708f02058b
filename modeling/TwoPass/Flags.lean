/-!
# Addressing flags

The six flags of an instruction of format three or four, written `nixbpe`.  As a number, `n` is the
highest of six bits and `e` the lowest.
-/

namespace TwoPass

/-- A set of addressing flags. -/
structure Flags where
  /-- Indirect addressing. -/
  n : Bool := false
  /-- Immediate addressing. -/
  i : Bool := false
  /-- Indexed addressing. -/
  x : Bool := false
  /-- Relative to the base register. -/
  b : Bool := false
  /-- Relative to the program counter. -/
  p : Bool := false
  /-- Extended format. -/
  e : Bool := false
  deriving DecidableEq, Repr

namespace Flags

/-- The number of a set of flags. -/
def toNat (flags : Flags) : Nat :=
  32 * flags.n.toNat + 16 * flags.i.toNat + 8 * flags.x.toNat + 4 * flags.b.toNat +
    2 * flags.p.toNat + flags.e.toNat

/-- The set of flags of a number; bits above the sixth are ignored. -/
def ofNat (number : Nat) : Flags :=
  { n := number.testBit 5, i := number.testBit 4, x := number.testBit 3
    b := number.testBit 2, p := number.testBit 1, e := number.testBit 0 }

/-- The flags of either set. -/
def union (left right : Flags) : Flags :=
  { n := left.n || right.n, i := left.i || right.i, x := left.x || right.x
    b := left.b || right.b, p := left.p || right.p, e := left.e || right.e }

/-- The flags of both sets. -/
def inter (left right : Flags) : Flags :=
  { n := left.n && right.n, i := left.i && right.i, x := left.x && right.x
    b := left.b && right.b, p := left.p && right.p, e := left.e && right.e }

/-- The flags of the first set that are not in the second. -/
def diff (left right : Flags) : Flags :=
  { n := left.n && !right.n, i := left.i && !right.i, x := left.x && !right.x
    b := left.b && !right.b, p := left.p && !right.p, e := left.e && !right.e }

/-- Sets or clears flags. -/
def assign (flags chosen : Flags) (value : Bool) : Flags :=
  if value then flags.union chosen else flags.diff chosen

/-- Whether every chosen flag is set. -/
def includes (flags chosen : Flags) : Bool := flags.inter chosen = chosen

/-- The flags of simple addressing. -/
def simple : Flags := { n := true, i := true }

/-- The six bits, `n` first. -/
def bits (flags : Flags) : String :=
  String.ofList <| [flags.n, flags.i, flags.x, flags.b, flags.p, flags.e].map fun bit =>
    if bit then '1' else '0'

/-- A set of flags is a number below sixty-four. -/
theorem toNat_lt (flags : Flags) : flags.toNat < 64 := by
  obtain ⟨n, i, x, b, p, e⟩ := flags
  have := n.toNat_le
  have := i.toNat_le
  have := x.toNat_le
  have := b.toNat_le
  have := p.toNat_le
  have := e.toNat_le
  simp only [toNat]
  omega

/-- The flags of a number of flags are the flags themselves. -/
@[simp]
theorem ofNat_toNat (flags : Flags) : ofNat flags.toNat = flags := by
  obtain ⟨n, i, x, b, p, e⟩ := flags
  cases n <;> cases i <;> cases x <;> cases b <;> cases p <;> cases e <;> rfl

end Flags

end TwoPass
