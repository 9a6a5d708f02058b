import TwoPass.Text.Hex

/-!
# Modifications

A modification asks the linker to add the value of an imported name to a field of the object
program, or to subtract it.
-/

namespace TwoPass

/-- A field that the linker has to change. -/
structure Modification where
  /-- The address of the field. -/
  location : Int
  /-- The length of the field in half-bytes. -/
  length : Int
  /-- Whether the value is added or subtracted. -/
  sign : String
  /-- The imported name. -/
  symbol : String
  deriving DecidableEq, Repr

namespace Modification

/-- The record of a modification. -/
def record (modification : Modification) : String :=
  "M" ++ Text.Hex.padded 6 modification.location ++ Text.Hex.padded 2 modification.length ++
    modification.sign ++ modification.symbol ++ "\n"

/-- The records of a row of modifications. -/
def records (modifications : List Modification) : String :=
  String.join (modifications.map record)

end Modification

end TwoPass
