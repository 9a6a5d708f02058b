import TwoPass.Externals
import TwoPass.Item
import TwoPass.LiteralTable
import TwoPass.Modification

/-!
# Sections

A section is a part of a program that is assembled on its own: a header, four tables, and the items
in source order.
-/

namespace TwoPass

/-- What the object program says about a section as a whole. -/
structure Header where
  /-- The name of the program. -/
  name : String := ""
  /-- The address at which the program starts. -/
  start : Int := 0
  /-- The number of bytes of the section. -/
  length : Int := 0
  /-- Whether execution begins in this section. -/
  isMain : Bool := false
  deriving DecidableEq, Repr

/-- What the passes over a section collect. -/
structure Tables where
  /-- The header. -/
  header : Header := {}
  /-- The labels and their values. -/
  symbols : SymbolTable := {}
  /-- The literals. -/
  literals : LiteralTable := {}
  /-- The exported and imported names. -/
  externals : Externals := {}
  /-- The fields left to the linker. -/
  modifications : List Modification := []
  deriving DecidableEq, Repr

/-- A section: its tables and its items. -/
structure Section extends Tables where
  /-- The items, in source order. -/
  items : List Item := []
  deriving DecidableEq, Repr

namespace Section

/-- Adds an item behind all others. -/
def push (part : Section) (item : Item) : Section := { part with items := part.items ++ [item] }

end Section

end TwoPass
