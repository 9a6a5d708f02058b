import TwoPass.Text.Numeral

/-!
# Places in a source text

A location names a file, a line and a column.  Lines and columns count from one; the types admit
every integer, because a location may be given from outside.
-/

namespace TwoPass

/-- A position in a named source text. -/
structure Location where
  /-- The name of the text. -/
  file : String
  /-- The number of the line. -/
  line : Int
  /-- The number of the character in the line. -/
  column : Int
  deriving DecidableEq, Repr

namespace Location

/-- The location that lies a number of characters further right. -/
def shifted (location : Location) (count : Nat) : Location :=
  { location with column := location.column + count }

/-- Whether the numbers of a location can be written. -/
def isWritable (location : Location) : Bool :=
  Text.isWritable location.line && Text.isWritable location.column

/-- A location as it stands in front of a message. -/
def text (location : Location) : String :=
  location.file ++ ":" ++ toString location.line ++ ":" ++ toString location.column

end Location

end TwoPass
