import TwoPass.Operand.Form

/-!
# Literal tables

A literal table lists the literals of a section in the order of their first mention.  A literal has
no location until it is placed.  An operand that names a literal has an equals sign in front; the
table holds the text behind that sign.
-/

namespace TwoPass

/-- A literal: its data form, its location once it is placed, and its kind. -/
structure Literal where
  /-- The text of the data form. -/
  text : String
  /-- The address of the literal. -/
  location : Option Int
  /-- The kind of the data form. -/
  kind : FormKind
  deriving DecidableEq, Repr

namespace Literal

/-- The number of bytes of a literal. -/
def byteLength (literal : Literal) : Except Cause Nat := Form.byteLengthOf literal.text

/-- The bytes of a literal, in hexadecimal. -/
def hex (literal : Literal) : Except Cause (List Char) := Form.hexOf literal.text

end Literal

/-- The literals of a section, in order of first mention. -/
structure LiteralTable where
  /-- The entries, one to a text. -/
  entries : List Literal := []
  deriving DecidableEq, Repr

namespace LiteralTable

/-- The entry of a text, spelled as the table holds it. -/
def entry? (table : LiteralTable) (text : String) : Option Literal :=
  table.entries.find? fun literal => literal.text = text

/-- The entry of an operand. -/
def get? (table : LiteralTable) (operand : String) : Option Literal :=
  table.entry? (Form.withoutMark operand)

/-- The position of the entry of an operand. -/
def indexOf? (table : LiteralTable) (operand : String) : Option Nat :=
  table.entries.findIdx? fun literal => literal.text = Form.withoutMark operand

/-- Takes an operand in, unless its entry is there already, and gives the entry.  The kind is read
from the text if it is not given. -/
def insert (table : LiteralTable) (operand : String) (location : Option Int)
    (kind : Option FormKind) : Except Cause (LiteralTable × Literal) :=
  match table.get? operand with
  | some literal => .ok (table, literal)
  | none =>
    let text := Form.withoutMark operand
    let append (kind : FormKind) : LiteralTable × Literal :=
      let literal : Literal := { text, location, kind }
      (⟨table.entries ++ [literal]⟩, literal)
    match kind with
    | some given => .ok (append given)
    | none => (Form.read text).map fun form => append form.kind

/-- Gives the entry of an operand a location; there is none for an unknown operand. -/
def place? (table : LiteralTable) (operand : String) (location : Int) : Option LiteralTable :=
  if (table.get? operand).isSome then
    some ⟨table.entries.map fun literal =>
      if literal.text = Form.withoutMark operand then { literal with location := some location }
      else literal⟩
  else none

/-- The literals without a location. -/
def unplaced (table : LiteralTable) : List Literal :=
  table.entries.filter fun literal => literal.location.isNone

/-- The literals with a location. -/
def placed (table : LiteralTable) : List Literal :=
  table.entries.filter fun literal => literal.location.isSome

/-- The bytes of the placed literals, in hexadecimal. -/
def hex (table : LiteralTable) : Except Cause (List Char) :=
  (table.placed.mapM Literal.hex).map List.flatten

end LiteralTable

end TwoPass
