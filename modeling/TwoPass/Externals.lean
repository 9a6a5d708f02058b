import TwoPass.Failure
import TwoPass.SymbolTable

/-!
# Names shared between sections

A section lists the names that it offers to other sections and the names that it expects from them.
Each list keeps the order of first mention and holds no name twice.  Both are written into the
object program, six names to a record.
-/

namespace TwoPass

/-- A row of items cut into groups of a size, the last of which may be shorter.  No group is empty.
-/
def groupsOf {α : Type} (size : Nat) : List α → List (List α)
  | [] => []
  | item :: rest => (item :: rest.take (size - 1)) :: groupsOf size (rest.drop (size - 1))
termination_by items => items.length
decreasing_by
  simp only [List.length_drop, List.length_cons]
  omega

/-- The groups hold the items in their order. -/
theorem flatten_groupsOf {α : Type} (size : Nat) (items : List α) :
    (groupsOf size items).flatten = items := by
  fun_induction groupsOf size items with
  | case1 => rfl
  | case2 item rest ih => rw [List.flatten_cons, ih, List.cons_append, List.take_append_drop]

/-- A text with spaces behind it, up to a width. -/
def padRight (width : Nat) (text : String) : String :=
  text ++ String.ofList (List.replicate (width - text.length) ' ')

/-- The names that a section exports and imports. -/
structure Externals where
  /-- The exported names. -/
  exports : List String := []
  /-- The imported names. -/
  imports : List String := []
  deriving DecidableEq, Repr

namespace Externals

/-- Appends the names that are not yet listed. -/
def merge (names new : List String) : List String :=
  new.foldl (fun listed name => if name ∈ listed then listed else listed ++ [name]) names

/-- Exports further names. -/
def addExports (externals : Externals) (names : List String) : Externals :=
  { externals with exports := merge externals.exports names }

/-- Imports further names. -/
def addImports (externals : Externals) (names : List String) : Externals :=
  { externals with imports := merge externals.imports names }

/-- The width of a name in a record. -/
def nameWidth : Nat := 6

/-- The number of names in a full record. -/
def namesPerRecord : Nat := 6

/-- The entry of an exported name: the name and its value, taken to twenty-four bits. -/
def exportEntry (symbols : SymbolTable) (name : String) : Except Failure String :=
  match symbols.find? name with
  | some value => .ok (padRight nameWidth name ++ Text.Hex.padded 6 (value % 0x1000000))
  | none => .error (.ofCause (.undefinedExport name))

/-- The record of a group of exported names. -/
def exportRecord (symbols : SymbolTable) (names : List String) : Except Failure String :=
  (names.mapM (exportEntry symbols)).map fun entries => "D" ++ String.join entries ++ "\n"

/-- The records of the exported names. -/
def exportRecords (externals : Externals) (symbols : SymbolTable) : Except Failure String :=
  ((groupsOf namesPerRecord externals.exports).mapM (exportRecord symbols)).map String.join

/-- The record of a group of imported names. -/
def importRecord (names : List String) : String :=
  "R" ++ String.join (names.map (padRight nameWidth)) ++ "\n"

/-- The records of the imported names. -/
def importRecords (externals : Externals) : String :=
  String.join ((groupsOf namesPerRecord externals.imports).map importRecord)

end Externals

end TwoPass
