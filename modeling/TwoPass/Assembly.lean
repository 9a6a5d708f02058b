import TwoPass.Encoding
import TwoPass.Record.Object

/-!
# Assemblies

An assembly is the row of sections of one source.  Lines are read one by one: an operator that opens
a section begins a new one, unless the last section is still empty.  Assembling a source reads it,
runs both passes over each section in turn, and joins their object programs.
-/

namespace TwoPass

/-- The sections read so far, and how many lines opened one. -/
structure Assembly where
  /-- The sections, in source order. -/
  sections : List Section := []
  /-- The number of lines whose operator opens a section. -/
  openings : Nat := 0
  deriving DecidableEq, Repr

namespace Assembly

/-- Adds an item to the last section, or to a new one if there is none. -/
def pushLast (item : Item) : List Section → List Section
  | [] => [({} : Section).push item]
  | [last] => [last.push item]
  | part :: rest => part :: pushLast item rest

/-- Whether a section that is opened now has to be a new one. -/
def needsSection (sections : List Section) : Bool :=
  match sections.getLast? with
  | some part => !part.items.isEmpty
  | none => true

/-- Adds a validated item, in a new section if its instruction opens one. -/
def push (assembly : Assembly) (item : Item) (instruction : Instruction) : Assembly :=
  if instruction.opensSection then
    let sections :=
      if needsSection assembly.sections then assembly.sections ++ [({} : Section)]
      else assembly.sections
    { sections := pushLast item sections, openings := assembly.openings + 1 }
  else { assembly with sections := pushLast item assembly.sections }

/-- Reads one line and gives the item added for it; a comment adds none. -/
def addLine (directory : Directory) (assembly : Assembly) (line : String)
    (location : Option Location) : Except Diagnostic (Assembly × Option Item) :=
  if holdsNoStatement line then .ok (assembly, none)
  else do
    let statement ← Statement.parse line location
    let instruction ← statement.resolve (directory.lookup statement.operator)
    let item : Item := { statement, instruction := some instruction }
    return (assembly.push item instruction, some item)

/-- Reads further lines; `number` is the number of the first of them. -/
def addLines (directory : Directory) (file : String) (assembly : Assembly) (number : Nat) :
    List (List Char) → Outcome Assembly Unit
  | [] => .done assembly ()
  | line :: rest =>
    match assembly.addLine directory (String.ofList line) (some ⟨file, number, 1⟩) with
    | .error diagnostic => .failed assembly (.diagnostic diagnostic)
    | .ok (assembly, _) => addLines directory file assembly (number + 1) rest

/-- Reads every line of a source text. -/
def addSource (directory : Directory) (assembly : Assembly) (source file : String) :
    Outcome Assembly Unit :=
  addLines directory file assembly 1 (Text.lines source.toList)

/-- Runs both passes over each section in turn. -/
def assembleSections (rules : Rules) (assembly : Assembly) : Outcome Assembly Unit :=
  (Outcome.sweep
    (fun _ part => (part.assemble rules).mapState fun part => ((), part)) ()
    assembly.sections).mapState fun reached => { assembly with sections := reached.2 }

/-- The object programs of a row of sections, one behind the other. -/
def objectPrograms (limit : Int) : List Section → Except Failure String
  | [] => .ok ""
  | part :: rest => match part.objectProgram limit with
    | .error failure => .error failure
    | .ok program => (objectPrograms limit rest).map fun later => program ++ later

/-- The object program of all sections. -/
def objectProgram (assembly : Assembly) (limit : Int) : Except Failure String :=
  objectPrograms limit assembly.sections

/-- Assembles a source from the beginning. -/
def assemble (rules : Rules) (limit : Int) (source file : String) : Outcome Assembly String :=
  ((addSource rules.directory {} source file).andThen fun assembly _ =>
    assembly.assembleSections rules).andThen fun assembly _ =>
      let programs := assembly.sections.map fun part => part.header.name
      .remarked (.assembled file programs) (.ofExcept assembly (assembly.objectProgram limit))

end Assembly

end TwoPass
