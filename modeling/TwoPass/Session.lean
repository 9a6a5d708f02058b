import TwoPass.Files
import TwoPass.Instruction.Table
import TwoPass.Report
import TwoPass.Settings

/-!
# Sessions

A session holds its settings, the directory they select, and the assembly of the source read last.
Its operations on files work over any file system.
-/

namespace TwoPass

/-- The settings of an assembly, its directory, and its sections. -/
structure Session where
  /-- The settings. -/
  settings : Settings
  /-- The instructions that operators may name. -/
  directory : Directory
  /-- The sections read so far. -/
  assembly : Assembly := {}

namespace Session

/-- What governs the assembly of the sections. -/
def rules (session : Session) : Rules :=
  { directory := session.directory, strict := session.settings.strict }

/-- Assembles a source in place of what was read before. -/
def assemble (session : Session) (source file : String) : Outcome Assembly String :=
  Assembly.assemble session.rules session.settings.recordLimit source file

/-- The object program of the sections. -/
def objectProgram (session : Session) : Except Failure String :=
  session.assembly.objectProgram session.settings.recordLimit

variable {m : Type → Type} [Monad m]

/-- The directory that settings select: the built-in one, or the one in a file. -/
def chosenDirectory (files : FileSystem m) (settings : Settings) :
    m (Except Failure Directory) :=
  match settings.instructionFile with
  | none => return .ok Directory.builtin
  | some path => do
    match ← files.read path with
    | .error failure => return .error failure
    | .ok text => return Directory.ofText path.text text

/-- A session without sections, under some settings. -/
def begin (files : FileSystem m) (settings : Settings) : m (Except Failure Session) := do
  match ← chosenDirectory files settings with
  | .error failure => return .error failure
  | .ok directory => return .ok { settings, directory }

/-- Assembles the source in a file. -/
def assembleFile (files : FileSystem m) (session : Session) (path : Path) :
    m (Outcome Assembly String) := do
  match ← files.read path with
  | .error failure => return .failed session.assembly failure
  | .ok text =>
    return session.assemble (String.ofList (Text.uniformLineEnds text.toList)) path.text

/-- Writes a text, unless it could not be made, and makes a remark about it. -/
def writeText (files : FileSystem m) (file : String) (remark : String → Remark)
    (text : Except Failure String) : m (Outcome Unit Unit) := do
  match text with
  | .error failure => return .failed () failure
  | .ok text => match ← files.write (Path.ofText file) text with
    | .error failure => return .failed () failure
    | .ok () => return .remarked (remark file) (.done () ())

/-- Writes the object program into a file. -/
def writeObject (files : FileSystem m) (session : Session) (file : String) :
    m (Outcome Unit Unit) :=
  writeText files file .wroteObject session.objectProgram

/-- Writes the listing into a file. -/
def writeListing (files : FileSystem m) (session : Session) (file : String) :
    m (Outcome Unit Unit) :=
  writeText files file .wroteListing session.assembly.listing

/-- Writes the symbols and the literals into a file. -/
def writeSymbols (files : FileSystem m) (session : Session) (file : String) :
    m (Outcome Unit Unit) :=
  writeText files file .wroteSymbols (.ok session.assembly.tableReport)

end Session

end TwoPass
