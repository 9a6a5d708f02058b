import TwoPass.Command.Run

/-!
# The command-line program

Binds the command to the real file system, the environment and the standard streams.
-/

namespace TwoPass.Program

/-- The number of an error of the file system, which may be given with either sign. -/
def errorNumber (code : UInt32) : UInt32 := min code (0 - code)

/-- The failure that an error of the file system makes. -/
def failureOf (path : Path) : IO.Error → Failure
  | .noFileOrDirectory .. => .noSuchFile path.text
  | .inappropriateType _ code _ =>
    if errorNumber code = 20 then .notDirectory path.text else .isDirectory path.text
  | .invalidArgument _ code details =>
    if errorNumber code = 36 then .nameTooLong path.text else .fileTrouble details
  | error => .fileTrouble (toString error)

/-- The text of a file. -/
def readText (path : Path) : IO (Except Failure String) := do
  try return .ok (← IO.FS.readFile path.text)
  catch error => return .error (failureOf path error)

/-- Writes a text into a file. -/
def writeText (path : Path) (text : String) : IO (Except Failure Unit) := do
  try
    IO.FS.writeFile path.text text
    return .ok ()
  catch error => return .error (failureOf path error)

/-- What stands at a path, found out by reading it. -/
def statusOf (spelling : String) : IO FileStatus := do
  if spelling = "" then return .missing
  match ← readText (Path.ofText spelling) with
  | .ok _ => return .file
  | .error (.isDirectory _) => return .directory
  | .error _ => return .missing

/-- The real file system. -/
def files : FileSystem IO := { status := statusOf, read := readText, write := writeText }

/-- The environment variables that the command reads. -/
def variableNames : List String :=
  ["SICASM_TEXT_RECORD_LIMIT", "SICASM_STRICT_SYMBOLS", "SICASM_INSTRUCTION_FILE"]

end TwoPass.Program

/-- Runs the command and prints what it has to say. -/
def main (arguments : List String) : IO UInt32 := do
  let values ← TwoPass.Program.variableNames.mapM fun name => return (name, ← IO.getEnv name)
  let reply ← TwoPass.Command.run TwoPass.Program.files (fun name => (values.lookup name).join)
    arguments
  IO.print reply.output
  IO.eprint reply.errors
  return reply.status.toUInt32
