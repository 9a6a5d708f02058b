import TwoPass.Command.Arguments
import TwoPass.Session
import TwoPass.Text.Plain

/-!
# The command

The command assembles one source file and writes the object program, and on request the listing and
the tables.  Complaints about the source end it with status one, complaints about the arguments and
missing files with status two, and everything else with status three.  Lines of the command itself
are printed without control sequences; remarks are printed as they are.
-/

namespace TwoPass.Command

/-- What a command leaves behind: a status, and what it printed. -/
structure Reply where
  /-- The exit status. -/
  status : Nat
  /-- The standard output. -/
  output : String := ""
  /-- The error output. -/
  errors : String := ""
  /-- Whether a trace of the failure was asked for. -/
  traced : Bool := false
  deriving DecidableEq, Repr

/-- A line as the command prints it. -/
def printed (line : String) : String := String.ofList (Text.plain line.toList) ++ "\n"

/-- Why a command stops. -/
inductive Fault where
  /-- A complaint about the source, worded in full. -/
  | diagnostic (message : String)
  /-- Another complaint of the assembler. -/
  | assembler (message : String)
  /-- An argument or a file that cannot be used. -/
  | usage (message : String)
  /-- A failure that should not happen. -/
  | internal (message : String)
  deriving DecidableEq, Repr

namespace Fault

/-- The fault that a failure makes. -/
def ofFailure (failure : Failure) : Fault :=
  match failure with
  | .diagnostic _ => .diagnostic failure.message
  | .noSuchFile _ => .usage failure.message
  | _ => .internal failure.message

/-- What a fault prints, and the status it ends with.  The subject names what the command was doing;
a trace is asked for by a command that says more. -/
def reply (fault : Fault) (verbose : Bool) (subject : Option String) : Reply :=
  match fault with
  | .diagnostic message => { status := 1, errors := printed message }
  | .assembler message =>
    let opening := match subject with
      | none | some "" => "Error: "
      | some given => given ++ " error: "
    { status := 1, errors := printed (opening ++ message) }
  | .usage message => { status := 2, errors := printed ("Error: " ++ message) }
  | .internal message =>
    { status := 3, errors := printed ("Internal error: " ++ message), traced := verbose }

end Fault

/-- The explanation of the command. -/
def helpText : String :=
  joinLines
    ["Usage: sicasm [OPTIONS] INPUT_FILE", "",
     "  Assemble a source file into an object program.  Fields are separated by",
     "  tabs: LABEL, OPERATOR, OPERANDS, COMMENT.", "",
     "Options:",
     "  -o, --output FILE       Output object program file (default: input.obj)",
     "  -l, --listing FILE      Generate listing file",
     "  -s, --symbols FILE      Generate symbol and literal table file",
     "  --strict                Fail when a label is defined twice in one section",
     "  --record-limit INTEGER  Maximum hex characters per text record (even)",
     "  --instructions FILE     Instruction table file",
     "  -v, --verbose           Verbose output",
     "  --version               Show the version and exit.",
     "  --help                  Show this message and exit.", ""]

/-- The version of the command. -/
def versionText : String := "sicasm, version 1.0.0\n"

/-- The reply to arguments that are not well formed. -/
def usageReply : Reply :=
  { status := 2
    errors := "Usage: sicasm [OPTIONS] INPUT_FILE\nTry 'sicasm --help' for help.\n" }

/-- Arguments that were found to be in order. -/
structure Job where
  /-- The source file. -/
  input : Path
  /-- The object program file. -/
  output : Path
  /-- The listing file. -/
  listing : Option Path
  /-- The symbol and literal file. -/
  symbols : Option Path
  /-- The limit on text records. -/
  recordLimit : Option Int
  /-- The instruction table. -/
  instructions : Option Path
  /-- Whether a label that is defined twice is refused. -/
  strict : Bool
  /-- Whether to say more. -/
  verbose : Bool

variable {m : Type → Type} [Monad m]

/-- Whether a path that is to be written is free of a directory. -/
def isWritable (files : FileSystem m) : Option String → m Bool
  | none => return true
  | some spelling => return (← files.status spelling) ≠ .directory

/-- Whether a path that is to be read leads to a file. -/
def isReadable (files : FileSystem m) : Option String → m Bool
  | none => return true
  | some spelling => return (← files.status spelling) = .file

/-- The limit that an argument gives, if it is a number of at least two. -/
def limit? : Option String → Option (Option Int)
  | none => some none
  | some text => ((Text.integer? 10 text.toList).filter fun limit => 2 ≤ limit).map some

/-- Checks the arguments against each other and against the files. -/
def check (files : FileSystem m) (arguments : Arguments) : m (Option Job) := do
  match arguments.positional, limit? arguments.recordLimit with
  | [input], some recordLimit =>
    let readable ← isReadable files (some input)
    let tableReadable ← isReadable files arguments.instructions
    let outputWritable ← isWritable files arguments.output
    let listingWritable ← isWritable files arguments.listing
    let symbolsWritable ← isWritable files arguments.symbols
    if readable && tableReadable && outputWritable && listingWritable && symbolsWritable then
      let path := Path.ofText input
      return some
        { input := path
          output := (arguments.output.map Path.ofText).getD (path.withExtension ".obj")
          listing := arguments.listing.map Path.ofText
          symbols := arguments.symbols.map Path.ofText
          recordLimit
          instructions := arguments.instructions.map Path.ofText
          strict := arguments.strict
          verbose := arguments.verbose }
    else return none
  | _, _ => return none

/-- The settings of a job: those of the environment, with those of the arguments above them. -/
def Job.settings (job : Job) (environment : Settings) : Settings :=
  { recordLimit := job.recordLimit.getD environment.recordLimit
    strict := environment.strict || job.strict
    instructionFile := job.instructions <|> environment.instructionFile }

/-- The lines that remarks print; without saying more, only warnings do. -/
def remarkLines (verbose : Bool) (log : List Remark) : String :=
  String.join <| (log.filter fun remark => verbose || remark.level = .warning).map fun remark =>
    remark.level.name ++ ": " ++ remark.text ++ "\n"

/-- The lines that a command prints about its progress. -/
def progress (verbose : Bool) (lines : List String) : String :=
  if verbose then String.join (lines.map printed) else ""

/-- A reply with earlier output in front of its own. -/
def Reply.after (reply : Reply) (output errors : String) : Reply :=
  { reply with output := output ++ reply.output, errors := errors ++ reply.errors }

/-- The line about a section at the end of a run.  Its length has to be a number that can be
written. -/
def sectionLine (part : Section) : Except Failure String :=
  if Text.isWritable part.header.length then
    .ok ("Section " ++ part.header.name ++ ": " ++ toString part.header.length ++ " bytes, " ++
      toString part.symbols.size ++ " symbols, " ++ toString part.modifications.length ++
      " modification records")
  else .error .numberTooLong

/-- What a run that says more says at its end: a line about each section, up to one that cannot be
written, and the number of sections. -/
def summary (openings : Nat) : List Section → Reply
  | [] =>
    { status := 0
      output := printed ("Assembly complete: " ++ toString openings ++ " section(s)") }
  | part :: rest => match sectionLine part with
    | .error failure => (Fault.ofFailure failure).reply true (some "Assembly")
    | .ok line => (summary openings rest).after (printed line) ""

/-- A file that a job writes: how it is called, how it is written, and where to. -/
structure Target (m : Type → Type) where
  /-- What the file holds. -/
  subject : String
  /-- Writes the file. -/
  write : String → m (Outcome Unit Unit)
  /-- The path of the file. -/
  path : Path

/-- Writes files one behind the other, up to the first failure. -/
def writeTargets (verbose : Bool) : List (Target m) → m Reply
  | [] => return { status := 0 }
  | target :: rest => do
    let outcome ← target.write target.path.text
    let errors := remarkLines verbose outcome.log
    match outcome.result with
    | .error failure =>
      return ((Fault.ofFailure failure).reply verbose (some "Assembly")).after "" errors
    | .ok () =>
      let output := progress verbose ["Wrote " ++ target.subject ++ " to " ++ target.path.text]
      return (← writeTargets verbose rest).after output errors

/-- The files of a job, in the order in which they are written. -/
def Job.targets (files : FileSystem m) (job : Job) (session : Session) : List (Target m) :=
  [{ subject := "object program", write := session.writeObject files, path := job.output }] ++
    (job.listing.toList.map fun path =>
      { subject := "listing", write := session.writeListing files, path }) ++
    (job.symbols.toList.map fun path =>
      { subject := "symbols", write := session.writeSymbols files, path })

/-- Assembles the source of a job and writes its files. -/
def Job.assemble (files : FileSystem m) (job : Job) (session : Session) : m Reply := do
  let opening := progress job.verbose <|
    ["Assembling " ++ job.input.text ++ "..."] ++
    (session.settings.instructionFile.toList.map fun path =>
      "Instruction table: " ++ path.text) ++
    ["Strict symbols: " ++ if session.settings.strict then "enabled" else "disabled"]
  let outcome ← session.assembleFile files job.input
  let errors := remarkLines job.verbose outcome.log
  match outcome.result with
  | .error failure =>
    return ((Fault.ofFailure failure).reply job.verbose (some "Assembly")).after opening errors
  | .ok _ =>
    let session := { session with assembly := outcome.state }
    let written ← writeTargets job.verbose (job.targets files session)
    let ended :=
      if written.status = 0 && job.verbose then
        (summary session.assembly.openings session.assembly.sections).after
          written.output written.errors
      else written
    return ended.after opening errors

/-- Runs a job. -/
def Job.run (files : FileSystem m) (environment : String → Option String) (job : Job) :
    m Reply := do
  match job.recordLimit with
  | some limit =>
    if limit % 2 ≠ 0 then
      return (Fault.usage ("--record-limit must be even, got " ++ toString limit)).reply
        job.verbose none
  | none => pure ()
  match ← Session.begin files (job.settings (Settings.ofEnvironment environment)) with
  | .error failure => return (Fault.ofFailure failure).reply job.verbose (some "Assembly")
  | .ok session => job.assemble files session

/-- Runs the command on its arguments, under environment variables. -/
def run (files : FileSystem m) (environment : String → Option String) (arguments : List String) :
    m Reply := do
  match Arguments.read arguments with
  | none => return usageReply
  | some read => match read.request with
    | some .help => return { status := 0, output := helpText }
    | some .version => return { status := 0, output := versionText }
    | none => match ← check files read with
      | none => return usageReply
      | some job => job.run files environment

end TwoPass.Command
