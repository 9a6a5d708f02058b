import TwoPass.Failure
import TwoPass.OrderedMap
import TwoPass.Path
import TwoPass.Text.Line

/-!
# Files

What an assembly needs of a file system: to tell files from directories, to read a text and to write
one.  `FileSystem` is that interface over any monad, and `Store` is a file system in memory: a
directory of named texts.
-/

namespace TwoPass

/-- What stands at a path. -/
inductive FileStatus where
  /-- A file. -/
  | file
  /-- A directory. -/
  | directory
  /-- Nothing that can be reached. -/
  | missing
  deriving DecidableEq, Repr

/-- The operations of a file system. -/
structure FileSystem (m : Type → Type) where
  /-- What stands at a path, spelled as it was given. -/
  status : String → m FileStatus
  /-- The text of a file. -/
  read : Path → m (Except Failure String)
  /-- Writes a text into a file. -/
  write : Path → String → m (Except Failure Unit)

/-- Files in memory, each with its text; directories are there as far as files lie in them. -/
structure Store where
  /-- The texts of the files, by the names along their paths. -/
  files : OrderedMap (List String) String := {}
  deriving DecidableEq, Repr

namespace Store

/-- The text of the file at a row of names. -/
def text? (store : Store) (names : List String) : Option String := store.files.find? names

/-- Whether a file lies below a row of names; the top directory is always there. -/
def isDirectory (store : Store) (names : List String) : Bool :=
  names.isEmpty ||
    store.files.keys.any fun file => names.isPrefixOf file && names.length < file.length

/-- A place that a walk along names can reach. -/
inductive Spot where
  /-- A row of names below the top directory. -/
  | within (names : List String)
  /-- A directory above the top directory. -/
  | above
  deriving DecidableEq, Repr

/-- What a path runs into. -/
inductive Obstacle where
  /-- A directory on the way does not exist. -/
  | missing
  /-- A file stands where a directory is needed. -/
  | file
  /-- The path or a name on it is too long. -/
  | longName
  /-- The path has a null character in it. -/
  | null
  deriving DecidableEq, Repr

/-- The largest number of bytes in a name. -/
def nameLimit : Nat := 255

/-- The largest number of bytes in a path. -/
def pathLimit : Nat := 4095

/-- Walks along names from a spot; every spot that is left has to be a directory. -/
def walk (store : Store) : Spot → List String → Except Obstacle Spot
  | spot, [] => .ok spot
  | .above, name :: rest =>
    if name = ".." then walk store .above rest
    else .error (if nameLimit < name.utf8ByteSize then .longName else .missing)
  | .within names, name :: rest =>
    if (store.text? names).isSome then .error .file
    else if !store.isDirectory names then .error .missing
    else if name = ".." then
      walk store (if names.isEmpty then .above else .within names.dropLast) rest
    else if nameLimit < name.utf8ByteSize then .error .longName
    else walk store (.within (names ++ [name])) rest

/-- The spot that a path leads to; nothing but the root itself can be reached from a root. -/
def locate (store : Store) (path : Path) : Except Obstacle Spot :=
  if path.text.toList.contains '\x00' then .error .null
  else if pathLimit < path.text.utf8ByteSize then .error .longName
  else if path.root = "" then walk store (.within []) path.names else walk store .above path.names

/-- What stands at a path, spelled as it was given; a slash or a dot at the end asks for a
directory. -/
def status (store : Store) (spelling : String) : FileStatus :=
  let needsDirectory := match (Path.rawNames spelling).getLast? with
    | some name => name = "" || name = "."
    | none => false
  if spelling = "" || pathLimit < spelling.utf8ByteSize then .missing
  else match store.locate (Path.ofText spelling) with
    | .error _ => .missing
    | .ok .above => .directory
    | .ok (.within names) =>
      if (store.text? names).isSome then
        if needsDirectory then .missing else .file
      else if store.isDirectory names then .directory
      else .missing

/-- The failure of a path that runs into an obstacle. -/
def blocked (path : Path) : Obstacle → Failure
  | .missing => .noSuchFile path.text
  | .file => .notDirectory path.text
  | .longName => .nameTooLong path.text
  | .null => .nullInPath

/-- The text of the file at a path. -/
def read (store : Store) (path : Path) : Except Failure String :=
  match store.locate path with
  | .error obstacle => .error (blocked path obstacle)
  | .ok .above => .error (.isDirectory path.text)
  | .ok (.within names) => match store.text? names with
    | some text => .ok text
    | none =>
      .error (if store.isDirectory names then .isDirectory path.text else .noSuchFile path.text)

/-- Writes a text into the file at a path. -/
def write (store : Store) (path : Path) (text : String) : Except Failure Store :=
  match store.locate path with
  | .error obstacle => .error (blocked path obstacle)
  | .ok .above => .error (.isDirectory path.text)
  | .ok (.within names) =>
    if store.isDirectory names then .error (.isDirectory path.text)
    else .ok ⟨store.files.put names text⟩

/-- The store of some files, given by path and text. -/
def ofFiles (files : List (String × String)) : Store :=
  ⟨.ofList (files.map fun file => ((Path.ofText file.1).names, file.2))⟩

/-- A store as a file system. -/
def fileSystem : FileSystem (StateM Store) where
  status spelling := do return (← get).status spelling
  read path := do return (← get).read path
  write path text := do
    match (← get).write path text with
    | .error failure => return .error failure
    | .ok store =>
      set store
      return .ok ()

/-- The files of a store that another store does not hold with the same text, by path. -/
def newerThan (store earlier : Store) : List (String × String) :=
  (store.files.entries.filter fun file => earlier.text? file.1 ≠ some file.2).map fun file =>
    ("/".intercalate file.1, file.2)

end Store

end TwoPass
