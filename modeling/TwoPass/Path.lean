/-!
# Paths

A path is a row of names with slashes between them, relative or from a root.  Empty names and single
dots mean nothing and are left out; double dots stay.  A root of exactly two slashes is a root of
its own.
-/

namespace TwoPass

/-- A path in its shortest spelling. -/
structure Path where
  /-- The slashes in front. -/
  root : String
  /-- The names. -/
  names : List String
  deriving DecidableEq, Repr

namespace Path

/-- The names between the slashes of a text, the empty ones included. -/
def rawNames (text : String) : List String :=
  (text.toList.splitOnP fun c => c = '/').map String.ofList

/-- The path that a text spells. -/
def ofText (text : String) : Path :=
  { root := match text.toList with
      | '/' :: '/' :: '/' :: _ => "/"
      | '/' :: '/' :: _ => "//"
      | '/' :: _ => "/"
      | _ => ""
    names := (rawNames text).filter fun name => name ≠ "" ∧ name ≠ "." }

/-- The spelling of a path; a path of nothing is a single dot. -/
def text (path : Path) : String :=
  if path.root = "" ∧ path.names.isEmpty then "."
  else path.root ++ "/".intercalate path.names

/-- A file name with another extension.  The extension is what stands behind the last full stop, if
characters stand on both sides of that stop; otherwise the new extension is appended. -/
def renamed (extension name : String) : String :=
  let reversed := name.toList.reverse
  let behind := reversed.takeWhile fun c => c ≠ '.'
  match reversed.dropWhile fun c => c ≠ '.' with
  | '.' :: before =>
    if before.isEmpty ∨ behind.isEmpty then name ++ extension
    else String.ofList before.reverse ++ extension
  | _ => name ++ extension

/-- The path whose last name has another extension. -/
def withExtension (path : Path) (extension : String) : Path :=
  match path.names.getLast? with
  | none => path
  | some name => { path with names := path.names.dropLast ++ [renamed extension name] }

end Path

end TwoPass
