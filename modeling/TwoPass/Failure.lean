import TwoPass.Diagnostic
import TwoPass.Text.Numeral

/-!
# Failures

Everything that can stop an operation: a diagnostic about the source, or a condition outside it,
such as a file that does not exist.
-/

namespace TwoPass

/-- A reason for stopping. -/
inductive Failure where
  /-- The source is wrong. -/
  | diagnostic (diagnostic : Diagnostic)
  /-- A text of digit signs that has no decimal value. -/
  | notANumber (text : String)
  /-- A decimal numeral with more digits than are read. -/
  | numeralTooLong (digits : Nat)
  /-- A number with more decimal digits than are written. -/
  | numberTooLong
  /-- A limit on text records that is not a positive even number. -/
  | recordLimit (limit : Int)
  /-- A literal to be placed that is not in the table. -/
  | unknownLiteral (text : String)
  /-- A pooled literal without a location. -/
  | unplacedLiteral (text : String)
  /-- A position outside a list. -/
  | noSuchIndex
  /-- A position that no list can have. -/
  | indexTooLarge
  /-- A file that does not exist. -/
  | noSuchFile (path : String)
  /-- A directory where a file is needed. -/
  | isDirectory (path : String)
  /-- A file where a directory is needed. -/
  | notDirectory (path : String)
  /-- A path or a name on it with more bytes than a file system takes. -/
  | nameTooLong (path : String)
  /-- A path with a null character in it. -/
  | nullInPath
  /-- Any other trouble with a file. -/
  | fileTrouble (text : String)
  deriving DecidableEq, Repr

namespace Failure

/-- The failure of a diagnostic.  A message names the location, so a location that cannot be written
is the failure instead. -/
def ofDiagnostic (found : Diagnostic) : Failure :=
  if found.isWritable then .diagnostic found else .numberTooLong

/-- A failure that no place in a source text belongs to. -/
def ofCause (cause : Cause) : Failure := .diagnostic { cause }

/-- The message of a failure. -/
def message : Failure → String
  | .diagnostic found => found.message
  | .notANumber text =>
    "invalid literal for int() with base 10: " ++
      String.ofList ((Text.quoted text).toList.take 200)
  | .numeralTooLong digits =>
    "Exceeds the limit (" ++ toString Text.digitLimit ++
      " digits) for integer string conversion: value has " ++ toString digits ++
      " digits; use sys.set_int_max_str_digits() to increase the limit"
  | .numberTooLong =>
    "Exceeds the limit (" ++ toString Text.digitLimit ++
      " digits) for integer string conversion; " ++
      "use sys.set_int_max_str_digits() to increase the limit"
  | .recordLimit limit =>
    "text record limit must be a positive even number, got " ++ toString limit
  | .unknownLiteral text => Text.quoted text
  | .unplacedLiteral _ => "unsupported operand type(s) for +=: 'NoneType' and 'int'"
  | .noSuchIndex => "list index out of range"
  | .indexTooLarge => "cannot fit 'int' into an index-sized integer"
  | .noSuchFile path => "[Errno 2] No such file or directory: " ++ Text.quoted path
  | .isDirectory path => "[Errno 21] Is a directory: " ++ Text.quoted path
  | .notDirectory path => "[Errno 20] Not a directory: " ++ Text.quoted path
  | .nameTooLong path => "[Errno 36] File name too long: " ++ Text.quoted path
  | .nullInPath => "embedded null byte"
  | .fileTrouble text => text

end Failure

end TwoPass
