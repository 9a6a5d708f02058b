import TwoPass.Path
import TwoPass.Record.Text
import TwoPass.Text.Blank
import TwoPass.Text.Numeral

/-!
# Settings

The settings of an assembly and their reading from environment variables.  A variable that is unset,
empty or without meaning leaves the standard setting.
-/

namespace TwoPass

/-- The settings of an assembly. -/
structure Settings where
  /-- The limit on text records, in hexadecimal digits. -/
  recordLimit : Int := RecordLimit.standard
  /-- Whether a label that is defined twice is refused. -/
  strict : Bool := false
  /-- The instruction table to use instead of the built-in one. -/
  instructionFile : Option Path := none
  deriving DecidableEq, Repr

namespace Settings

/-- The words that switch a setting on. -/
def switchWords : List String := ["1", "true", "yes", "on"]

/-- Whether a text switches a setting on, whatever the case of its ASCII letters; no other character
has a lower-case form in one of the words. -/
def isOn (text : String) : Bool :=
  String.ofList ((Text.trim text.toList).map Char.toLower) ∈ switchWords

/-- The limit that a text gives: a positive even number. -/
def limit? (text : String) : Option Int :=
  (Text.integer? 10 text.toList).filter fun limit => 0 < limit && limit % 2 = 0

/-- The settings that environment variables give. -/
def ofEnvironment (environment : String → Option String) : Settings :=
  let given? (name : String) : Option String := (environment name).filter fun value => value ≠ ""
  { recordLimit := ((given? "SICASM_TEXT_RECORD_LIMIT").bind limit?).getD RecordLimit.standard
    strict := ((given? "SICASM_STRICT_SYMBOLS").map isOn).getD false
    instructionFile := (given? "SICASM_INSTRUCTION_FILE").map Path.ofText }

end Settings

end TwoPass
