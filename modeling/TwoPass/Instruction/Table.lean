import TwoPass.Failure
import TwoPass.Instruction.Directory
import TwoPass.Text.Numeral

/-!
# Instruction tables

A directory can be read from a text.  Each line that is neither blank nor a comment declares one
machine instruction: mnemonic, format, opcode in hexadecimal, least number of operands, and
optionally the word `SECTION` for an instruction that opens a section.  The directives are always
there; a later entry replaces an earlier one of the same name.
-/

namespace TwoPass

namespace Format

/-- The format of a declared length; the extended format cannot be declared. -/
def declared? : Int → Option Format
  | 1 => some .one
  | 2 => some .two
  | 3 => some .three
  | _ => none

end Format

namespace Directory

/-- The instruction that the words of a line declare. -/
def entryOfWords : List (List Char) → Except Cause Instruction
  | name :: format :: opcode :: needed :: further =>
    match Text.integer? 10 format, Text.integer? 16 opcode, Text.integer? 10 needed with
    | some length, some code, some least =>
      match Format.declared? length with
      | some declared =>
        .ok { mnemonic := String.ofList (Text.upper name)
              action := .machine declared code
              neededOperands := least
              opensSection := further.head?.map Text.upper = some "SECTION".toList }
      | none => .error (.entryFormat length)
    | _, _, _ => .error (.entryNumber (String.ofList name))
  | _ => .error .shortEntry

/-- The instruction that a line declares; blank lines and comments declare none. -/
def entryOfLine (line : List Char) : Except Cause (Option Instruction) :=
  match Text.trim line with
  | [] | '#' :: _ => .ok none
  | text => (entryOfWords (Text.words text)).map some

/-- Takes further lines into a directory; `number` is the number of the first of them. -/
def addLines (file : String) (directory : Directory) (number : Nat) :
    List (List Char) → Except Failure Directory
  | [] => .ok directory
  | line :: rest => match entryOfLine line with
    | .error cause =>
      .error (.diagnostic
        { cause, location := some ⟨file, number, 1⟩, line := some (String.ofList line) })
    | .ok none => addLines file directory (number + 1) rest
    | .ok (some instruction) => addLines file (directory.put instruction) (number + 1) rest

/-- The directory that the text of a file declares. -/
def ofText (file text : String) : Except Failure Directory :=
  addLines file directives 1 (Text.lines (Text.uniformLineEnds text.toList))

end Directory

end TwoPass
