import TwoPass.Location
import TwoPass.Text.Hex

/-!
# Remarks

What an assembly reports about its progress.  Remarks never change a result; a truncated
displacement is the one remark that warns.
-/

namespace TwoPass

/-- How much a remark matters. -/
inductive Level where
  /-- Detail. -/
  | debug
  /-- Progress. -/
  | info
  /-- A likely mistake in the source. -/
  | warning
  deriving DecidableEq, Repr

namespace Level

/-- The word for a level. -/
def name : Level → String
  | .debug => "DEBUG"
  | .info => "INFO"
  | .warning => "WARNING"

end Level

/-- A report about the progress of an assembly. -/
inductive Remark where
  /-- A literal got its location. -/
  | placed (literal : String) (location : Nat)
  /-- The first pass over a section ended. -/
  | laidOut (program : String) (statements symbols length : Nat)
  /-- A displacement did not fit its field. -/
  | truncated (location : Option Location) (displacement : Int) (mnemonic : String) (width : Nat)
  /-- The second pass over a section ended. -/
  | encoded (program : String) (modifications : Nat)
  /-- All sections of a source were assembled. -/
  | assembled (file : String) (programs : List String)
  /-- The object program was written. -/
  | wroteObject (file : String)
  /-- The listing was written. -/
  | wroteListing (file : String)
  /-- The symbol and literal tables were written. -/
  | wroteSymbols (file : String)
  deriving DecidableEq, Repr

namespace Remark

/-- How much a remark matters. -/
def level : Remark → Level
  | .placed .. | .laidOut .. | .encoded .. => .debug
  | .truncated .. => .warning
  | .assembled .. | .wroteObject _ | .wroteListing _ | .wroteSymbols _ => .info

/-- The wording of a remark. -/
def text : Remark → String
  | .placed literal location =>
    "Literal " ++ literal ++ " placed at " ++ Text.Hex.padded 6 location
  | .laidOut program statements symbols length =>
    "Pass 1 of '" ++ program ++ "': " ++ toString statements ++ " tokens, " ++
      toString symbols ++ " symbols, length " ++ Text.Hex.padded 6 length
  | .truncated location displacement mnemonic width =>
    (match location with
      | some place => place.text
      | none => "line") ++
      ": displacement " ++ toString displacement ++ " of '" ++ mnemonic ++
      "' does not fit in " ++ toString width ++ " bits and is truncated"
  | .encoded program modifications =>
    "Pass 2 of '" ++ program ++ "': " ++ toString modifications ++ " modification records"
  | .assembled file programs =>
    "Assembled " ++ toString programs.length ++ " section(s) from " ++ file ++ ": " ++
      ", ".intercalate (programs.map fun program =>
        if program.isEmpty then "<unnamed>" else program)
  | .wroteObject file => "Wrote object program to " ++ file
  | .wroteListing file => "Wrote listing to " ++ file
  | .wroteSymbols file => "Wrote symbols to " ++ file

end Remark

end TwoPass
