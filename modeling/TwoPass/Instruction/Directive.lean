/-!
# Directives

The operators that direct the assembly instead of naming a machine instruction.  A directive has a
name, the number of bytes it always takes up, a least number of operands, and it may open a section.
-/

namespace TwoPass

/-- An operator that directs the assembly. -/
inductive Directive where
  /-- Opens the main section. -/
  | start
  /-- Opens a control section. -/
  | csect
  /-- Lists names that other sections may use. -/
  | extdef
  /-- Lists names that other sections define. -/
  | extref
  /-- Reserves words. -/
  | resw
  /-- Reserves bytes. -/
  | resb
  /-- Gives a label a value. -/
  | equ
  /-- Places the literals collected so far. -/
  | ltorg
  /-- Ends the source and places the literals collected so far. -/
  | finish
  /-- One byte of data. -/
  | byte
  /-- One word of data. -/
  | word
  deriving DecidableEq, Repr

namespace Directive

/-- The operator that writes a directive. -/
def name : Directive → String
  | .start => "START"
  | .csect => "CSECT"
  | .extdef => "EXTDEF"
  | .extref => "EXTREF"
  | .resw => "RESW"
  | .resb => "RESB"
  | .equ => "EQU"
  | .ltorg => "LTORG"
  | .finish => "END"
  | .byte => "BYTE"
  | .word => "WORD"

/-- Every directive, in the order of the directory. -/
def all : List Directive :=
  [.start, .csect, .extdef, .extref, .resw, .resb, .equ, .ltorg, .finish, .byte, .word]

/-- The number of bytes that a directive takes up whatever its operands are. -/
def size : Directive → Nat
  | .byte => 1
  | .word => 3
  | _ => 0

/-- The least number of operands. -/
def neededOperands : Directive → Nat
  | .csect | .ltorg | .finish => 0
  | _ => 1

/-- Whether the directive begins a section. -/
def opensSection : Directive → Bool
  | .start | .csect => true
  | _ => false

end Directive

end TwoPass
