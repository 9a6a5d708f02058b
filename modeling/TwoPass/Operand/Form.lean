import TwoPass.Diagnostic

/-!
# Data forms

A data form is `C'…'` or `X'…'`: characters, or hexadecimal digits, between single quotes.  A
literal is a data form behind an equals sign.  A character stands for one byte; two hexadecimal
digits stand for one byte, and an odd last digit stands for none.
-/

namespace TwoPass

/-- What stands between the quotes of a data form. -/
inductive FormKind where
  /-- Characters, one byte each. -/
  | character
  /-- Hexadecimal digits, half a byte each. -/
  | hexadecimal
  deriving DecidableEq, Repr

namespace FormKind

/-- The kind that a letter in front of the quotes writes. -/
def ofChar? : Char → Option FormKind
  | 'C' | 'c' => some .character
  | 'X' | 'x' => some .hexadecimal
  | _ => none

/-- The upper-case letter of a kind. -/
def letter : FormKind → String
  | .character => "C"
  | .hexadecimal => "X"

end FormKind

/-- A data form: its kind and what stands between its quotes. -/
structure Form where
  /-- The kind of the form. -/
  kind : FormKind
  /-- The characters between the quotes. -/
  body : List Char
  deriving DecidableEq, Repr

namespace Form

/-- The data form that a text spells: a letter, a quote, a body without quotes, and a quote. -/
def parse? : List Char → Option Form
  | letter :: '\'' :: rest =>
    if rest.dropWhile (fun c => c ≠ '\'') = ['\''] then
      (FormKind.ofChar? letter).map fun kind => ⟨kind, rest.takeWhile fun c => c ≠ '\''⟩
    else none
  | _ => none

/-- The characters behind one leading equals sign, if there is one. -/
def unmarked : List Char → List Char
  | '=' :: rest => rest
  | text => text

/-- A text without one leading equals sign. -/
def withoutMark (text : String) : String := String.ofList (unmarked text.toList)

/-- The data form that a text or a literal spells. -/
def read (text : String) : Except Cause Form :=
  match parse? (unmarked text.toList) with
  | some form => .ok form
  | none => .error (.invalidForm text)

/-- The number of bytes that a form stands for. -/
def byteLength (form : Form) : Nat :=
  match form.kind with
  | .character => form.body.length
  | .hexadecimal => form.body.length / 2

/-- The bytes of a form in upper-case hexadecimal; `text` is the spelling named in a complaint. -/
def hex (form : Form) (text : String) : Except Cause (List Char) :=
  match form.kind with
  | .character =>
    match form.body.find? fun c => 0xFF < c.toNat with
    | some wide => .error (.wideCharacter wide text)
    | none => .ok (form.body.flatMap fun c => Text.Hex.paddedChars 2 c.toNat)
  | .hexadecimal =>
    if form.body.all Text.Hex.isDigit then
      .ok ((form.body.take (form.body.length / 2 * 2)).map Char.toUpper)
    else .error (.invalidHexDigits text)

/-- The bytes of the form that a text or a literal spells, in upper-case hexadecimal. -/
def hexOf (text : String) : Except Cause (List Char) :=
  match read text with
  | .ok form => form.hex text
  | .error cause => .error cause

/-- The number of bytes of the form that a text or a literal spells. -/
def byteLengthOf (text : String) : Except Cause Nat := (read text).map byteLength

end Form

end TwoPass
