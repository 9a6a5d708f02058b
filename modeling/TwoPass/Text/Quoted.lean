import TwoPass.Text.Hex
import TwoPass.Text.Printable

/-!
# Quoted text

A text is quoted so that every character of it can be seen.  Single quotes stand around it, unless
it holds a single quote and no double quote.  The quote in use and the backslash are escaped, and a
character that is not printable is written by name or by its code point.
-/

namespace TwoPass.Text

/-- The quote to put around a text. -/
def quoteMark (text : List Char) : Char :=
  if '\'' ∈ text ∧ '"' ∉ text then '"' else '\''

/-- A character as it stands between two quotes. -/
def quotedChar (mark c : Char) : List Char :=
  if c = mark ∨ c = '\\' then ['\\', c]
  else if c = '\n' then ['\\', 'n']
  else if c = '\r' then ['\\', 'r']
  else if c = '\t' then ['\\', 't']
  else if isPrintable c then [c]
  else if c.toNat < 0x100 then '\\' :: 'x' :: Hex.paddedLower 2 c.toNat
  else if c.toNat < 0x10000 then '\\' :: 'u' :: Hex.paddedLower 4 c.toNat
  else '\\' :: 'U' :: Hex.paddedLower 8 c.toNat

/-- The text in quotes. -/
def quoted (text : String) : String :=
  let mark := quoteMark text.toList
  String.ofList (mark :: (text.toList.flatMap (quotedChar mark) ++ [mark]))

/-- The text in quotes, or the word for a missing text. -/
def quotedOr (text : Option String) : String :=
  match text with
  | some given => quoted given
  | none => "None"

/-- The texts in quotes, between brackets. -/
def quotedList (texts : List String) : String :=
  "[" ++ ", ".intercalate (texts.map quoted) ++ "]"

end TwoPass.Text
