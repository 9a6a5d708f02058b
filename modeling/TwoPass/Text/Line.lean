import TwoPass.Text.Range

/-!
# Lines

Text is cut into lines at every line boundary of Unicode; a carriage return followed by a line feed
is one boundary.  A boundary at the very end of the text opens no further line.  Text read from a
file has its line ends made uniform first.
-/

namespace TwoPass.Text

/-- The code points that end a line. -/
def lineEnds : CodeRanges :=
  [(0xA, 0xD), (0x1C, 0x1E), (0x85, 0x85), (0x2028, 0x2029)]

/-- Whether a character ends a line. -/
def isLineEnd (c : Char) : Bool := lineEnds.holds c

/-- Puts a character in front of the first line, opening that line if there is none. -/
def pushFront (c : Char) : List (List Char) → List (List Char)
  | [] => [[c]]
  | line :: rest => (c :: line) :: rest

/-- The lines of a text, without their ends. -/
def lines : List Char → List (List Char)
  | [] => []
  | '\r' :: '\n' :: rest => [] :: lines rest
  | c :: rest => if isLineEnd c then [] :: lines rest else pushFront c (lines rest)

/-- Every carriage return, with the line feed behind it if there is one, becomes one line feed. -/
def uniformLineEnds : List Char → List Char
  | [] => []
  | '\r' :: '\n' :: rest => '\n' :: uniformLineEnds rest
  | '\r' :: rest => '\n' :: uniformLineEnds rest
  | c :: rest => c :: uniformLineEnds rest

/-- Every tab becomes one to eight spaces, up to the next multiple of eight columns.  The count of
columns starts again behind a line feed or a carriage return. -/
def expandTabsFrom (column : Nat) : List Char → List Char
  | [] => []
  | '\t' :: rest =>
    List.replicate (8 - column % 8) ' ' ++ expandTabsFrom (column + (8 - column % 8)) rest
  | c :: rest =>
    c :: expandTabsFrom (if c = '\n' ∨ c = '\r' then 0 else column + 1) rest

/-- The text with its tabs turned into spaces, counted from the first column. -/
def expandTabs (text : List Char) : List Char := expandTabsFrom 0 text

end TwoPass.Text
