/-!
# Plain text

A terminal takes some runs of characters as commands: a control sequence is an escape, an opening
bracket, parameters, and an ASCII letter.  Text that is meant for any kind of output is printed
without them.  Control sequences are found from left to right, and what comes together when one is
left out is not looked at again.
-/

namespace TwoPass.Text

/-- Whether a character may be a parameter of a control sequence. -/
def isParameter (c : Char) : Bool := c.isDigit || c == ';' || c == '?'

/-- What stands behind the control sequence at the front of a text, if there is one. -/
def behindSequence? : List Char → Option (List Char)
  | '\x1b' :: '[' :: rest =>
    match rest.dropWhile isParameter with
    | letter :: behind => if letter.isAlpha then some behind else none
    | [] => none
  | _ => none

/-- A control sequence takes something off the text. -/
theorem length_lt_of_behindSequence? {text behind : List Char}
    (h : behindSequence? text = some behind) : behind.length < text.length := by
  unfold behindSequence? at h
  split at h
  · rename_i rest
    have shorter : (rest.dropWhile isParameter).length ≤ rest.length :=
      (List.dropWhile_suffix isParameter).length_le
    split at h
    · rename_i letter left dropped
      split at h
      · cases h
        rw [dropped] at shorter
        simp only [List.length_cons] at shorter ⊢
        omega
      · cases h
    · cases h
  · cases h

/-- A text without its control sequences. -/
def plain (text : List Char) : List Char :=
  match h : behindSequence? text with
  | some behind =>
    have := length_lt_of_behindSequence? h
    plain behind
  | none => match text with
    | [] => []
    | c :: rest => c :: plain rest
termination_by text.length

end TwoPass.Text
