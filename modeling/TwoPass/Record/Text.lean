import TwoPass.Failure

/-!
# Text records

The bytes of a section are written into text records, each of which holds a run of bytes that lie
one behind the other, up to a limit.  A `Packer` takes pieces of object code with their addresses
and fills records with them.  It takes a piece in by one loop: as long as digits are left, it closes the
open record if they do not follow on or do not all fit into it, and takes in as many as there is room
for.
-/

namespace TwoPass

/-- The largest number of hexadecimal digits in a text record: a positive even number. -/
structure RecordLimit where
  /-- The number of digits. -/
  digits : Nat
  /-- A record has room for a byte. -/
  two_le : 2 ≤ digits
  /-- A full record holds whole bytes. -/
  even : digits % 2 = 0

namespace RecordLimit

/-- The limit that holds unless another is asked for. -/
def standard : Int := 60

/-- The limit of a given number of digits. -/
def ofInt (limit : Int) : Except Failure RecordLimit :=
  if h : 2 ≤ limit ∧ limit % 2 = 0 then .ok ⟨limit.toNat, by omega, by omega⟩
  else .error (.recordLimit limit)

end RecordLimit

/-- A run of bytes and the address of the first of them. -/
structure TextRecord where
  /-- The address of the first byte. -/
  start : Int
  /-- The bytes, in hexadecimal. -/
  payload : List Char
  deriving DecidableEq, Repr

namespace TextRecord

/-- A text record as it stands in the object program. -/
def render (record : TextRecord) : String :=
  "T" ++ Text.Hex.padded 6 record.start ++
    Text.Hex.padded 2 (record.payload.length / 2 : Nat) ++ String.ofList record.payload ++ "\n"

end TextRecord

/-- The records filled so far, and the pieces in the record that is still open. -/
structure Packer where
  /-- The records that are complete. -/
  closed : List TextRecord := []
  /-- The address of the open record; without digits in it, this is an earlier one. -/
  start : Int := 0
  /-- The pieces in the open record. -/
  pieces : List (List Char) := []
  /-- The number of digits in the open record. -/
  size : Nat := 0
  /-- The size is that of the pieces. -/
  counted : pieces.flatten.length = size := by exact List.length_nil
  deriving DecidableEq, Repr

namespace Packer

/-- Whether there are no digits in the open record. -/
def isEmpty (packer : Packer) : Bool := packer.size = 0

/-- The address behind the last byte of the open record. -/
def next (packer : Packer) : Int := packer.start + packer.size / 2

/-- Closes the open record, if there are digits in it. -/
def flush (packer : Packer) : Packer :=
  if packer.isEmpty then packer
  else
    { closed := packer.closed ++ [⟨packer.start, packer.pieces.flatten⟩]
      start := packer.start }

/-- A closed packer has no digits in the open record. -/
theorem isEmpty_flush (packer : Packer) : packer.flush.isEmpty = true := by
  rw [flush]
  split
  · assumption
  · rfl

/-- Closes the open record if there are digits in it and a piece does not fit behind them or does not
follow on. -/
def makeRoom (limit : RecordLimit) (packer : Packer) (location : Int) (piece : List Char) : Packer :=
  if !packer.isEmpty && (limit.digits < packer.size + piece.length || location ≠ packer.next) then
    packer.flush
  else packer

/-- Lets the open record begin at an address, unless there are digits in it. -/
def startAt (packer : Packer) (location : Int) : Packer :=
  if packer.isEmpty then { packer with start := location } else packer

/-- Puts digits into the open record. -/
def append (packer : Packer) (digits : List Char) : Packer :=
  { packer with
    pieces := packer.pieces ++ [digits]
    size := packer.size + digits.length
    counted := by simp [packer.counted] }

/-- There is room in the record that a piece goes into. -/
theorem size_makeRoom_lt (limit : RecordLimit) (packer : Packer) (location : Int)
    {piece : List Char} (filled : piece ≠ []) :
    (packer.makeRoom limit location piece).size < limit.digits := by
  have room := limit.two_le
  have some_digit : 0 < piece.length := List.length_pos_iff.2 filled
  rw [makeRoom]
  split
  · rw [of_decide_eq_true packer.isEmpty_flush]
    omega
  · rename_i kept
    simp only [isEmpty, Bool.and_eq_true, Bool.or_eq_true, Bool.not_eq_true', decide_eq_true_eq,
      decide_eq_false_iff_not] at kept
    omega

/-- Beginning at an address changes nothing of the digits. -/
theorem size_startAt (packer : Packer) (location : Int) :
    (packer.startAt location).size = packer.size := by
  rw [startAt]
  split <;> rfl

/-- Takes in a piece that starts at an address. -/
def add (limit : RecordLimit) (packer : Packer) (location : Int) (piece : List Char) : Packer :=
  if filled : piece = [] then packer
  else
    let ready := (packer.makeRoom limit location piece).startAt location
    let chunk := piece.take (limit.digits - ready.size)
    add limit (ready.append chunk) (location + chunk.length / 2) (piece.drop chunk.length)
termination_by piece.length
decreasing_by
  have room := packer.size_makeRoom_lt limit location filled
  have some_digit : 0 < piece.length := List.length_pos_iff.2 filled
  simp only [List.length_drop, List.length_take, size_startAt]
  omega

/-- All records, the open one included. -/
def records (packer : Packer) : List TextRecord := packer.flush.closed

end Packer

end TwoPass
