import TwoPass.Proofs.Hex
import TwoPass.Proofs.Packing

/-!
# Packers over a row of calls

A packer is called any number of times, with pieces that follow on, overlap, leave gaps, are empty or
are longer than a record, and it may be told to close its record at any time.  `written` gives the
records of such a row of calls.  Whatever the calls are, as long as their pieces are whole bytes, the
records hold the bytes of the pieces at their addresses, one behind the other, and `Spells` says how
each of them is written.
-/

namespace TwoPass

namespace Text.Hex

/-- Whether a text is a number in a field of some width: upper-case digits that spell it, as many as
the field has columns, and more only where the number needs them. -/
structure Fills (width number : Nat) (text : List Char) : Prop where
  /-- The text consists of upper-case digits. -/
  upper : ∀ c ∈ text, isUpperDigit c = true
  /-- They spell the number. -/
  value : value? text = some number
  /-- They fill the columns. -/
  wide : width ≤ text.length
  /-- A text that is wider begins with no zero. -/
  needed : width < text.length → text.head? ≠ some '0'

/-- Whether a text is an integer in a field of some width; a minus sign takes up a column. -/
def FillsSigned (width : Nat) (number : Int) (text : List Char) : Prop :=
  if number < 0 then ∃ digits, text = '-' :: digits ∧ Fills (width - 1) number.natAbs digits
  else Fills width number.natAbs text

/-- The digits of a positive number begin with no zero. -/
theorem head?_digits {number : Nat} (positive : 0 < number) :
    (digits number).head? ≠ some '0' := by
  have single : ∀ value < 16, 0 < value → digit value ≠ '0' := by decide
  fun_induction digits number with
  | case1 number small => simpa using single number small positive
  | case2 number large ih =>
    rw [List.head?_append]
    have front := ih (by omega)
    cases first : (digits (number / 16)).head? with
    | none =>
      rw [List.head?_eq_none_iff] at first
      have spelled := value?_digits (number / 16)
      rw [first] at spelled
      have zero : 0 = number / 16 := Option.some.inj spelled
      omega
    | some c =>
      rw [first] at front
      simpa using front

/-- Filled digits are a number in a field. -/
theorem fills_fill {width : Nat} (room : 0 < width) (number : Nat) :
    Fills width number (fill width (digits number)) := by
  refine ⟨fun c => isUpperDigit_of_mem_fill fun _ => isUpperDigit_of_mem_digits,
    by rw [value?_fill, value?_digits], by rw [length_fill]; omega, fun wider => ?_⟩
  -- Nothing is filled in, and there is more than one digit, so the number is not zero.
  rw [length_fill] at wider
  have long : width < (digits number).length := by omega
  have positive : 0 < number := by
    by_contra zero
    have small : number < 16 ^ width := by
      rw [Nat.eq_zero_of_not_pos zero]
      exact Nat.pow_pos (by decide)
    have short := length_digits_le room small
    omega
  rw [fill, Nat.sub_eq_zero_of_le (Nat.le_of_lt long)]
  exact head?_digits positive

/-- A written integer is an integer in a field. -/
theorem fillsSigned_paddedChars {width : Nat} (room : 1 < width) (number : Int) :
    FillsSigned width number (paddedChars width number) := by
  rw [FillsSigned, paddedChars]
  split
  · exact ⟨_, rfl, fills_fill (by omega) _⟩
  · exact fills_fill (by omega) _

end Text.Hex

namespace TextRecord

/-- How a record of whole bytes is written: its letter, the address of its first byte in at least six
columns, the number of its bytes in at least two, its digits, and the end of the line. -/
def Spells (record : TextRecord) (text : List Char) : Prop :=
  ∃ start count bytes, text = 'T' :: (start ++ (count ++ (record.payload ++ ['\n']))) ∧
    Text.Hex.FillsSigned 6 record.start start ∧ Text.Hex.Fills 2 bytes count ∧
      record.payload.length = 2 * bytes

/-- The text of a record. -/
theorem toList_render (record : TextRecord) :
    record.render.toList = 'T' :: (Text.Hex.paddedChars 6 record.start ++
      (Text.Hex.paddedChars 2 (record.payload.length / 2 : Nat) ++ (record.payload ++ ['\n']))) := by
  simp [render, Text.Hex.padded]

/-- A record of whole bytes is written so. -/
theorem spells_render {record : TextRecord} (even : record.payload.length % 2 = 0) :
    record.Spells record.render.toList := by
  refine ⟨_, _, record.payload.length / 2, record.toList_render,
    Text.Hex.fillsSigned_paddedChars (by decide) record.start, ?_, by omega⟩
  rw [Text.Hex.paddedChars_of_nonneg (by omega)]
  exact Text.Hex.fills_fill (by decide) _

end TextRecord

namespace Packer

/-- A call on a packer. -/
inductive Call where
  /-- Takes in a piece that starts at an address. -/
  | add (location : Int) (piece : List Char)
  /-- Closes the open record. -/
  | flush
  deriving DecidableEq, Repr

namespace Call

/-- The digits that a call brings. -/
def digits : Call → List Char
  | .add _ piece => piece
  | .flush => []

/-- The bytes that a call brings, at their addresses. -/
def bytes : Call → List AddressedByte
  | .add location piece => bytesFrom location piece
  | .flush => []

end Call

/-- What a call makes of a packer. -/
def apply (limit : RecordLimit) (packer : Packer) : Call → Packer
  | .add location piece => packer.add limit location piece
  | .flush => packer.flush

/-- What a row of calls makes of a packer. -/
def run (limit : RecordLimit) (packer : Packer) (calls : List Call) : Packer :=
  calls.foldl (apply limit) packer

/-- The records that a row of calls on a new packer writes, once the last record is closed. -/
def written (limit : RecordLimit) (calls : List Call) : List TextRecord :=
  (run limit {} (calls ++ [.flush])).closed

variable {limit : RecordLimit} {packer : Packer} {calls : List Call}

/-- A row of calls is run from the front. -/
@[simp]
theorem run_cons (limit : RecordLimit) (packer : Packer) (call : Call) (rest : List Call) :
    run limit packer (call :: rest) = run limit (packer.apply limit call) rest := rfl

/-- Two rows of calls are run one behind the other. -/
theorem run_append (limit : RecordLimit) (packer : Packer) (front back : List Call) :
    run limit packer (front ++ back) = run limit (run limit packer front) back :=
  List.foldl_append

/-- The last call closes what the calls in front of it have left open. -/
theorem written_eq (limit : RecordLimit) (calls : List Call) :
    written limit calls = (run limit {} calls).records := by
  rw [written, run_append]
  rfl

/-- A call keeps the bytes taken in before, puts its own behind them, and keeps the limit. -/
theorem apply_spec (kept : packer.WithinLimit limit) {call : Call}
    (even : call.digits.length % 2 = 0) :
    (packer.apply limit call).bytes = packer.bytes ++ call.bytes ∧
      (packer.apply limit call).WithinLimit limit := by
  cases call with
  | add location piece => exact add_spec kept location even
  | flush => simpa [apply, Packer.bytes, WithinLimit, Call.bytes] using kept

/-- A row of calls keeps the bytes taken in before, puts its own behind them, and keeps the limit. -/
theorem run_spec (kept : packer.WithinLimit limit)
    (whole : ∀ call ∈ calls, call.digits.length % 2 = 0) :
    (run limit packer calls).bytes = packer.bytes ++ calls.flatMap Call.bytes ∧
      (run limit packer calls).WithinLimit limit := by
  induction calls generalizing packer with
  | nil => exact ⟨by simp [run], kept⟩
  | cons call rest ih =>
    obtain ⟨even, others⟩ := List.forall_mem_cons.1 whole
    obtain ⟨bytes, within⟩ := apply_spec kept even
    obtain ⟨later, last⟩ := ih within others
    rw [run_cons, later, bytes, List.append_assoc, List.flatMap_cons]
    exact ⟨rfl, last⟩

/-- Every record that a row of calls writes is within the limit, and together they hold the bytes of
the calls. -/
theorem written_spec (limit : RecordLimit)
    (whole : ∀ call ∈ calls, call.digits.length % 2 = 0) :
    (written limit calls).flatMap TextRecord.bytes = calls.flatMap Call.bytes ∧
      ∀ record ∈ written limit calls, record.WithinLimit limit := by
  obtain ⟨bytes, within⟩ := run_spec (withinLimit_empty limit) whole
  rw [written_eq]
  exact ⟨bytes, within⟩

/-- A packer loses, repeats and moves nothing.  Whatever the limit and the calls are, every record is
written as `Spells` says, and the bytes of the records from their starts on are the bytes of the
pieces from their addresses on, in the same order. -/
theorem written_bytes (limit : RecordLimit)
    (whole : ∀ call ∈ calls, call.digits.length % 2 = 0) :
    (∀ record ∈ written limit calls, record.Spells record.render.toList) ∧
      (written limit calls).flatMap TextRecord.bytes = calls.flatMap Call.bytes := by
  obtain ⟨bytes, within⟩ := written_spec limit whole
  exact ⟨fun record mem => TextRecord.spells_render (within record mem).even, bytes⟩

/-- Room for two bytes in a record. -/
def twoBytes : RecordLimit := ⟨4, by decide, by decide⟩

/-- Calls with a piece above the limit, an empty one, a record that is closed early, a piece that
overlaps the one in front of it, one that follows on, and one at a negative address. -/
def mixedCalls : List Call :=
  [.add 0x100 "0102030405".toList, .add 0 [], .flush, .add 0x105 "AA".toList, .add 0x105 "BB".toList,
    .add 0x106 "CC".toList, .add (-1) "DD".toList]

/-- The records of the calls, as they are written. -/
theorem written_bytes_mixed :
    (∀ call ∈ mixedCalls, call.digits.length % 2 = 0) ∧
      (written twoBytes mixedCalls).map TextRecord.render =
        ["T000100020102\n", "T000102020304\n", "T0001040105\n", "T00010501AA\n",
          "T00010502BBCC\n", "T-0000101DD\n"] ∧
      (∀ record ∈ written twoBytes mixedCalls, record.Spells record.render.toList) ∧
      (written twoBytes mixedCalls).flatMap TextRecord.bytes = mixedCalls.flatMap Call.bytes := by
  have whole : ∀ call ∈ mixedCalls, call.digits.length % 2 = 0 := by decide +kernel
  obtain ⟨spelled, bytes⟩ := written_bytes twoBytes whole
  exact ⟨whole, by decide +kernel, spelled, bytes⟩

/-- The record of a byte at a negative address does not begin with six digits. -/
theorem written_signed :
    let calls := [Call.add (-1) ['A', 'B']]
    (∀ call ∈ calls, call.digits.length % 2 = 0) ∧
      (written twoBytes calls).map TextRecord.render = ["T-0000101AB\n"] ∧
      ¬ ∀ record ∈ written twoBytes calls, ∃ start rest,
        record.render.toList = 'T' :: (start ++ rest) ∧ 6 ≤ start.length ∧
          ∀ c ∈ start, Text.Hex.isUpperDigit c = true := by
  refine ⟨by decide, by decide +kernel, fun unsigned => ?_⟩
  have only : written twoBytes [.add (-1) ['A', 'B']] = [⟨-1, ['A', 'B']⟩] := by decide +kernel
  obtain ⟨start, rest, text, wide, upper⟩ := unsigned ⟨-1, ['A', 'B']⟩ (by simp [only])
  have signed : TextRecord.render ⟨-1, ['A', 'B']⟩ = "T-0000101AB\n" := by decide +kernel
  rw [signed] at text
  cases start with
  | nil => cases wide
  | cons c others =>
    obtain rfl : '-' = c := (List.cons.inj (List.cons.inj text).2).1
    exact absurd (upper '-' (by simp)) (by decide)

end Packer

end TwoPass
