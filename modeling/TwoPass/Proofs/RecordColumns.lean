import TwoPass.Proofs.Code
import TwoPass.Proofs.PackerRuns

/-!
# The columns of a text record

A reader finds the digits of a text record from column nine on, behind the letter, six digits of an
address and two that count the bytes.  Six digits are enough for every address below `2 ^ 24`, and two
are enough for 255 bytes, which are 510 digits.  A record is in fixed columns exactly if it holds no
more, so all records are if the limit allows no more; every greater limit is accepted too, and then a
long piece makes a record that is not.
-/

namespace TwoPass

namespace TextRecord

/-- Whether a text is a record in fixed columns: its letter, six digits of its address, two digits
that count its bytes, their digits from column nine on, and the end of the line. -/
def FixedColumns (record : TextRecord) (text : List Char) : Prop :=
  ∃ start count bytes, text = 'T' :: (start ++ (count ++ (record.payload ++ ['\n']))) ∧
    (Encoding.Bytes 3 start ∧ Text.Hex.integer? start = some record.start) ∧
    (Encoding.Bytes 1 count ∧ Text.Hex.value? count = some bytes) ∧
    Encoding.Bytes bytes record.payload

variable {record : TextRecord}

/-- A record of at most 255 bytes at an address of at most six digits is written in fixed columns. -/
theorem fixedColumns_render (least : 0 ≤ record.start) (most : record.start < 2 ^ 24)
    (whole : Encoding.Bytes (record.payload.length / 2) record.payload)
    (short : record.payload.length ≤ 510) : record.FixedColumns record.render.toList := by
  have start : Encoding.Bytes 3 (Text.Hex.padded (2 * 3) record.start).toList :=
    Encoding.bytes_padded (by decide) least (by omega)
  have count : Encoding.Bytes 1
      (Text.Hex.padded (2 * 1) (record.payload.length / 2 : Nat)).toList :=
    Encoding.bytes_padded (by decide) (by omega) (by omega)
  rw [Text.Hex.padded, String.toList_ofList] at start count
  refine ⟨_, _, record.payload.length / 2, record.toList_render,
    ⟨start, Text.Hex.integer?_paddedChars 6 record.start⟩, ⟨count, ?_⟩, whole⟩
  rw [Text.Hex.value?_paddedChars (by omega), Int.toNat_natCast]

/-- The text of a record of more than 255 bytes is no record in fixed columns: where two digits count
the bytes, fewer bytes are counted than follow. -/
theorem length_le_of_fixedColumns {other : TextRecord}
    (fixed : other.FixedColumns record.render.toList) : record.payload.length ≤ 510 := by
  obtain ⟨start, count, bytes, text, ⟨address, _⟩, ⟨two, spelled⟩, payload⟩ := fixed
  have lengths := congrArg List.length text
  rw [toList_render] at lengths
  simp only [List.length_cons, List.length_append, List.length_nil, address.length, two.length,
    payload.length] at lengths
  have first := Text.Hex.le_length_paddedChars 6 record.start
  have second := Text.Hex.le_length_paddedChars 2 (record.payload.length / 2 : Nat)
  have counted := Text.Hex.valueFrom_lt spelled
  rw [two.length] at counted
  omega

end TextRecord

namespace Packer

/-- Whether a call brings bytes in upper-case digits, all of them at addresses of at most six digits.
-/
def Call.InRange : Call → Prop
  | .add location piece =>
    0 ≤ location ∧ location < 2 ^ 24 ∧ location + (piece.length / 2 : Nat) ≤ 2 ^ 24 ∧
      Encoding.Bytes (piece.length / 2) piece
  | .flush => True

variable {limit : RecordLimit} {calls : List Call}

/-- The bytes of such a call. -/
theorem Call.InRange.of_mem_bytes {call : Call} (inside : call.InRange) {byte : AddressedByte}
    (mem : byte ∈ call.bytes) :
    (0 ≤ byte.address ∧ byte.address < 2 ^ 24) ∧
      Text.Hex.isUpperDigit byte.high = true ∧ Text.Hex.isUpperDigit byte.low = true := by
  cases call with
  | add location piece =>
    obtain ⟨least, _, most, whole⟩ := inside
    have place := List.mem_map_of_mem (f := AddressedByte.address) mem
    rw [Call.bytes, map_address_bytesFrom, mem_consecutive] at place
    obtain ⟨high, low⟩ := digits_of_mem_bytesFrom mem
    exact ⟨by omega, whole.upper _ high, whole.upper _ low⟩
  | flush => cases mem

/-- Such a call brings whole bytes. -/
theorem Call.InRange.even {call : Call} (inside : call.InRange) :
    call.digits.length % 2 = 0 := by
  cases call with
  | add location piece =>
    have length := inside.2.2.2.length
    simp only [Call.digits]
    omega
  | flush => rfl

/-- The records of such calls hold bytes in upper-case digits at addresses of at most six digits, and
keep the limit. -/
theorem fields_of_written (inside : ∀ call ∈ calls, call.InRange) {record : TextRecord}
    (mem : record ∈ written limit calls) :
    (0 ≤ record.start ∧ record.start < 2 ^ 24) ∧
      Encoding.Bytes (record.payload.length / 2) record.payload ∧
      record.payload.length ≤ limit.digits := by
  obtain ⟨bytes, within⟩ := written_spec limit fun call listed => (inside call listed).even
  have own := within record mem
  have even := own.even
  -- Every byte of the record is a byte of a call.
  have each : ∀ byte ∈ record.bytes, ∃ call ∈ calls, byte ∈ call.bytes := by
    intro byte held
    have listed := List.mem_flatMap_of_mem mem held
    rw [bytes] at listed
    exact List.mem_flatMap.1 listed
  refine ⟨?_, ⟨by omega, fun c digit => ?_⟩, own.bound⟩
  · obtain ⟨byte, held, starts⟩ := List.mem_map.1 own.start_mem
    obtain ⟨call, listed, brought⟩ := each byte held
    rw [← starts]
    exact ((inside call listed).of_mem_bytes brought).1
  · obtain ⟨byte, held, same⟩ := exists_byte_of_mem record.start even digit
    obtain ⟨call, listed, brought⟩ := each byte held
    obtain ⟨_, high, low⟩ := (inside call listed).of_mem_bytes brought
    rcases same with rfl | rfl
    · exact high
    · exact low

/-- A piece that the limit has room for is written as one record, if it is the only one. -/
theorem written_single {piece : List Char} (nonempty : piece ≠ [])
    (short : piece.length ≤ limit.digits) (location : Int) :
    written limit [.add location piece] = [⟨location, piece⟩] := by
  have apart : ¬ ({} : Packer).Joins limit location piece := by
    rintro ⟨record, isOpen, _⟩
    cases isOpen
  rw [written_eq, run_cons, apply]
  exact (records_add_of_not_joins nonempty apart).trans (parts_of_le short location)

/-- A row of zeros, two for each byte. -/
def zeros (bytes : Nat) : List Char := List.replicate (2 * bytes) '0'

/-- There are two zeros for each byte. -/
@[simp]
theorem length_zeros (bytes : Nat) : (zeros bytes).length = 2 * bytes := List.length_replicate

/-- Zeros at the first address are in range. -/
theorem inRange_zeros {bytes : Nat} (few : bytes ≤ 2 ^ 24) : (Call.add 0 (zeros bytes)).InRange := by
  have length := length_zeros bytes
  refine ⟨by decide, by decide, by omega, by omega, fun c mem => ?_⟩
  rw [List.eq_of_mem_replicate mem]
  decide

/-- Zeros for which there is room in a record are written as one, and if they are more than 255 bytes
it is not in fixed columns. -/
theorem written_zeros {bytes : Nat} (many : 255 < bytes) (room : 2 * bytes ≤ limit.digits) :
    written limit [.add 0 (zeros bytes)] = [⟨0, zeros bytes⟩] ∧
      ∀ other : TextRecord, ¬ other.FixedColumns (TextRecord.render ⟨0, zeros bytes⟩).toList := by
  have length := length_zeros bytes
  refine ⟨written_single (List.ne_nil_of_length_pos (by omega)) (by omega) 0, fun other fixed => ?_⟩
  have short := TextRecord.length_le_of_fixedColumns fixed
  simp only [length] at short
  omega

/-- A record of bytes that are in range is written in fixed columns if it holds at most 255 of them,
and not at all in fixed columns otherwise.  All records are, whatever is packed, exactly for the limits
up to 510. -/
theorem fixedColumns_iff {number : Int} (accepted : RecordLimit.ofInt number = .ok limit) :
    (∀ calls, (∀ call ∈ calls, Call.InRange call) → ∀ record ∈ written limit calls,
        (record.payload.length ≤ 510 → record.FixedColumns record.render.toList) ∧
          (510 < record.payload.length → ∀ other : TextRecord,
            ¬ other.FixedColumns record.render.toList)) ∧
      ((∀ calls, (∀ call ∈ calls, Call.InRange call) → ∀ record ∈ written limit calls,
          record.FixedColumns record.render.toList) ↔ number ≤ 510) := by
  have digits := RecordLimit.digits_of_ofInt accepted
  have each (calls : List Call) (inside : ∀ call ∈ calls, call.InRange) (record : TextRecord)
      (mem : record ∈ written limit calls) (short : record.payload.length ≤ 510) :
      record.FixedColumns record.render.toList := by
    obtain ⟨⟨least, most⟩, whole, _⟩ := fields_of_written inside mem
    exact TextRecord.fixedColumns_render least most whole short
  refine ⟨fun calls inside record mem => ⟨each calls inside record mem, fun long other fixed => ?_⟩,
    fun fixed => ?_, fun narrow calls inside record mem => ?_⟩
  · have short := TextRecord.length_le_of_fixedColumns fixed
    omega
  · -- A limit above 510 is at least 512, and lets 256 bytes into one record.
    by_contra wide
    have even := limit.even
    obtain ⟨only, refused⟩ := @written_zeros limit 256 (by decide) (by omega)
    apply refused ⟨0, zeros 256⟩
    apply fixed [.add 0 (zeros 256)]
    · intro call mem
      rw [List.mem_singleton.1 mem]
      exact inRange_zeros (by decide)
    · rw [only]
      exact List.mem_singleton_self _
  · obtain ⟨_, _, bound⟩ := fields_of_written inside mem
    exact each calls inside record mem (by omega)

/-- Room for 255 bytes in a record. -/
def mostBytes : RecordLimit := ⟨510, by decide, by decide⟩

/-- With the limit of 510 all records are in fixed columns. -/
theorem fixedColumns_iff_mostBytes :
    RecordLimit.ofInt 510 = .ok mostBytes ∧
      ∀ calls, (∀ call ∈ calls, Call.InRange call) → ∀ record ∈ written mostBytes calls,
        record.FixedColumns record.render.toList := by
  have accepted : RecordLimit.ofInt 510 = .ok mostBytes := rfl
  exact ⟨accepted, (fixedColumns_iff accepted).2.2 (by decide)⟩

/-- Room for 256 bytes in a record. -/
def oneByteMore : RecordLimit := ⟨512, by decide, by decide⟩

/-- With the limit of 512 a piece of 256 bytes is written as one record, with three digits for their
number. -/
theorem written_not_fixedColumns :
    RecordLimit.ofInt 512 = .ok oneByteMore ∧
      (∀ call ∈ [Call.add 0 (zeros 256)], call.InRange) ∧
      written oneByteMore [.add 0 (zeros 256)] = [⟨0, zeros 256⟩] ∧
      (TextRecord.render ⟨0, zeros 256⟩).toList =
        'T' :: ("000000".toList ++ ("100".toList ++ (zeros 256 ++ ['\n']))) ∧
      ¬ ∀ record ∈ written oneByteMore [.add 0 (zeros 256)], ∃ other : TextRecord,
        other.FixedColumns record.render.toList := by
  obtain ⟨only, refused⟩ := @written_zeros oneByteMore 256 (by decide) (by decide)
  refine ⟨rfl, ?_, only, ?_, fun fixed => ?_⟩
  · intro call mem
    rw [List.mem_singleton.1 mem]
    exact inRange_zeros (by decide)
  · have start : Text.Hex.paddedChars 6 0 = "000000".toList := by decide +kernel
    have count : Text.Hex.paddedChars 2 256 = "100".toList := by decide +kernel
    rw [TextRecord.toList_render, length_zeros, start, ← count]
    rfl
  · obtain ⟨other, columns⟩ := fixed ⟨0, zeros 256⟩ (by rw [only]; exact List.mem_singleton_self _)
    exact refused other columns

end Packer

end TwoPass
