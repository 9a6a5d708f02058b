import Mathlib.Data.List.Basic
import TwoPass.Record.Text

/-!
# Packing bytes into records

A packer loses, repeats and moves nothing: read as bytes with their addresses, its records are the
pieces that it took in, one behind the other.  Every record holds whole bytes, at least one, and not
more than the limit allows.
-/

namespace TwoPass

/-- A byte at an address, as its two digits. -/
structure AddressedByte where
  /-- The address. -/
  address : Int
  /-- The digit of the upper four bits. -/
  high : Char
  /-- The digit of the lower four bits. -/
  low : Char
  deriving DecidableEq, Repr

/-- The bytes that pairs of digits spell, one behind the other from an address on. -/
def bytesFrom (address : Int) : List Char → List AddressedByte
  | [] => []
  | [_] => []
  | high :: low :: rest => ⟨address, high, low⟩ :: bytesFrom (address + 1) rest

/-- A row of addresses, one behind the other. -/
def consecutive (start : Int) : Nat → List Int
  | 0 => []
  | count + 1 => start :: consecutive (start + 1) count

/-- A row of addresses reaches from its start to its end. -/
theorem mem_consecutive {start address : Int} {count : Nat} :
    address ∈ consecutive start count ↔ start ≤ address ∧ address < start + count := by
  induction count generalizing start with
  | zero =>
    simp only [consecutive, List.not_mem_nil, false_iff]
    omega
  | succ count ih =>
    rw [consecutive, List.mem_cons, ih]
    omega

/-- A row of addresses is increasing. -/
theorem pairwise_consecutive (start : Int) (count : Nat) :
    (consecutive start count).Pairwise (· < ·) := by
  induction count generalizing start with
  | zero => exact .nil
  | succ count ih =>
    refine .cons (fun address mem => ?_) (ih (start + 1))
    have bounds := mem_consecutive.1 mem
    omega

/-- Two rows of addresses that follow each other are one. -/
theorem consecutive_append (start : Int) (first second : Nat) :
    consecutive start (first + second) =
      consecutive start first ++ consecutive (start + first) second := by
  induction first generalizing start with
  | zero => simp [consecutive]
  | succ first ih =>
    rw [Nat.succ_add, consecutive, ih, consecutive, List.cons_append]
    congr 3
    omega

/-- Bytes behind whole bytes go on from the address behind those. -/
theorem bytesFrom_append (address : Int) {front : List Char} (even : front.length % 2 = 0)
    (back : List Char) :
    bytesFrom address (front ++ back) =
      bytesFrom address front ++ bytesFrom (address + front.length / 2) back := by
  fun_induction bytesFrom address front with
  | case1 address => simp
  | case2 address single => simp at even
  | case3 address high low rest ih =>
    have shorter : rest.length % 2 = 0 := by
      simp only [List.length_cons] at even
      omega
    have behind : address + 1 + ((rest.length : Int) / 2) =
        address + (((high :: low :: rest).length : Nat) : Int) / 2 := by
      simp only [List.length_cons]
      omega
    rw [List.cons_append, List.cons_append, bytesFrom, ih shorter, behind, List.cons_append]

/-- The bytes of pairs of digits have addresses one behind the other. -/
theorem map_address_bytesFrom (address : Int) (text : List Char) :
    (bytesFrom address text).map AddressedByte.address = consecutive address (text.length / 2) := by
  fun_induction bytesFrom address text with
  | case1 address => rfl
  | case2 address single => simp [consecutive]
  | case3 address high low rest ih =>
    have pair : (high :: low :: rest).length / 2 = rest.length / 2 + 1 := by
      simp only [List.length_cons]
      omega
    rw [List.map_cons, ih, pair, consecutive]

/-- The digits of a byte are among those that the bytes are made of. -/
theorem digits_of_mem_bytesFrom {address : Int} {text : List Char} {byte : AddressedByte}
    (mem : byte ∈ bytesFrom address text) : byte.high ∈ text ∧ byte.low ∈ text := by
  fun_induction bytesFrom address text with
  | case1 address => cases mem
  | case2 address single => cases mem
  | case3 address high low rest ih =>
    rcases List.mem_cons.1 mem with rfl | later
    · simp
    · obtain ⟨upper, lower⟩ := ih later
      simp [upper, lower]

/-- Every digit of whole bytes is one of the two of a byte. -/
theorem exists_byte_of_mem (address : Int) {text : List Char} (even : text.length % 2 = 0) {c : Char}
    (mem : c ∈ text) : ∃ byte ∈ bytesFrom address text, c = byte.high ∨ c = byte.low := by
  fun_induction bytesFrom address text with
  | case1 address => cases mem
  | case2 address single => simp at even
  | case3 address high low rest ih =>
    have shorter : rest.length % 2 = 0 := by
      simp only [List.length_cons] at even
      omega
    rcases List.mem_cons.1 mem with rfl | mem
    · exact ⟨_, List.mem_cons_self, .inl rfl⟩
    · rcases List.mem_cons.1 mem with rfl | later
      · exact ⟨_, List.mem_cons_self, .inr rfl⟩
      · obtain ⟨byte, inside, own⟩ := ih shorter later
        exact ⟨byte, List.mem_cons_of_mem _ inside, own⟩

/-- A limit that is accepted is the number of digits of a record. -/
theorem RecordLimit.digits_of_ofInt {number : Int} {limit : RecordLimit}
    (accepted : ofInt number = .ok limit) : (limit.digits : Int) = number := by
  rw [ofInt] at accepted
  split at accepted
  · cases accepted
    simp only
    omega
  · cases accepted

namespace TextRecord

/-- The address behind the last byte. -/
def next (record : TextRecord) : Int := record.start + record.payload.length / 2

/-- The bytes of a record. -/
def bytes (record : TextRecord) : List AddressedByte := bytesFrom record.start record.payload

/-- Whether a record holds whole bytes, at least one, and not more than a limit allows. -/
structure WithinLimit (limit : RecordLimit) (record : TextRecord) : Prop where
  /-- The digits come in pairs. -/
  even : record.payload.length % 2 = 0
  /-- There is at least one byte. -/
  nonempty : 0 < record.payload.length
  /-- The limit is kept. -/
  bound : record.payload.length ≤ limit.digits

/-- The address of a record is that of its first byte. -/
theorem WithinLimit.start_mem {limit : RecordLimit} {record : TextRecord}
    (own : record.WithinLimit limit) : record.start ∈ record.bytes.map AddressedByte.address := by
  have even := own.even
  have nonempty := own.nonempty
  rw [bytes, map_address_bytesFrom]
  exact mem_consecutive.2 ⟨Int.le_refl _, by omega⟩

end TextRecord

namespace Packer

/-- The bytes of all records, in order. -/
def bytes (packer : Packer) : List AddressedByte := packer.records.flatMap TextRecord.bytes

/-- Cuts a piece that starts at an address into the records that it fills to the limit and the
record of the rest, which is empty only if the piece is. -/
def cut (limit : RecordLimit) (location : Int) (piece : List Char) : List TextRecord × TextRecord :=
  match h : piece.drop limit.digits with
  | [] => ([], ⟨location, piece⟩)
  | next :: later =>
    let behind := cut limit (location + limit.digits / 2) (next :: later)
    (⟨location, piece.take limit.digits⟩ :: behind.1, behind.2)
termination_by piece.length
decreasing_by
  have room := limit.two_le
  have dropped := congrArg List.length h
  simp only [List.length_drop] at dropped
  simp only [List.length_cons] at dropped ⊢
  omega

/-- The records that a piece fills on its own. -/
def parts (limit : RecordLimit) (location : Int) (piece : List Char) : List TextRecord :=
  (cut limit location piece).1 ++ [(cut limit location piece).2]

/-- A piece that the limit has room for fills one record. -/
theorem parts_of_le {limit : RecordLimit} {piece : List Char} (short : piece.length ≤ limit.digits)
    (location : Int) : parts limit location piece = [⟨location, piece⟩] := by
  rw [parts, cut.eq_def]
  split
  · rfl
  · rename_i left
    rw [List.drop_eq_nil_of_le short] at left
    cases left

/-- Cutting a piece keeps its bytes, and every part of it is a record within the limit. -/
theorem parts_spec (limit : RecordLimit) (location : Int) {piece : List Char}
    (even : piece.length % 2 = 0) (nonempty : 0 < piece.length) :
    (parts limit location piece).flatMap TextRecord.bytes = bytesFrom location piece ∧
      ∀ record ∈ parts limit location piece, record.WithinLimit limit := by
  have room := limit.two_le
  have whole := limit.even
  rw [parts]
  fun_induction cut limit location piece with
  | case1 location piece fits =>
    have short : piece.length ≤ limit.digits := List.drop_eq_nil_iff.1 fits
    simpa [TextRecord.bytes] using (⟨even, nonempty, short⟩ : TextRecord.WithinLimit limit _)
  | case2 location piece next later left behind ih =>
    have length := congrArg List.length left
    rw [List.length_drop] at length
    have full : (piece.take limit.digits).length = limit.digits := by
      rw [List.length_take, List.length_cons] at *
      omega
    have rest : piece = piece.take limit.digits ++ next :: later := by
      rw [← left, List.take_append_drop]
    obtain ⟨bytes, each⟩ := ih (by omega) (by simp)
    have first : TextRecord.WithinLimit limit ⟨location, piece.take limit.digits⟩ :=
      ⟨by rw [full, whole], by rw [full]; omega, Nat.le_of_eq full⟩
    constructor
    · conv_rhs => rw [rest, bytesFrom_append location first.even, full, ← bytes]
      rfl
    · exact List.forall_mem_cons.2 ⟨first, each⟩

variable {limit : RecordLimit} {packer : Packer}

/-- Every record of a packer is within the limit. -/
def WithinLimit (limit : RecordLimit) (packer : Packer) : Prop :=
  ∀ record ∈ packer.records, record.WithinLimit limit

/-- The packer that nothing was packed into keeps every limit. -/
theorem withinLimit_empty (limit : RecordLimit) : WithinLimit limit {} := by
  intro record mem
  cases mem

/-- The open record, if there are digits in it. -/
def current (packer : Packer) : Option TextRecord :=
  if packer.isEmpty then none else some ⟨packer.start, packer.pieces.flatten⟩

/-- There is an open record exactly if there are digits in it. -/
theorem current_eq_some_iff {record : TextRecord} :
    packer.current = some record ↔
      packer.isEmpty = false ∧ record = ⟨packer.start, packer.pieces.flatten⟩ := by
  rw [current]
  split
  · rename_i empty
    simp [empty]
  · rename_i filled
    simp [filled, eq_comm]

/-- The records of a packer with an open record are the closed ones and that one. -/
theorem records_of_current {record : TextRecord} (isOpen : packer.current = some record) :
    packer.records = packer.closed ++ [record] := by
  obtain ⟨filled, rfl⟩ := current_eq_some_iff.1 isOpen
  rw [records, flush, if_neg (by simp [filled])]

/-- A packer without digits in the open record is closed. -/
theorem flush_of_isEmpty (empty : packer.isEmpty = true) : packer.flush = packer := if_pos empty

/-- Closing a record changes nothing of the records. -/
@[simp]
theorem records_flush (packer : Packer) : packer.flush.records = packer.records := by
  rw [records, records, flush_of_isEmpty packer.isEmpty_flush]

/-- Whether a piece goes into the open record: there is one, the piece follows on, and there is room
for it. -/
def Joins (limit : RecordLimit) (packer : Packer) (location : Int) (piece : List Char) : Prop :=
  ∃ record, packer.current = some record ∧ location = record.next ∧
    record.payload.length + piece.length ≤ limit.digits

/-- A piece goes into the open record exactly if none is closed for it, and there are digits. -/
theorem joins_iff {location : Int} {piece : List Char} :
    packer.Joins limit location piece ↔ packer.isEmpty = false ∧ location = packer.next ∧
      packer.size + piece.length ≤ limit.digits := by
  simp only [Joins, current_eq_some_iff, and_assoc, exists_and_left, exists_eq_left,
    TextRecord.next, packer.counted, next]

/-- For a piece that goes into the open record nothing is closed. -/
theorem makeRoom_of_joins {location : Int} {piece : List Char}
    (joins : packer.Joins limit location piece) : packer.makeRoom limit location piece = packer := by
  obtain ⟨_, follows, fits⟩ := joins_iff.1 joins
  apply if_neg
  simp [follows, fits]

/-- For every other piece the open record is closed. -/
theorem makeRoom_of_not_joins {location : Int} {piece : List Char}
    (apart : ¬ packer.Joins limit location piece) :
    packer.makeRoom limit location piece = packer.flush := by
  rw [makeRoom]
  split
  · rfl
  · rename_i kept
    by_cases empty : packer.isEmpty = true
    · rw [flush_of_isEmpty empty]
    · have filled : packer.isEmpty = false := Bool.not_eq_true _ ▸ empty
      refine absurd (joins_iff.2 ⟨filled, ?_⟩) apart
      simpa [filled, and_comm] using kept

/-- A piece of nothing changes nothing. -/
@[simp]
theorem add_nil (limit : RecordLimit) (packer : Packer) (location : Int) :
    packer.add limit location [] = packer := by
  rw [add, dif_pos rfl]

/-- One turn of the loop: room is made, and as many digits are put there as there is room for. -/
theorem add_step {location : Int} {piece chunk : List Char} (filled : piece ≠ [])
    (taken : piece.take (limit.digits - (packer.makeRoom limit location piece).size) = chunk) :
    packer.add limit location piece =
      (((packer.makeRoom limit location piece).startAt location).append chunk).add limit
        (location + chunk.length / 2) (piece.drop chunk.length) := by
  rw [add, dif_neg filled]
  simp only [size_startAt, taken]

/-- A piece that goes into the open record is put there in one turn. -/
theorem add_of_joins {location : Int} {piece : List Char} (filled : piece ≠ [])
    (joins : packer.Joins limit location piece) :
    packer.add limit location piece = packer.append piece := by
  obtain ⟨some_digit, _, fits⟩ := joins_iff.1 joins
  have same := makeRoom_of_joins joins
  rw [add_step filled (List.take_of_length_le (by rw [same]; omega)), same, startAt,
    if_neg (by simp [some_digit]), List.drop_length, add_nil]

/-- Into a record without digits no piece goes, and all of the record is room for it. -/
theorem makeRoom_of_isEmpty (empty : packer.isEmpty = true) (limit : RecordLimit) (location : Int)
    (piece : List Char) :
    packer.makeRoom limit location piece = packer ∧
      (packer.makeRoom limit location piece).size = 0 := by
  have apart : ¬ packer.Joins limit location piece := by
    intro joins
    obtain ⟨filled, _⟩ := joins_iff.1 joins
    cases empty.symm.trans filled
  rw [makeRoom_of_not_joins apart, flush_of_isEmpty empty]
  exact ⟨rfl, of_decide_eq_true empty⟩

/-- A piece that does not go into the open record is taken in as if that were closed before. -/
theorem add_of_not_joins {location : Int} {piece : List Char} (filled : piece ≠ [])
    (apart : ¬ packer.Joins limit location piece) :
    packer.add limit location piece = packer.flush.add limit location piece := by
  have room : packer.flush.makeRoom limit location piece = packer.makeRoom limit location piece := by
    rw [makeRoom_of_not_joins apart, (makeRoom_of_isEmpty packer.isEmpty_flush limit location piece).1]
  rw [add_step filled rfl, add_step filled rfl, room]

/-- Digits that are put into a record stand behind those in it. -/
theorem current_append_of_current {record : TextRecord} (isOpen : packer.current = some record)
    (digits : List Char) :
    (packer.append digits).current =
      some { record with payload := record.payload ++ digits } := by
  obtain ⟨filled, rfl⟩ := current_eq_some_iff.1 isOpen
  refine current_eq_some_iff.2 ⟨?_, by simp [append]⟩
  rw [isEmpty, decide_eq_false_iff_not] at filled ⊢
  simp only [append]
  omega

/-- The first digits that are put into a record are all of it. -/
theorem current_append (empty : packer.isEmpty = true) (location : Int) {digits : List Char}
    (filled : digits ≠ []) :
    ((packer.startAt location).append digits).closed = packer.closed ∧
      ((packer.startAt location).append digits).current = some ⟨location, digits⟩ := by
  have none : packer.size = 0 := of_decide_eq_true empty
  have bare : packer.pieces.flatten = [] := by
    rw [← List.length_eq_zero_iff, packer.counted, none]
  rw [startAt, if_pos empty]
  refine ⟨rfl, current_eq_some_iff.2 ⟨?_, ?_⟩⟩
  · simpa [isEmpty, append] using fun _ => filled
  · simp [append, bare]

/-- A piece that is taken in as a new record is cut at the multiples of the limit, and the last part
of it stays open. -/
theorem add_of_isEmpty (empty : packer.isEmpty = true) (location : Int) {piece : List Char}
    (filled : piece ≠ []) :
    (packer.add limit location piece).closed = packer.closed ++ (cut limit location piece).1 ∧
      (packer.add limit location piece).current = some (cut limit location piece).2 := by
  fun_induction cut limit location piece generalizing packer with
  | case1 location piece fits =>
    have short : piece.length ≤ limit.digits := List.drop_eq_nil_iff.1 fits
    obtain ⟨same, none⟩ := makeRoom_of_isEmpty empty limit location piece
    rw [add_step filled (List.take_of_length_le (by omega)), same, List.drop_length, add_nil,
      List.append_nil]
    exact current_append empty location filled
  | case2 location piece next later left behind =>
    rename_i ih
    have length := congrArg List.length left
    rw [List.length_drop] at length
    have full : (piece.take limit.digits).length = limit.digits := by
      rw [List.length_take, List.length_cons] at *
      omega
    have room := limit.two_le
    obtain ⟨same, none⟩ := makeRoom_of_isEmpty empty limit location piece
    obtain ⟨closed, isOpen⟩ := current_append empty location
      (List.ne_nil_of_length_pos (by omega) : piece.take limit.digits ≠ [])
    rw [add_step filled (by rw [none, Nat.sub_zero]), same, full, left]
    generalize (packer.startAt location).append (piece.take limit.digits) = reached at closed isOpen
    -- The record is full, so it is closed in the next turn.
    have apart : ¬ reached.Joins limit (location + limit.digits / 2) (next :: later) := by
      rintro ⟨record, own, _, fits⟩
      obtain rfl : ⟨location, piece.take limit.digits⟩ = record := Option.some.inj (isOpen.symm.trans own)
      simp only [full, List.length_cons] at fits
      omega
    have before : reached.flush.closed = packer.closed ++ [⟨location, piece.take limit.digits⟩] := by
      rw [← closed]
      exact records_of_current isOpen
    obtain ⟨further, last⟩ := ih reached.isEmpty_flush (List.cons_ne_nil next later)
    rw [add_of_not_joins (List.cons_ne_nil next later) apart, further, before, List.append_assoc]
    exact ⟨rfl, last⟩

/-- The records after a piece has gone into the open one. -/
theorem records_add_of_joins {location : Int} {piece : List Char} (filled : piece ≠ [])
    {record : TextRecord} (isOpen : packer.current = some record) (follows : location = record.next)
    (fits : record.payload.length + piece.length ≤ limit.digits) :
    (packer.add limit location piece).records =
      packer.closed ++ [{ record with payload := record.payload ++ piece }] := by
  rw [add_of_joins filled ⟨record, isOpen, follows, fits⟩]
  exact records_of_current (current_append_of_current isOpen piece)

/-- The records after a piece that does not go into the open one. -/
theorem records_add_of_not_joins {location : Int} {piece : List Char} (filled : piece ≠ [])
    (apart : ¬ packer.Joins limit location piece) :
    (packer.add limit location piece).records = packer.records ++ parts limit location piece := by
  obtain ⟨closed, isOpen⟩ := add_of_isEmpty packer.isEmpty_flush location filled
  rw [add_of_not_joins filled apart, records_of_current isOpen, closed, parts, List.append_assoc]
  rfl

/-- Taking in a piece keeps the bytes taken in before, puts those of the piece behind them, and keeps
the limit. -/
theorem add_spec (kept : packer.WithinLimit limit) (location : Int) {piece : List Char}
    (even : piece.length % 2 = 0) :
    (packer.add limit location piece).bytes = packer.bytes ++ bytesFrom location piece ∧
      (packer.add limit location piece).WithinLimit limit := by
  rw [WithinLimit, Packer.bytes, Packer.bytes]
  by_cases empty : piece = []
  · rw [empty, add_nil]
    exact ⟨by simp [bytesFrom], kept⟩
  · by_cases joins : packer.Joins limit location piece
    · obtain ⟨record, isOpen, follows, fits⟩ := joins
      have all := kept
      rw [WithinLimit, records_of_current isOpen, List.forall_mem_append] at all
      have own := all.2 record (by simp)
      have longer :
          TextRecord.WithinLimit limit { record with payload := record.payload ++ piece } := by
        have pairs := own.even
        have some_byte := own.nonempty
        refine ⟨?_, ?_, ?_⟩ <;> rw [List.length_append] <;> omega
      rw [records_add_of_joins empty isOpen follows fits, records_of_current isOpen]
      constructor
      · simp only [List.flatMap_append, List.flatMap_singleton, TextRecord.bytes, List.append_assoc]
        rw [bytesFrom_append _ own.even, follows, TextRecord.next]
      · exact List.forall_mem_append.2 ⟨all.1, by simpa using longer⟩
    · obtain ⟨bytes, each⟩ := parts_spec limit location even (List.length_pos_of_ne_nil empty)
      rw [records_add_of_not_joins empty joins, List.flatMap_append, bytes]
      exact ⟨rfl, List.forall_mem_append.2 ⟨kept, each⟩⟩

end Packer

end TwoPass
