import TwoPass.Proofs.PackerRuns

/-!
# Where records begin

The records of a packer hold the digits of its pieces one behind the other, so a place among these
digits is a place in the pieces and a place in the records.  `beginnings` lists the places at which
records begin.  A piece that does not go into the open record begins one, and further ones at the
multiples of the limit; no record begins anywhere else.  From this follows how the packer packs: what
fits into a record is never cut, and a record is closed only if it has to be.
-/

namespace TwoPass

namespace TextRecord

/-- The number of digits in a row of records. -/
def digitsIn (records : List TextRecord) : Nat := (records.flatMap payload).length

/-- The places at which the records of a row begin, if the row begins at a given place. -/
def beginnings (offset : Nat) : List TextRecord → List Nat
  | [] => []
  | record :: rest => offset :: beginnings (offset + record.payload.length) rest

/-- Whether so many digits from a place on lie in one of a row of records. -/
def InOne (records : List TextRecord) (offset length : Nat) : Prop :=
  ∃ front record back, records = front ++ record :: back ∧ digitsIn front ≤ offset ∧
    offset + length ≤ digitsIn front + record.payload.length

@[simp]
theorem digitsIn_nil : digitsIn [] = 0 := rfl

@[simp]
theorem digitsIn_cons (record : TextRecord) (rest : List TextRecord) :
    digitsIn (record :: rest) = record.payload.length + digitsIn rest := by
  simp [digitsIn]

/-- The records of a second row begin behind the digits of the first. -/
theorem beginnings_append (offset : Nat) (front back : List TextRecord) :
    beginnings offset (front ++ back) =
      beginnings offset front ++ beginnings (offset + digitsIn front) back := by
  induction front generalizing offset with
  | nil => rfl
  | cons record rest ih =>
    rw [List.cons_append, beginnings, ih, beginnings, digitsIn_cons, Nat.add_assoc, List.cons_append]

/-- No record begins in front of its row. -/
theorem le_of_mem_beginnings {offset place : Nat} {records : List TextRecord}
    (mem : place ∈ beginnings offset records) : offset ≤ place := by
  induction records generalizing offset with
  | nil => cases mem
  | cons record rest ih =>
    rcases List.mem_cons.1 mem with rfl | later
    · exact Nat.le_refl _
    · have behind := ih later
      omega

/-- No record begins behind the digits of its row, if none is empty. -/
theorem lt_of_mem_beginnings {offset place : Nat} {records : List TextRecord}
    (filled : ∀ record ∈ records, 0 < record.payload.length)
    (mem : place ∈ beginnings offset records) : place < offset + digitsIn records := by
  induction records generalizing offset with
  | nil => cases mem
  | cons record rest ih =>
    obtain ⟨own, others⟩ := List.forall_mem_cons.1 filled
    rw [digitsIn_cons]
    rcases List.mem_cons.1 mem with rfl | later
    · omega
    · have inside := ih others later
      omega

/-- Digits inside which no record begins lie in one. -/
theorem inOne_of_uncut {start offset length : Nat} {records : List TextRecord}
    (some_digit : 0 < length) (least : start ≤ offset)
    (most : offset + length ≤ start + digitsIn records)
    (uncut : ∀ place ∈ beginnings start records, place ≤ offset ∨ offset + length ≤ place) :
    ∃ front record back, records = front ++ record :: back ∧ start + digitsIn front ≤ offset ∧
      offset + length ≤ start + digitsIn front + record.payload.length := by
  induction records generalizing start with
  | nil =>
    rw [digitsIn_nil] at most
    omega
  | cons record rest ih =>
    rw [digitsIn_cons] at most
    obtain ⟨_, others⟩ := List.forall_mem_cons.1 uncut
    by_cases behind : start + record.payload.length ≤ offset
    · obtain ⟨front, holder, back, split, first, last⟩ := ih behind (by omega) others
      refine ⟨record :: front, holder, back, by rw [split, List.cons_append], ?_, ?_⟩
      · rw [digitsIn_cons]
        omega
      · rw [digitsIn_cons]
        omega
    · -- The next record, if there is one, does not begin inside.
      refine ⟨[], record, rest, rfl, by simpa using least, ?_⟩
      cases rest with
      | nil =>
        rw [digitsIn_nil] at most ⊢
        omega
      | cons next later =>
        have beyond := others _ List.mem_cons_self
        rw [digitsIn_nil]
        omega

end TextRecord

namespace Packer

open TextRecord (digitsIn beginnings beginnings_append)

/-- The number of digits that a row of calls brings. -/
def Call.digitsIn (calls : List Call) : Nat := (calls.flatMap Call.digits).length

variable {limit : RecordLimit} {packer : Packer} {calls : List Call}

section Parts

/-- The parts of a piece hold its digits. -/
theorem payload_parts (limit : RecordLimit) (location : Int) (piece : List Char) :
    (parts limit location piece).flatMap TextRecord.payload = piece := by
  rw [parts]
  fun_induction cut limit location piece with
  | case1 location piece fits => simp
  | case2 location piece next later left behind ih =>
    rw [List.cons_append, List.flatMap_cons, ih, ← left, List.take_append_drop]

/-- The parts of a piece begin at the multiples of the limit. -/
theorem mem_beginnings_parts {location : Int} {piece : List Char} (nonempty : 0 < piece.length)
    {offset place : Nat} :
    offset + place ∈ beginnings offset (parts limit location piece) ↔
      place < piece.length ∧ limit.digits ∣ place := by
  have room := limit.two_le
  rw [parts]
  fun_induction cut limit location piece generalizing offset place with
  | case1 location piece fits =>
    have short : piece.length ≤ limit.digits := List.drop_eq_nil_iff.1 fits
    simp only [List.nil_append, beginnings, List.mem_singleton]
    constructor
    · intro same
      obtain rfl : place = 0 := by omega
      exact ⟨nonempty, Nat.dvd_zero _⟩
    · rintro ⟨inside, multiple⟩
      rw [Nat.eq_zero_of_dvd_of_lt multiple (by omega), Nat.add_zero]
  | case2 location piece next later left behind ih =>
    have length := congrArg List.length left
    rw [List.length_drop] at length
    have full : (piece.take limit.digits).length = limit.digits := by
      rw [List.length_take, List.length_cons] at *
      omega
    rw [List.cons_append, beginnings, full, List.mem_cons]
    by_cases first : place < limit.digits
    · constructor
      · rintro (same | later)
        · obtain rfl : place = 0 := by omega
          exact ⟨nonempty, Nat.dvd_zero _⟩
        · have beyond := TextRecord.le_of_mem_beginnings later
          omega
      · rintro ⟨_, multiple⟩
        left
        rw [Nat.eq_zero_of_dvd_of_lt multiple first, Nat.add_zero]
    · -- Behind the first part the places are counted from the limit on.
      obtain ⟨further, rfl⟩ : ∃ further, place = limit.digits + further :=
        Nat.exists_eq_add_of_le (by omega)
      have rest : offset + limit.digits + further ∈
          beginnings (offset + limit.digits) (behind.1 ++ [behind.2]) ↔
            further < (next :: later).length ∧ limit.digits ∣ further := ih (by simp)
      rw [← Nat.add_assoc, rest, Nat.dvd_add_right (Nat.dvd_refl _)]
      constructor
      · rintro (same | ⟨inside, multiple⟩)
        · omega
        · exact ⟨by omega, multiple⟩
      · rintro ⟨inside, multiple⟩
        exact .inr ⟨by omega, multiple⟩

/-- The last part of a piece reaches to the address behind the piece. -/
theorem next_cut (limit : RecordLimit) (location : Int) (piece : List Char) :
    (cut limit location piece).2.next = location + (piece.length / 2 : Nat) := by
  have whole := limit.even
  fun_induction cut limit location piece with
  | case1 location piece fits => rfl
  | case2 location piece next later left behind ih =>
    have length := congrArg List.length left
    rw [List.length_drop] at length
    rw [ih]
    simp only [List.length_cons] at length ⊢
    omega

end Parts

section Steps

variable {location : Int} {piece : List Char}

/-- Taking in a piece puts its digits behind those taken in before. -/
theorem payload_add (limit : RecordLimit) (packer : Packer) (location : Int) (piece : List Char) :
    (packer.add limit location piece).records.flatMap TextRecord.payload =
      packer.records.flatMap TextRecord.payload ++ piece := by
  by_cases empty : piece = []
  · rw [empty, add_nil, List.append_nil]
  · by_cases joins : packer.Joins limit location piece
    · obtain ⟨record, isOpen, follows, fits⟩ := joins
      rw [records_add_of_joins empty isOpen follows fits, records_of_current isOpen]
      simp
    · rw [records_add_of_not_joins empty joins, List.flatMap_append, payload_parts]

/-- A piece that goes into the open record begins no record. -/
theorem beginnings_add_of_joins (nonempty : piece ≠ [])
    (joins : packer.Joins limit location piece) :
    beginnings 0 (packer.add limit location piece).records = beginnings 0 packer.records := by
  obtain ⟨record, isOpen, follows, fits⟩ := joins
  rw [records_add_of_joins nonempty isOpen follows fits, records_of_current isOpen,
    beginnings_append, beginnings_append]
  rfl

/-- Every other piece begins records, behind all others. -/
theorem beginnings_add_of_not_joins (nonempty : piece ≠ [])
    (apart : ¬ packer.Joins limit location piece) :
    beginnings 0 (packer.add limit location piece).records =
      beginnings 0 packer.records ++
        beginnings (digitsIn packer.records) (parts limit location piece) := by
  rw [records_add_of_not_joins nonempty apart, beginnings_append, Nat.zero_add]

/-- What a call brings goes behind what was taken in before, and so do the records that it begins. -/
theorem beginnings_apply (limit : RecordLimit) (packer : Packer) (call : Call) :
    (packer.apply limit call).records.flatMap TextRecord.payload =
        packer.records.flatMap TextRecord.payload ++ call.digits ∧
      ∃ later, beginnings 0 (packer.apply limit call).records =
          beginnings 0 packer.records ++ later ∧
        ∀ place ∈ later, digitsIn packer.records ≤ place := by
  cases call with
  | flush => simp [apply, Call.digits]
  | add location piece =>
    refine ⟨payload_add limit packer location piece, ?_⟩
    rw [apply]
    by_cases empty : piece = []
    · exact ⟨[], by rw [empty, add_nil, List.append_nil], by simp⟩
    · by_cases joins : packer.Joins limit location piece
      · exact ⟨[], by rw [beginnings_add_of_joins empty joins, List.append_nil], by simp⟩
      · exact ⟨_, beginnings_add_of_not_joins empty joins,
          fun place => TextRecord.le_of_mem_beginnings⟩

end Steps

/-- What a row of calls brings goes behind what was taken in before, and so do the records that it
begins. -/
theorem beginnings_run (limit : RecordLimit) (packer : Packer) (calls : List Call) :
    (run limit packer calls).records.flatMap TextRecord.payload =
        packer.records.flatMap TextRecord.payload ++ calls.flatMap Call.digits ∧
      ∃ later, beginnings 0 (run limit packer calls).records =
          beginnings 0 packer.records ++ later ∧
        ∀ place ∈ later, digitsIn packer.records ≤ place := by
  induction calls generalizing packer with
  | nil => exact ⟨by simp [run], [], by simp [run], by simp⟩
  | cons call rest ih =>
    obtain ⟨own, first, begun, behind⟩ := beginnings_apply limit packer call
    obtain ⟨all, later, further, beyond⟩ := ih (packer.apply limit call)
    have longer : digitsIn packer.records ≤ digitsIn (packer.apply limit call).records := by
      rw [TextRecord.digitsIn, TextRecord.digitsIn, own, List.length_append]
      omega
    refine ⟨by rw [run_cons, all, own, List.flatMap_cons, List.append_assoc], first ++ later, ?_, ?_⟩
    · rw [run_cons, further, begun, List.append_assoc]
    · intro place mem
      rcases List.mem_append.1 mem with mine | other
      · exact behind place mine
      · exact Nat.le_trans longer (beyond place other)

/-- The records of a new packer hold the digits that the calls have brought. -/
theorem payload_run (limit : RecordLimit) (calls : List Call) :
    (run limit {} calls).records.flatMap TextRecord.payload = calls.flatMap Call.digits :=
  (beginnings_run limit {} calls).1

/-- In the place of a piece records begin exactly where the piece does not go into the open record: at
its beginning, and at the multiples of the limit behind it. -/
theorem mem_beginnings_written {front back : List Call} {location : Int} {piece : List Char}
    (whole : ∀ call ∈ front, call.digits.length % 2 = 0) {place : Nat}
    (inside : place < piece.length) :
    Call.digitsIn front + place ∈
        beginnings 0 (written limit (front ++ .add location piece :: back)) ↔
      ¬ (run limit {} front).Joins limit location piece ∧ limit.digits ∣ place := by
  have nonempty : piece ≠ [] := List.ne_nil_of_length_pos (by omega)
  have before : digitsIn (run limit {} front).records = Call.digitsIn front := by
    rw [TextRecord.digitsIn, payload_run, Call.digitsIn]
  have after : digitsIn ((run limit {} front).add limit location piece).records =
      Call.digitsIn front + piece.length := by
    rw [TextRecord.digitsIn, payload_add, List.length_append, ← before, TextRecord.digitsIn]
  -- No record begins here that began before the piece, or that begins behind it.
  have earlier : Call.digitsIn front + place ∉ beginnings 0 (run limit {} front).records := by
    intro mem
    have within := (run_spec (withinLimit_empty limit) whole).2
    have bound := TextRecord.lt_of_mem_beginnings (fun record mem => (within record mem).nonempty) mem
    omega
  obtain ⟨_, later, split, behind⟩ :=
    beginnings_run limit ((run limit {} front).add limit location piece) back
  have beyond : Call.digitsIn front + place ∉ later := by
    intro mem
    have bound := behind _ mem
    omega
  have records : written limit (front ++ .add location piece :: back) =
      (run limit ((run limit {} front).add limit location piece) back).records := by
    rw [written_eq, run_append, run_cons]
    rfl
  rw [records, split, List.mem_append, or_iff_left beyond]
  by_cases joins : (run limit {} front).Joins limit location piece
  · rw [beginnings_add_of_joins nonempty joins]
    exact ⟨fun mem => absurd mem earlier, fun both => absurd joins both.1⟩
  · rw [beginnings_add_of_not_joins nonempty joins, List.mem_append, or_iff_right earlier, before,
      mem_beginnings_parts (by omega)]
    exact ⟨fun both => ⟨joins, both.2⟩, fun both => ⟨inside, both.2⟩⟩

/-- Whether a piece goes into a given open record. -/
theorem joins_of_current {record : TextRecord} (isOpen : packer.current = some record)
    {location : Int} {piece : List Char} :
    packer.Joins limit location piece ↔
      location = record.next ∧ record.payload.length + piece.length ≤ limit.digits := by
  simp [Joins, isOpen]

/-- A closed packer has no open record. -/
theorem current_flush (packer : Packer) : packer.flush.current = none := if_pos packer.isEmpty_flush

/-- Calls that bring nothing leave the open record as it is, unless they close it. -/
theorem current_run_of_idle (idle : ∀ call ∈ calls, call.digits = []) :
    (run limit packer calls).current = if .flush ∈ calls then none else packer.current := by
  induction calls generalizing packer with
  | nil => simp [run]
  | cons call rest ih =>
    obtain ⟨own, others⟩ := List.forall_mem_cons.1 idle
    rw [run_cons, ih others]
    cases call with
    | flush => simp [apply, current_flush]
    | add location piece =>
      obtain rfl : piece = [] := own
      simp [apply]

/-- Behind a piece the open record reaches to the address behind the piece. -/
theorem current_add (kept : packer.WithinLimit limit) (location : Int) {piece : List Char}
    (nonempty : piece ≠ []) :
    ∃ record, (packer.add limit location piece).current = some record ∧
      record.next = location + (piece.length / 2 : Nat) := by
  by_cases joins : packer.Joins limit location piece
  · obtain ⟨record, isOpen, follows, fits⟩ := joins
    rw [add_of_joins nonempty ⟨record, isOpen, follows, fits⟩]
    refine ⟨_, current_append_of_current isOpen piece, ?_⟩
    have even := (kept record (by simp [records_of_current isOpen])).even
    simp only [follows, TextRecord.next, List.length_append]
    omega
  · rw [add_of_not_joins nonempty joins]
    exact ⟨_, (add_of_isEmpty packer.isEmpty_flush location nonempty).2,
      next_cut limit location piece⟩

section Pieces

variable {front between back : List Call} {location second : Int} {piece next : List Char}

/-- A piece that fits into a record lies in one. -/
theorem inOne_written
    (whole : ∀ call ∈ front ++ .add location piece :: back, call.digits.length % 2 = 0)
    (nonempty : piece ≠ []) (short : piece.length ≤ limit.digits) :
    TextRecord.InOne (written limit (front ++ .add location piece :: back)) (Call.digitsIn front)
      piece.length := by
  have inside : Call.digitsIn front + piece.length ≤
      0 + digitsIn (written limit (front ++ .add location piece :: back)) := by
    rw [TextRecord.digitsIn, written_eq, payload_run, Call.digitsIn]
    simp [Call.digits]
  have uncut : ∀ place ∈ beginnings 0 (written limit (front ++ .add location piece :: back)),
      place ≤ Call.digitsIn front ∨ Call.digitsIn front + piece.length ≤ place := by
    intro place mem
    by_contra within
    obtain ⟨further, rfl⟩ : ∃ further, place = Call.digitsIn front + further :=
      Nat.exists_eq_add_of_le (by omega)
    have multiple := ((mem_beginnings_written
      (fun call listed => whole call (List.mem_append_left _ listed)) (by omega)).1 mem).2
    have zero := Nat.eq_zero_of_dvd_of_lt multiple (by omega)
    omega
  obtain ⟨before, record, after, split, least, most⟩ := TextRecord.inOne_of_uncut
    (List.length_pos_of_ne_nil nonempty) (Nat.zero_le _) inside uncut
  exact ⟨before, record, after, split, by omega, by omega⟩

/-- A piece that is too long for a record begins one, and further ones at the multiples of the
limit. -/
theorem mem_beginnings_of_long
    (whole : ∀ call ∈ front ++ .add location piece :: back, call.digits.length % 2 = 0)
    (long : limit.digits < piece.length) {place : Nat} (inside : place < piece.length) :
    Call.digitsIn front + place ∈
        beginnings 0 (written limit (front ++ .add location piece :: back)) ↔
      limit.digits ∣ place := by
  rw [mem_beginnings_written
    (fun call listed => whole call (List.mem_append_left _ listed)) inside]
  refine and_iff_right ?_
  rintro ⟨record, _, _, fits⟩
  omega

/-- Between two pieces with no digits between them a record begins exactly if the open one was closed,
or the second piece does not follow on, or there is no room for it. -/
theorem mem_beginnings_between
    (whole : ∀ call ∈ front ++ .add location piece :: (between ++ .add second next :: back),
      call.digits.length % 2 = 0)
    (nonempty : piece ≠ []) (idle : ∀ call ∈ between, call.digits = []) (further : next ≠ []) :
    Call.digitsIn (front ++ .add location piece :: between) ∈ beginnings 0
        (written limit (front ++ .add location piece :: (between ++ .add second next :: back))) ↔
      .flush ∈ between ∨ second ≠ location + (piece.length / 2 : Nat) ∨
        ∃ record, (run limit {} (front ++ .add location piece :: between)).current = some record ∧
          limit.digits < record.payload.length + next.length := by
  have split : front ++ .add location piece :: (between ++ .add second next :: back) =
      (front ++ .add location piece :: between) ++ .add second next :: back := by simp
  rw [split] at whole ⊢
  have before : ∀ call ∈ front ++ .add location piece :: between, call.digits.length % 2 = 0 :=
    fun call listed => whole call (List.mem_append_left _ listed)
  have begins := @mem_beginnings_written limit _ back second next before 0
    (List.length_pos_of_ne_nil further)
  rw [Nat.add_zero, and_iff_left (Nat.dvd_zero _)] at begins
  rw [begins]
  have kept := (run_spec (withinLimit_empty limit) fun call listed =>
    before call (List.mem_append_left _ listed)).2
  obtain ⟨record, isOpen, behind⟩ := current_add kept location nonempty
  have current : (run limit {} (front ++ .add location piece :: between)).current =
      if .flush ∈ between then none else some record := by
    rw [← isOpen, ← current_run_of_idle idle]
    exact congrArg Packer.current (run_append _ _ _ _)
  by_cases closed : Call.flush ∈ between
  · rw [if_pos closed] at current
    refine ⟨fun _ => .inl closed, fun _ joins => ?_⟩
    obtain ⟨other, wrong, _⟩ := joins
    cases current.symm.trans wrong
  · rw [if_neg closed] at current
    rw [or_iff_right closed, ← behind, joins_of_current current, not_and_or, Nat.not_le]
    simp [current]

end Pieces

/-- How the pieces of a row of calls lie in records. -/
structure Packed (limit : RecordLimit) (calls : List Call) (records : List TextRecord) : Prop where
  /-- Every record holds digits, and no more than the limit allows. -/
  bounds : ∀ record ∈ records, record.payload ≠ [] ∧ record.payload.length ≤ limit.digits
  /-- The records hold the digits of the pieces, one behind the other. -/
  digits : records.flatMap TextRecord.payload = calls.flatMap Call.digits
  /-- A piece that fits into a record lies in one, if it has digits at all. -/
  short : ∀ (front : List Call) (location : Int) (piece : List Char) (back : List Call),
    calls = front ++ .add location piece :: back → piece ≠ [] → piece.length ≤ limit.digits →
      TextRecord.InOne records (Call.digitsIn front) piece.length
  /-- A longer piece begins a record, and further ones at the multiples of the limit and nowhere
  else. -/
  long : ∀ (front : List Call) (location : Int) (piece : List Char) (back : List Call),
    calls = front ++ .add location piece :: back → limit.digits < piece.length →
      ∀ place < piece.length,
        (Call.digitsIn front + place ∈ beginnings 0 records ↔ limit.digits ∣ place)
  /-- Between a piece and the next one that has digits a record begins exactly if the open one was
  closed, or the second piece does not follow on, or there is no room for it. -/
  breaks : ∀ (front : List Call) (first : Int) (piece : List Char) (between : List Call)
    (second : Int) (next : List Char) (back : List Call),
    calls = front ++ .add first piece :: (between ++ .add second next :: back) →
    piece ≠ [] → (∀ call ∈ between, call.digits = []) → next ≠ [] →
      (Call.digitsIn (front ++ .add first piece :: between) ∈ beginnings 0 records ↔
        .flush ∈ between ∨ second ≠ first + (piece.length / 2 : Nat) ∨
          ∃ record, (run limit {} (front ++ .add first piece :: between)).current = some record ∧
            limit.digits < record.payload.length + next.length)

/-- The packer keeps the limit, cuts no piece that fits into a record, cuts a longer one only at the
multiples of the limit, and begins a record between two pieces only if it has to. -/
theorem packed_written (limit : RecordLimit)
    (whole : ∀ call ∈ calls, call.digits.length % 2 = 0) :
    Packed limit calls (written limit calls) := by
  have within := (written_spec limit whole).2
  refine
    { bounds := fun record mem => ?_
      digits := by rw [written_eq, payload_run]
      short := ?_
      long := ?_
      breaks := ?_ }
  · exact ⟨List.ne_nil_of_length_pos (within record mem).nonempty, (within record mem).bound⟩
  · rintro front location piece back rfl
    exact inOne_written whole
  · rintro front location piece back rfl long place
    exact mem_beginnings_of_long whole long
  · rintro front first piece between second next back rfl
    exact mem_beginnings_between whole

/-- The records of the calls begin at the piece above the limit and where it is cut, behind the call
that closes a record, at the piece that overlaps, and at the one far off. -/
theorem packed_written_mixed :
    (∀ call ∈ mixedCalls, call.digits.length % 2 = 0) ∧
      beginnings 0 (written twoBytes mixedCalls) = [0, 4, 8, 10, 12, 16] ∧
      Packed twoBytes mixedCalls (written twoBytes mixedCalls) := by
  have whole : ∀ call ∈ mixedCalls, call.digits.length % 2 = 0 := by decide +kernel
  exact ⟨whole, by decide +kernel, packed_written twoBytes whole⟩

end Packer

end TwoPass
