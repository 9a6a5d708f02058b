import Mathlib.Data.List.Nodup
import TwoPass.Proofs.FirstMention
import TwoPass.Proofs.Form
import TwoPass.Proofs.SourceFailure

/-!
# Literal pools

The first pass collects the literals that operands mention and places them at the next item that
asks for it.  An item that does so places first and collects afterwards, so the literals in its own
operands wait for the next one.

`Pooled` is the invariant: the placed literals stand in front of the waiting ones, and the pools of
the items, one behind the other, are exactly the placed literals, each pool laid out from the address
of its item on.  `step_pooled` says that a step keeps it, whether it succeeds or fails.
-/

namespace TwoPass

namespace LiteralTable

variable {table : LiteralTable}

/-- The entry of a text that the front of a table has is found there. -/
theorem entry?_append {front back : List Literal} {text : String} {literal : Literal}
    (found : LiteralTable.entry? ⟨front⟩ text = some literal) :
    LiteralTable.entry? ⟨front ++ back⟩ text = some literal := by
  unfold entry? at found ⊢
  rw [List.find?_append, found, Option.some_or]

/-- An entry of a table without repetitions is found by its text. -/
theorem entry?_of_mem {entries : List Literal} (different : (entries.map Literal.text).Nodup)
    {literal : Literal} (listed : literal ∈ entries) :
    LiteralTable.entry? ⟨entries⟩ literal.text = some literal := by
  unfold entry?
  induction entries with
  | nil => cases listed
  | cons first rest ih =>
    rw [List.map_cons, List.nodup_cons] at different
    rcases List.mem_cons.1 listed with rfl | later
    · simp
    · have apart : first.text ≠ literal.text := by
        intro same
        exact different.1 (same ▸ List.mem_map_of_mem later)
      simpa [apart] using ih different.2 later

/-- A table has no entry of a text exactly when none of its entries has the text. -/
theorem entry?_eq_none_iff {text : String} :
    table.entry? text = none ↔ text ∉ table.entries.map Literal.text := by
  unfold entry?
  rw [List.find?_eq_none]
  simp

/-- A placed literal has an address. -/
theorem isSome_of_mem_placed {literal : Literal} (placed : literal ∈ table.placed) :
    literal.location.isSome = true :=
  (List.mem_filter.1 placed).2

/-- A waiting literal has no address. -/
theorem eq_none_of_mem_unplaced {literal : Literal} (waiting : literal ∈ table.unplaced) :
    literal.location = none :=
  Option.isNone_iff_eq_none.1 (List.mem_filter.1 waiting).2

/-- Where the placed literals stand in front of the waiting ones, the table tells them apart. -/
theorem placed_append {front back : List Literal}
    (placed : ∀ literal ∈ front, literal.location.isSome = true)
    (waiting : ∀ literal ∈ back, literal.location = none) :
    LiteralTable.placed ⟨front ++ back⟩ = front ∧ LiteralTable.unplaced ⟨front ++ back⟩ = back := by
  have none_placed : back.filter (fun literal => literal.location.isSome) = [] := by
    rw [List.filter_eq_nil_iff]
    intro literal listed
    simp [waiting literal listed]
  have none_waiting : front.filter (fun literal => literal.location.isNone) = [] := by
    rw [List.filter_eq_nil_iff]
    intro literal listed
    have := placed literal listed
    cases found : literal.location <;> simp_all
  have all_placed : front.filter (fun literal => literal.location.isSome) = front :=
    List.filter_eq_self.2 placed
  have all_waiting : back.filter (fun literal => literal.location.isNone) = back := by
    rw [List.filter_eq_self]
    intro literal listed
    simp [waiting literal listed]
  constructor
  · rw [LiteralTable.placed, List.filter_append, all_placed, none_placed, List.append_nil]
  · rw [LiteralTable.unplaced, List.filter_append, none_waiting, all_waiting, List.nil_append]

/-- Placing an entry of a table without repetitions changes that entry alone. -/
theorem place?_append {front back : List Literal} {literal : Literal}
    (different : ((front ++ literal :: back).map Literal.text).Nodup)
    (plain : Form.withoutMark literal.text = literal.text) (location : Int) :
    LiteralTable.place? ⟨front ++ literal :: back⟩ literal.text location =
      some ⟨front ++ { literal with location := some location } :: back⟩ := by
  have listed : literal ∈ front ++ literal :: back := by simp
  have others : ∀ other ∈ front ++ back, other.text ≠ literal.text := by
    intro other mem same
    rw [List.map_append, List.map_cons, List.nodup_middle, List.nodup_cons,
      ← List.map_append] at different
    exact different.1 (same ▸ List.mem_map_of_mem mem)
  have fixed (row : List Literal) (inside : ∀ other ∈ row, other ∈ front ++ back) :
      row.map (fun other => if other.text = literal.text then
        { other with location := some location } else other) = row := by
    conv_rhs => rw [← List.map_id row]
    apply List.map_congr_left
    intro other mem
    rw [if_neg (others other (inside other mem)), id]
  rw [place?, get?, plain, entry?_of_mem different listed, Option.isSome_some, if_pos rfl]
  simp only [List.map_append, List.map_cons, if_pos]
  rw [fixed front fun other mem => List.mem_append_left back mem,
    fixed back fun other mem => List.mem_append_right front mem]

/-- Whether a row of texts is laid out from an address on: each text has its entry at the address
behind the bytes of the texts in front of it. -/
def Laid (table : LiteralTable) : Int → List String → Prop
  | _, [] => True
  | address, text :: rest =>
    (∃ literal, table.entry? text = some literal ∧ literal.location = some address) ∧
      Laid table (address + Form.lengthOf text) rest

/-- What is laid out stays so when the table keeps its entries. -/
theorem Laid.mono {later : LiteralTable} {texts : List String} {address : Int}
    (laid : table.Laid address texts)
    (kept : ∀ text ∈ texts, ∀ literal, table.entry? text = some literal →
      later.entry? text = some literal) : later.Laid address texts := by
  induction texts generalizing address with
  | nil => trivial
  | cons text rest ih =>
    obtain ⟨⟨literal, found, located⟩, further⟩ := laid
    exact ⟨⟨literal, kept text List.mem_cons_self literal found, located⟩,
      ih further fun other mem => kept other (List.mem_cons_of_mem text mem)⟩

/-- In a row of texts that is laid out, each entry stands behind the bytes of those before it. -/
theorem Laid.location {front back : List String} {text : String} {address : Int}
    (laid : table.Laid address (front ++ text :: back)) :
    ∃ literal, table.entry? text = some literal ∧
      literal.location = some (address + ((front.map Form.lengthOf).sum : Nat)) := by
  induction front generalizing address with
  | nil => simpa using laid.1
  | cons first rest ih =>
    obtain ⟨literal, found, located⟩ := ih laid.2
    refine ⟨literal, found, ?_⟩
    rw [located, List.map_cons, List.sum_cons]
    congr 1
    omega

end LiteralTable

/-- The texts of the literals among some operands, in order. -/
def Operand.literalTexts (operands : List String) : List String :=
  (operands.filter isLiteral).map Form.withoutMark

/-- The texts of the literals that an item mentions, in the order of its operands. -/
def Item.mentions (item : Item) : List String := Operand.literalTexts item.statement.operands

namespace Layout

variable {progress : Progress} {item : Item}

/-- Literals with addresses one behind the other. -/
def placedFrom (address : Nat) : List Literal → List Literal
  | [] => []
  | literal :: rest =>
    { literal with location := some (address : Int) } ::
      placedFrom (address + Form.lengthOf literal.text) rest

/-- Placing literals keeps their texts. -/
@[simp]
theorem map_text_placedFrom (address : Nat) (literals : List Literal) :
    (placedFrom address literals).map Literal.text = literals.map Literal.text := by
  induction literals generalizing address with
  | nil => rfl
  | cons literal rest ih => rw [placedFrom, List.map_cons, List.map_cons, ih]

/-- Placed literals have addresses. -/
theorem isSome_of_mem_placedFrom {address : Nat} {literals : List Literal} {literal : Literal}
    (placed : literal ∈ placedFrom address literals) : literal.location.isSome = true := by
  induction literals generalizing address with
  | nil => cases placed
  | cons first rest ih =>
    rcases List.mem_cons.1 placed with rfl | later
    · rfl
    · exact ih later

/-- Placed literals are laid out in a table that holds them. -/
theorem laid_placedFrom {table : LiteralTable} {address : Nat} {literals : List Literal}
    (held : ∀ literal ∈ placedFrom address literals,
      table.entry? literal.text = some literal) :
    table.Laid address (literals.map Literal.text) := by
  induction literals generalizing address with
  | nil => trivial
  | cons first rest ih =>
    refine ⟨⟨{ first with location := some (address : Int) }, held _ List.mem_cons_self, rfl⟩, ?_⟩
    have further := ih fun literal mem => held literal (List.mem_cons_of_mem _ mem)
    rwa [Int.natCast_add] at further

/-- The waiting literals of a table without repetitions are placed one behind the other, and the
location counter moves past them. -/
theorem fillPool_eq {front waiting : List Literal}
    (entries : progress.tables.literals.entries = front ++ waiting)
    (different : ((front ++ waiting).map Literal.text).Nodup)
    (storable : ∀ literal ∈ waiting, Form.Storable literal.text) :
    (fillPool progress item waiting).result = .ok () ∧
      (fillPool progress item waiting).state =
        (⟨{ progress.tables with literals := ⟨front ++ placedFrom progress.counter waiting⟩ },
            progress.counter + (waiting.map fun literal => Form.lengthOf literal.text).sum⟩,
          { item with pool := item.pool ++ waiting.map Literal.text }) := by
  induction waiting generalizing progress item front with
  | nil =>
    refine ⟨rfl, ?_⟩
    simp [fillPool, Outcome.done, placedFrom, ← entries]
  | cons literal rest ih =>
    have own := storable literal List.mem_cons_self
    obtain ⟨bytes, written⟩ := own.written
    have length : literal.byteLength = .ok (Form.lengthOf literal.text) :=
      (Form.hexOf_eq_ok written).1
    have table : progress.tables.literals = ⟨front ++ literal :: rest⟩ := by
      rw [← entries]
    have placed := LiteralTable.place?_append different
      (Form.withoutMark_of_parse? own.spelled) progress.counter
    -- The literal just placed joins the front, and the rest goes on from behind its bytes.
    have next := @ih
      ⟨{ progress.tables with
          literals := ⟨front ++ { literal with location := some ↑progress.counter } :: rest⟩ },
        progress.counter + Form.lengthOf literal.text⟩
      { item with pool := item.pool ++ [literal.text] }
      (front ++ [{ literal with location := some ↑progress.counter }])
      (by simp) (by simpa using different)
      (fun other mem => storable other (List.mem_cons_of_mem literal mem))
    rw [fillPool, table, placed]
    simp only [length, Outcome.remarked]
    refine ⟨next.1, next.2.trans ?_⟩
    simp only [List.append_assoc, List.singleton_append, placedFrom, List.map_cons, List.sum_cons,
      Nat.add_assoc]

/-- A new literal operand joins the table as an entry that waits to be placed. -/
theorem insert_eq {table : LiteralTable} {operand : String} {bytes : List Char}
    (literal : Operand.isLiteral operand = true) (written : Form.hexOf operand = .ok bytes)
    (new : table.get? operand = none) :
    ∃ kind, let added : Literal := ⟨Form.withoutMark operand, none, kind⟩
      table.insert operand none none = .ok (⟨table.entries ++ [added]⟩, added) := by
  obtain ⟨form, reads, _⟩ := Form.read_of_hexOf written
  refine ⟨form.kind, ?_⟩
  simp only [LiteralTable.insert, new, Form.read_withoutMark literal reads]
  rfl

/-- What it is to collect the literals of some operands: entries that wait to be placed are appended
to the table, which has no text twice.  After a success the table lists the texts that it had and
those of the operands, each once, in order. -/
structure Gathered (progress : Progress) (item : Item) (operands : List String)
    (outcome : Outcome (Progress × Item) Unit) (new : List Literal) : Prop where
  /-- Only the literals change. -/
  state : outcome.state =
    (⟨{ progress.tables with literals := ⟨progress.tables.literals.entries ++ new⟩ },
      progress.counter⟩, item)
  /-- The new entries wait to be placed. -/
  waiting : ∀ literal ∈ new, literal.location = none
  /-- The new entries may be stored. -/
  storable : ∀ literal ∈ new, Form.Storable literal.text
  /-- No text is listed twice. -/
  different : ((progress.tables.literals.entries ++ new).map Literal.text).Nodup
  /-- After a success every text is listed. -/
  complete : outcome.result = .ok () →
    (progress.tables.literals.entries ++ new).map Literal.text =
      (progress.tables.literals.entries.map Literal.text ++
        Operand.literalTexts operands).eraseDups

/-- A failure leaves the table as it is. -/
theorem gathered_failed (progress : Progress) (item : Item) (operands : List String)
    (different : (progress.tables.literals.entries.map Literal.text).Nodup) (cause : Cause) :
    Gathered progress item operands
      (.failed (progress, item) (item.statement.failure cause)) [] where
  state := by simp [Outcome.failed]
  waiting := by simp
  storable := by simp
  different := by simpa using different
  complete := by
    intro succeeds
    cases succeeds

/-- An operand that adds no text can be passed over. -/
theorem Gathered.skip {operand : String} {operands : List String}
    {outcome : Outcome (Progress × Item) Unit} {new : List Literal}
    (later : Gathered progress item operands outcome new)
    (old : (progress.tables.literals.entries.map Literal.text ++
        Operand.literalTexts (operand :: operands)).eraseDups =
      (progress.tables.literals.entries.map Literal.text ++
        Operand.literalTexts operands).eraseDups) :
    Gathered progress item (operand :: operands) outcome new :=
  { later with complete := fun succeeds => (later.complete succeeds).trans old.symm }

/-- An operand whose entry was just appended is followed by the other operands. -/
theorem Gathered.cons {operand : String} {operands : List String}
    {outcome : Outcome (Progress × Item) Unit} {added : Literal} {new : List Literal}
    (later : Gathered
      ⟨{ progress.tables with literals := ⟨progress.tables.literals.entries ++ [added]⟩ },
        progress.counter⟩ item operands outcome new)
    (literal : Operand.isLiteral operand = true) (text : added.text = Form.withoutMark operand)
    (waiting : added.location = none) (storable : Form.Storable added.text) :
    Gathered progress item (operand :: operands) outcome (added :: new) where
  state := by simpa using later.state
  waiting := List.forall_mem_cons.2 ⟨waiting, later.waiting⟩
  storable := List.forall_mem_cons.2 ⟨storable, later.storable⟩
  different := by simpa using later.different
  complete := by
    intro succeeds
    simpa [Operand.literalTexts, literal, text] using later.complete succeeds

/-- The literals of the operands are collected. -/
theorem gatherLiterals_spec (progress : Progress) (item : Item) (operands : List String)
    (different : (progress.tables.literals.entries.map Literal.text).Nodup) :
    ∃ new, Gathered progress item operands (gatherLiterals progress item operands) new := by
  induction operands generalizing progress with
  | nil =>
    refine ⟨[], by simp [gatherLiterals, Outcome.done], by simp, by simp, by simpa using different,
      ?_⟩
    intro _
    simp [Operand.literalTexts, eraseDups_of_nodup different]
  | cons operand rest ih =>
    rw [gatherLiterals]
    split
    · rename_i mentioned
      rw [Bool.and_eq_true, Option.isNone_iff_eq_none] at mentioned
      obtain ⟨literal, absent⟩ := mentioned
      cases written : Form.hexOf operand with
      | error cause => exact ⟨[], gathered_failed progress item _ different cause⟩
      | ok bytes =>
        obtain ⟨kind, inserted⟩ := insert_eq literal written absent
        simp only [inserted]
        have fresh : Form.withoutMark operand ∉
            progress.tables.literals.entries.map Literal.text :=
          LiteralTable.entry?_eq_none_iff.1 absent
        have longer : ((progress.tables.literals.entries ++
            [(⟨Form.withoutMark operand, none, kind⟩ : Literal)]).map Literal.text).Nodup := by
          rw [List.map_append, List.nodup_append]
          refine ⟨different, by simp, ?_⟩
          intro old mem added single same
          simp only [List.map_cons, List.map_nil, List.mem_singleton] at single
          exact fresh (single ▸ same ▸ mem)
        obtain ⟨new, later⟩ := ih
          ⟨{ progress.tables with literals := ⟨_⟩ }, progress.counter⟩ longer
        exact ⟨_, later.cons literal rfl rfl (Form.storable_withoutMark literal written)⟩
    · rename_i passed
      obtain ⟨new, later⟩ := ih progress different
      refine ⟨new, later.skip ?_⟩
      cases literal : Operand.isLiteral operand with
      | false => simp [Operand.literalTexts, literal]
      | true =>
        have known : Form.withoutMark operand ∈
            progress.tables.literals.entries.map Literal.text := by
          by_contra absent
          rw [← LiteralTable.entry?_eq_none_iff] at absent
          simp [literal, LiteralTable.get?, absent] at passed
        have texts : Operand.literalTexts (operand :: rest) =
            Form.withoutMark operand :: Operand.literalTexts rest := by
          simp [Operand.literalTexts, literal]
        rw [texts, eraseDups_append_cons_of_mem known]

/-- The state of the literals between two items: no text is listed twice, the placed literals stand
in front of the waiting ones, and the pools of the items, one behind the other, are the placed
literals, each pool laid out from the address of its item on. -/
structure Pooled (done : List Item) (literals : LiteralTable) : Prop where
  /-- Every entry may be stored. -/
  storable : ∀ literal ∈ literals.entries, Form.Storable literal.text
  /-- No text is listed twice. -/
  different : (literals.entries.map Literal.text).Nodup
  /-- The placed literals stand in front. -/
  ordered : literals.entries = literals.placed ++ literals.unplaced
  /-- The pools are the placed literals. -/
  pools : done.flatMap Item.pool = literals.placed.map Literal.text
  /-- The pools are laid out. -/
  laid : ∀ item ∈ done, literals.Laid item.location item.pool

namespace Pooled

variable {done : List Item} {literals : LiteralTable}

/-- Nothing is pooled at the beginning. -/
theorem empty : Pooled [] {} := by
  refine ⟨by simp, by simp, rfl, rfl, by simp⟩

/-- A literal in a pool is a placed entry of the table. -/
theorem entry (pooled : Pooled done literals) {text : String}
    (inside : text ∈ done.flatMap Item.pool) :
    ∃ literal ∈ literals.placed, literal.text = text ∧ literals.entry? text = some literal := by
  rw [pooled.pools] at inside
  obtain ⟨literal, placed, rfl⟩ := List.mem_map.1 inside
  refine ⟨literal, placed, rfl, ?_⟩
  exact LiteralTable.entry?_of_mem pooled.different (List.mem_of_mem_filter placed)

/-- A table that keeps the placed entries in front keeps the pools where they are. -/
theorem laid_of_append (pooled : Pooled done literals) (back : List Literal) :
    ∀ item ∈ done, LiteralTable.Laid ⟨literals.placed ++ back⟩ item.location item.pool := by
  intro item mem
  refine (pooled.laid item mem).mono fun text inside literal found => ?_
  obtain ⟨placed, listed, same, entry⟩ :=
    pooled.entry (List.mem_flatMap.2 ⟨item, mem, inside⟩)
  obtain rfl : placed = literal := Option.some.inj (entry.symm.trans found)
  have different : (literals.placed.map Literal.text).Nodup := by
    have whole := pooled.different
    rw [pooled.ordered, List.map_append] at whole
    exact (List.nodup_append.1 whole).1
  exact LiteralTable.entry?_append (same ▸ LiteralTable.entry?_of_mem different listed)

/-- Items with empty pools may follow. -/
theorem append (pooled : Pooled done literals) {further : List Item}
    (empty : ∀ item ∈ further, item.pool = []) : Pooled (done ++ further) literals := by
  refine { pooled with pools := ?_, laid := ?_ }
  · have none : further.flatMap Item.pool = [] := List.flatMap_eq_nil_iff.2 empty
    rw [List.flatMap_append, none, List.append_nil, pooled.pools]
  · intro item mem
    rcases List.mem_append.1 mem with old | new
    · exact pooled.laid item old
    · rw [empty item new]
      trivial

/-- Entries that wait to be placed may be appended. -/
theorem gathered (pooled : Pooled done progress.tables.literals) {operands : List String}
    {outcome : Outcome (Progress × Item) Unit} {new : List Literal}
    (gathered : Gathered progress item operands outcome new) :
    Pooled done outcome.state.1.tables.literals ∧
      outcome.state.1.tables.literals.placed = progress.tables.literals.placed := by
  have waiting : ∀ literal ∈ progress.tables.literals.unplaced ++ new, literal.location = none := by
    intro literal mem
    rcases List.mem_append.1 mem with old | added
    · exact LiteralTable.eq_none_of_mem_unplaced old
    · exact gathered.waiting literal added
  have entries : progress.tables.literals.entries ++ new =
      progress.tables.literals.placed ++ (progress.tables.literals.unplaced ++ new) := by
    rw [← List.append_assoc, ← pooled.ordered]
  obtain ⟨placed, unplaced⟩ := LiteralTable.placed_append
    (fun literal mem => LiteralTable.isSome_of_mem_placed mem) waiting
  have table : outcome.state.1.tables.literals =
      ⟨progress.tables.literals.placed ++ (progress.tables.literals.unplaced ++ new)⟩ := by
    rw [gathered.state, ← entries]
  rw [table]
  refine ⟨⟨?_, ?_, ?_, ?_, ?_⟩, placed⟩
  · intro literal mem
    rw [← entries] at mem
    rcases List.mem_append.1 mem with old | added
    · exact pooled.storable literal old
    · exact gathered.storable literal added
  · have different := gathered.different
    rwa [entries] at different
  · rw [placed, unplaced]
  · rw [placed, pooled.pools]
  · exact pooled.laid_of_append _

/-- Filling the pool of an item that has no literal yet, and whose address is the location counter,
places every waiting literal there. -/
theorem filled (pooled : Pooled done progress.tables.literals) (empty : item.pool = [])
    (located : item.location = progress.counter) :
    let filled := fillPool progress item progress.tables.literals.unplaced
    filled.result = .ok () ∧
      Pooled (done ++ [filled.state.2]) filled.state.1.tables.literals ∧
      filled.state.1.tables.literals.entries.map Literal.text =
        progress.tables.literals.entries.map Literal.text ∧
      filled.state.1.tables.literals.placed = filled.state.1.tables.literals.entries := by
  have storable : ∀ literal ∈ progress.tables.literals.unplaced, Form.Storable literal.text :=
    fun literal waiting => pooled.storable literal (List.mem_of_mem_filter waiting)
  have different := pooled.different
  rw [pooled.ordered] at different
  obtain ⟨succeeds, state⟩ := @fillPool_eq progress item _ _ pooled.ordered different storable
  generalize fillPool progress item progress.tables.literals.unplaced = reached at *
  -- The table is the old front with the waiting literals placed behind it, and nothing waits.
  let front := progress.tables.literals.placed
  let added := placedFrom progress.counter progress.tables.literals.unplaced
  have texts : (front ++ added).map Literal.text =
      progress.tables.literals.entries.map Literal.text := by
    rw [List.map_append, map_text_placedFrom, ← List.map_append, ← pooled.ordered]
  have placed : ∀ literal ∈ front ++ added, literal.location.isSome = true := by
    intro literal mem
    rcases List.mem_append.1 mem with old | new
    · exact LiteralTable.isSome_of_mem_placed old
    · exact isSome_of_mem_placedFrom new
  obtain ⟨all, none⟩ := @LiteralTable.placed_append (front ++ added) [] placed (by simp)
  rw [List.append_nil] at all none
  have own : (progress.tables.literals.unplaced).map Literal.text = reached.state.2.pool := by
    rw [state, empty]
    rfl
  have table : reached.state.1.tables.literals = ⟨front ++ added⟩ := by rw [state]
  have apart : ((front ++ added).map Literal.text).Nodup := texts ▸ pooled.different
  refine ⟨succeeds, ?_, by rw [table, texts], by rw [table, all]⟩
  rw [table]
  refine ⟨?_, apart, by rw [all, none, List.append_nil], ?_, ?_⟩
  · intro literal mem
    have listed := texts ▸ List.mem_map_of_mem mem
    obtain ⟨old, held, same⟩ := List.mem_map.1 listed
    exact same ▸ pooled.storable old held
  · rw [List.flatMap_append, pooled.pools, all, List.map_append, map_text_placedFrom, own]
    simp [front]
  · intro other mem
    rcases List.mem_append.1 mem with old | new
    · exact pooled.laid_of_append added other old
    · rw [List.mem_singleton.1 new, ← own]
      have address : reached.state.2.location = progress.counter := by rw [state, ← located]
      rw [address]
      apply laid_placedFrom
      intro literal held
      exact LiteralTable.entry?_of_mem apart (List.mem_append_right front held)

end Pooled

/-- Obeying an instruction keeps the invariant, whether it succeeds or fails.  It lists no new text,
and it places all literals or none. -/
theorem obeyed_pooled {done : List Item} (pooled : Pooled done progress.tables.literals)
    (empty : item.pool = []) (instruction : Instruction) :
    let reached := (obeyed instruction progress item).state
    Pooled (done ++ [reached.2]) reached.1.tables.literals ∧
      reached.1.tables.literals.entries.map Literal.text =
        progress.tables.literals.entries.map Literal.text ∧
      reached.1.tables.literals.placed.map Literal.text =
        (if instruction.placesLiterals then progress.tables.literals.entries
          else progress.tables.literals.placed).map Literal.text ∧
      ∀ failure, (obeyed instruction progress item).result = .error failure →
        item.statement.Refuses failure := by
  rw [obeyed]
  cases places : instruction.placesLiterals with
  | false =>
    obtain ⟨same, pool⟩ := obey_of_not_places places (progress.past instruction)
      (progress.locate item)
    simp only [Bool.false_eq_true, if_false]
    rw [same]
    refine ⟨pooled.append ?_, rfl, rfl, fun failure => refuses_of_obey places⟩
    intro other single
    rw [List.mem_singleton.1 single, pool]
    exact empty
  | true =>
    have start : Pooled done (progress.past instruction).tables.literals := pooled
    have located : (progress.locate item).location = (progress.past instruction).counter := by
      rw [Progress.past, (Instruction.plain_of_places places).1]
      rfl
    have bare : (progress.locate item).pool = [] := empty
    obtain ⟨succeeds, later, texts, all⟩ := start.filled bare located
    rw [obey_of_places places]
    simp only [if_true]
    refine ⟨later, texts, by rw [all, texts]; rfl, ?_⟩
    intro failure fails
    rw [succeeds] at fails
    cases fails

/-- A step keeps the invariant, whether it succeeds or fails, and it fails for what its statement says.
-/
theorem step_pooled {instruction : Instruction} {done : List Item}
    (pooled : Pooled done progress.tables.literals) (empty : item.pool = [])
    (known : item.instruction = some instruction) (rules : Rules) :
    let reached := (step rules progress item).state
    Pooled (done ++ [reached.2]) reached.1.tables.literals ∧
      reached.1.tables.literals.placed.map Literal.text =
        (if instruction.placesLiterals then progress.tables.literals.entries
          else progress.tables.literals.placed).map Literal.text ∧
      (∀ failure, (step rules progress item).result = .error failure →
        item.statement.Stops failure) ∧
      ((step rules progress item).result = .ok () →
        reached.1.tables.literals.entries.map Literal.text =
          (progress.tables.literals.entries.map Literal.text ++ item.mentions).eraseDups) := by
  obtain ⟨later, texts, placed, refuses⟩ := obeyed_pooled pooled empty instruction
  have statement := (obeyed_kept instruction progress item).2
  rcases step_cases rules known progress with ⟨failure, fails, reached, result⟩ |
    ⟨_, symbols, _, ⟨failure, refused, reached, result⟩ | ⟨_, reached, result⟩⟩
  · rw [reached, result]
    refine ⟨later, placed, fun other same => ?_, fun succeeds => by cases succeeds⟩
    cases same
    exact .inl (refuses failure fails)
  · rw [reached, result]
    refine ⟨later, placed, fun other same => ?_, fun succeeds => by cases succeeds⟩
    cases same
    exact statement ▸ stops_of_bindLabel refused
  · rw [reached, result]
    let bound : Progress :=
      ⟨{ (obeyed instruction progress item).state.1.tables with symbols },
        (obeyed instruction progress item).state.1.counter⟩
    have start : Pooled (done ++ [(obeyed instruction progress item).state.2])
        bound.tables.literals := later
    obtain ⟨new, gathered⟩ := gatherLiterals_spec bound (obeyed instruction progress item).state.2
      (obeyed instruction progress item).state.2.statement.operands start.different
    obtain ⟨kept, front⟩ := start.gathered gathered
    refine ⟨?_, ?_, fun other fails => .inl (statement ▸ refuses_of_gatherLiterals fails), ?_⟩
    · rw [gathered.state] at kept ⊢
      exact kept
    · rw [front]
      exact placed
    · intro succeeds
      have complete := gathered.complete succeeds
      rw [gathered.state, complete, texts, statement]
      rfl

end Layout

end TwoPass
