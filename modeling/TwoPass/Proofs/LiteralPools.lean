import Mathlib.Data.List.DropRight
import Mathlib.Data.Nat.Find
import TwoPass.Proofs.Pooling

/-!
# Where each literal is placed

A literal belongs to the first pool behind its first mention and to no other, and it has no address
if there is none.  The table lists the literals in order of first mention, and the pools in source
order are the front of that list.
-/

namespace TwoPass

namespace Layout

/-- The texts that some items mention, in order of first mention. -/
def mentioned (items : List Item) : List String := (items.flatMap Item.mentions).eraseDups

/-- The texts that were mentioned in front of the last item that places literals. -/
def settled (items : List Item) : List String :=
  mentioned (items.rdropWhile fun item => !item.placesLiterals).dropLast

/-- A further item adds the texts that it mentions. -/
theorem mentioned_concat (items : List Item) (item : Item) :
    mentioned (items ++ [item]) = (mentioned items ++ item.mentions).eraseDups := by
  rw [mentioned, mentioned, eraseDups_eraseDups_append, List.flatMap_append]
  simp

/-- A further item that places literals settles all texts in front of it. -/
theorem settled_concat (items : List Item) (item : Item) :
    settled (items ++ [item]) = if item.placesLiterals then mentioned items else settled items := by
  rw [settled, List.rdropWhile_concat]
  cases item.placesLiterals with
  | false => simp [settled]
  | true => simp

/-- Settled texts are listed once. -/
theorem nodup_settled (items : List Item) : (settled items).Nodup := nodup_eraseDups _

/-- What a run of the first pass over fresh items keeps: the literals are pooled, the table lists
every text mentioned so far, and the placed ones are those that are settled. -/
theorem runs_pooled {rules : Rules} {items done : List Item} {final : Progress}
    (run : Outcome.Runs (step rules) ⟨{}, 0⟩ items final done)
    (known : ∀ item ∈ items, item.instruction.isSome = true)
    (empty : ∀ item ∈ items, item.pool = []) :
    Pooled done final.tables.literals ∧
      final.tables.literals.entries.map Literal.text = mentioned items ∧
      final.tables.literals.placed.map Literal.text = settled items := by
  apply run.invariant (motive := fun read written progress =>
    Pooled written progress.tables.literals ∧
      progress.tables.literals.entries.map Literal.text = mentioned read ∧
      progress.tables.literals.placed.map Literal.text = settled read)
  · exact ⟨Pooled.empty, rfl, rfl⟩
  · rintro read written progress item mem ⟨pooled, texts, placed⟩ succeeds
    obtain ⟨instruction, found⟩ := Option.isSome_iff_exists.1 (known item mem)
    obtain ⟨later, settles, _, complete⟩ := step_pooled pooled (empty item mem) found rules
    refine ⟨later, ?_, ?_⟩
    · rw [complete succeeds, texts, mentioned_concat]
    · have same : item.placesLiterals = instruction.placesLiterals := by
        simp [Item.placesLiterals, found]
      rw [settles, settled_concat, same]
      cases instruction.placesLiterals with
      | false => simpa using placed
      | true => simpa using texts

/-- An item mentions a text at an index, and no item in front of it does. -/
def FirstMention (items : List Item) (text : String) (index : Nat) : Prop :=
  (∃ item, items[index]? = some item ∧ text ∈ item.mentions) ∧
    ∀ earlier < index, ∀ item, items[earlier]? = some item → text ∉ item.mentions

/-- The item at an index places literals. -/
def PlacesAt (items : List Item) (index : Nat) : Prop :=
  ∃ item, items[index]? = some item ∧ item.placesLiterals = true

/-- The first index behind another at which literals are placed. -/
def NextPlace (items : List Item) (index next : Nat) : Prop :=
  index < next ∧ PlacesAt items next ∧
    ∀ between, index < between → between < next → ¬ PlacesAt items between

section Mentions

variable {items : List Item} {text : String} {first : Nat}

/-- What is mentioned is mentioned somewhere first. -/
theorem exists_firstMention (listed : text ∈ mentioned items) :
    ∃ index, FirstMention items text index := by
  classical
  have somewhere : ∃ (index : Nat) (item : Item),
      items[index]? = some item ∧ text ∈ item.mentions := by
    rw [mentioned, List.mem_eraseDups] at listed
    obtain ⟨item, mem, inside⟩ := List.mem_flatMap.1 listed
    obtain ⟨index, found⟩ := List.mem_iff_getElem?.1 mem
    exact ⟨index, item, found, inside⟩
  refine ⟨Nat.find somewhere, Nat.find_spec somewhere, ?_⟩
  intro earlier before item found inside
  exact Nat.find_min somewhere before ⟨item, found, inside⟩

/-- The items in front of an index mention a text exactly when its first mention is among them. -/
theorem mem_mentioned_take_iff (mention : FirstMention items text first) (count : Nat) :
    text ∈ mentioned (items.take count) ↔ first < count := by
  obtain ⟨⟨item, found, inside⟩, earliest⟩ := mention
  rw [mentioned, List.mem_eraseDups, List.mem_flatMap]
  constructor
  · rintro ⟨other, mem, again⟩
    obtain ⟨index, at_index⟩ := List.mem_iff_getElem?.1 mem
    rw [List.getElem?_take] at at_index
    split at at_index
    · rename_i small
      by_contra late
      exact earliest index (by omega) other at_index again
    · cases at_index
  · intro small
    refine ⟨item, List.mem_iff_getElem?.2 ⟨first, ?_⟩, inside⟩
    rw [List.getElem?_take, if_pos small, found]

/-- The items in front of an index settle a text exactly when one of them, behind its first mention,
places literals. -/
theorem mem_settled_take_iff (mention : FirstMention items text first) (count : Nat) :
    text ∈ settled (items.take count) ↔
      ∃ index, first < index ∧ index < count ∧ PlacesAt items index := by
  induction count with
  | zero => simp [settled, mentioned]
  | succ count ih =>
    -- An item that places nothing can be left out.
    have skip (absent : ¬ PlacesAt items count) :
        (∃ index, first < index ∧ index < count ∧ PlacesAt items index) ↔
          ∃ index, first < index ∧ index < count + 1 ∧ PlacesAt items index := by
      constructor
      · rintro ⟨index, behind, small, places⟩
        exact ⟨index, behind, by omega, places⟩
      · rintro ⟨index, behind, small, places⟩
        have apart : index ≠ count := fun same => absent (same ▸ places)
        exact ⟨index, behind, by omega, places⟩
    rw [List.take_add_one]
    cases found : items[count]? with
    | none =>
      have absent : ¬ PlacesAt items count := by
        rintro ⟨item, here, _⟩
        rw [found] at here
        cases here
      rw [Option.toList_none, List.append_nil, ih]
      exact skip absent
    | some item =>
      rw [Option.toList_some, settled_concat]
      split
      · rename_i places
        rw [mem_mentioned_take_iff mention]
        constructor
        · intro small
          exact ⟨count, small, by omega, item, found, places⟩
        · rintro ⟨index, behind, small, _⟩
          omega
      · rename_i plain
        have absent : ¬ PlacesAt items count := by
          rintro ⟨other, here, places⟩
          obtain rfl : item = other := Option.some.inj (found.symm.trans here)
          exact plain places
        rw [ih]
        exact skip absent

/-- A text is settled exactly when an item behind its first mention places literals. -/
theorem mem_settled_iff (mention : FirstMention items text first) :
    text ∈ settled items ↔ ∃ index, first < index ∧ PlacesAt items index := by
  have whole := mem_settled_take_iff mention items.length
  rw [List.take_length] at whole
  rw [whole]
  constructor
  · rintro ⟨index, behind, _, places⟩
    exact ⟨index, behind, places⟩
  · rintro ⟨index, behind, item, found, places⟩
    exact ⟨index, behind, (List.getElem?_eq_some_iff.1 found).1, item, found, places⟩

end Mentions

section Runs

variable {rules : Rules} {items done : List Item} {final : Progress}

/-- The pools of the first items hold the texts that those items settle. -/
theorem pools_take (run : Outcome.Runs (step rules) ⟨{}, 0⟩ items final done)
    (known : ∀ item ∈ items, item.instruction.isSome = true)
    (empty : ∀ item ∈ items, item.pool = []) {count : Nat} (inside : count ≤ items.length) :
    (done.take count).flatMap Item.pool = settled (items.take count) := by
  rw [← List.take_append_drop count items] at run
  obtain ⟨middle, before, after, first, _, rfl⟩ := run.of_append
  obtain ⟨pooled, _, placed⟩ := runs_pooled first
    (fun item mem => known item (List.mem_of_mem_take mem))
    (fun item mem => empty item (List.mem_of_mem_take mem))
  have length := first.length_eq
  rw [List.length_take, Nat.min_eq_left inside] at length
  rw [List.take_left' length, pooled.pools, placed]

/-- A literal is in the pool of the first item behind its first mention that places literals, and in
no other. -/
theorem mem_pool_iff (run : Outcome.Runs (step rules) ⟨{}, 0⟩ items final done)
    (known : ∀ item ∈ items, item.instruction.isSome = true)
    (empty : ∀ item ∈ items, item.pool = []) {text : String} {first index : Nat}
    (mention : FirstMention items text first) {item : Item} (found : done[index]? = some item) :
    text ∈ item.pool ↔ NextPlace items first index := by
  have small : index < items.length := by
    rw [← run.length_eq]
    exact (List.getElem?_eq_some_iff.1 found).1
  have before := pools_take run known empty (Nat.le_of_lt small)
  have after := pools_take run known empty (Nat.succ_le_of_lt small)
  rw [List.take_add_one, found, Option.toList_some, List.flatMap_append, before,
    List.flatMap_singleton] at after
  have different := nodup_settled (items.take (index + 1))
  rw [← after] at different
  have new : text ∈ item.pool ↔
      text ∈ settled (items.take (index + 1)) ∧ text ∉ settled (items.take index) := by
    rw [← after, List.mem_append]
    constructor
    · intro pooled
      refine ⟨.inr pooled, fun old => ?_⟩
      exact (List.nodup_append.1 different).2.2 text old text pooled rfl
    · rintro ⟨old | pooled, absent⟩
      · exact absurd old absent
      · exact pooled
  rw [new, mem_settled_take_iff mention, mem_settled_take_iff mention]
  constructor
  · rintro ⟨⟨place, behind, bound, places⟩, absent⟩
    have last : place = index := by
      by_contra apart
      exact absent ⟨place, behind, by omega, places⟩
    subst last
    exact ⟨behind, places, fun between later sooner again =>
      absent ⟨between, later, sooner, again⟩⟩
  · rintro ⟨behind, places, absent⟩
    refine ⟨⟨index, behind, by omega, places⟩, ?_⟩
    rintro ⟨between, later, sooner, again⟩
    exact absent between later sooner again

end Runs

/-- Every text that may be stored has a length. -/
theorem mapM_byteLengthOf {texts : List String} (storable : ∀ text ∈ texts, Form.Storable text) :
    texts.mapM Form.byteLengthOf = .ok (texts.map Form.lengthOf) := by
  apply mapM_eq_ok
  intro text mem
  obtain ⟨bytes, written⟩ := (storable text mem).written
  exact (Form.hexOf_eq_ok written).1

namespace Pooled

variable {done : List Item} {literals : LiteralTable}

/-- Every literal in a pool may be stored. -/
theorem storable_pool (pooled : Pooled done literals) {item : Item} (mem : item ∈ done) :
    ∀ text ∈ item.pool, Form.Storable text := by
  intro text inside
  obtain ⟨literal, placed, same, _⟩ := pooled.entry (List.mem_flatMap.2 ⟨item, mem, inside⟩)
  exact same ▸ pooled.storable literal (List.mem_of_mem_filter placed)

/-- An entry is placed exactly when its text is among those of the placed entries. -/
theorem isSome_iff (pooled : Pooled done literals) {literal : Literal}
    (listed : literal ∈ literals.entries) :
    literal.location.isSome = true ↔ literal.text ∈ literals.placed.map Literal.text := by
  constructor
  · intro located
    exact List.mem_map_of_mem (List.mem_filter.2 ⟨listed, located⟩)
  · intro mem
    obtain ⟨other, placed, same⟩ := List.mem_map.1 mem
    have own := LiteralTable.entry?_of_mem pooled.different listed
    have also := LiteralTable.entry?_of_mem pooled.different (List.mem_of_mem_filter placed)
    rw [same, own] at also
    obtain rfl := Option.some.inj also
    exact LiteralTable.isSome_of_mem_placed placed

/-- A literal in a pool stands behind the bytes of the literals in front of it. -/
theorem location (pooled : Pooled done literals) {item : Item} (mem : item ∈ done)
    {literal : Literal} (listed : literal ∈ literals.entries) {before after : List String}
    (pool : item.pool = before ++ literal.text :: after) :
    ∃ lengths, before.mapM Form.byteLengthOf = .ok lengths ∧
      literal.location = some (item.location + (lengths.sum : Nat)) := by
  have storable := pooled.storable_pool mem
  have laid := pooled.laid item mem
  rw [pool] at storable laid
  refine ⟨_, mapM_byteLengthOf fun text inside => storable text (List.mem_append_left _ inside), ?_⟩
  obtain ⟨found, entry, located⟩ := laid.location
  have own := LiteralTable.entry?_of_mem pooled.different listed
  obtain rfl : found = literal := Option.some.inj (entry.symm.trans own)
  exact located

/-- The bytes of the table are the bytes of the pools, one behind the other. -/
theorem hex_eq (pooled : Pooled done literals) :
    ∃ bytes, (done.flatMap Item.pool).mapM Form.hexOf = .ok bytes ∧
      literals.hex = .ok bytes.flatten := by
  have each : ∀ literal ∈ literals.placed,
      literal.hex = .ok ((literal.hex.toOption).getD []) := by
    intro literal placed
    obtain ⟨bytes, written⟩ := (pooled.storable literal (List.mem_of_mem_filter placed)).written
    have own : literal.hex = .ok bytes := written
    rw [own]
    rfl
  have written := mapM_eq_ok each
  refine ⟨_, ?_, by rw [LiteralTable.hex, written]; rfl⟩
  rw [pooled.pools, List.mapM_map]
  exact written

end Pooled

end Layout

namespace Section

/-- A first pass over a fresh section that fails stops at an item, for what the statement of the item
says; it does not fail to find a literal. -/
theorem laying_stops {directory : Directory} {part : Section} (fresh : part.Fresh directory)
    {rules : Rules} {failure : Failure} (fails : (part.laying rules).result = .error failure) :
    ∃ place item,
      Outcome.StopsAt (fun items => (({ part with items } : Section).laying rules).result)
        part.items place item failure ∧ item.statement.Stops failure := by
  obtain ⟨place, item, reached, done, stopsAt, run, refused⟩ := Outcome.exists_stopsAt fails
  have mem := List.mem_of_getElem? stopsAt.here
  rw [fresh.tables] at run
  obtain ⟨pooled, _, _⟩ := Layout.runs_pooled run
    (fun other front => fresh.known other (List.mem_of_mem_take front))
    (fun other front => (fresh.items other (List.mem_of_mem_take front)).pool_eq)
  obtain ⟨instruction, found⟩ := Option.isSome_iff_exists.1 (fresh.known item mem)
  obtain ⟨_, _, stops, _⟩ :=
    Layout.step_pooled pooled (fresh.items item mem).pool_eq found rules
  exact ⟨place, item, stopsAt, stops failure refused⟩

/-- The literals of a fresh section are pooled, whether the first pass succeeds or fails, and it does
not fail to find a literal. -/
theorem laying_pooled {directory : Directory} {part : Section} (fresh : part.Fresh directory)
    (rules : Rules) :
    Layout.Pooled (part.laying rules).state.2 (part.laying rules).state.1.tables.literals ∧
      ∀ failure, (part.laying rules).result = .error failure → failure.isOfSource = true := by
  have known := fresh.known
  have empty : ∀ item ∈ part.items, item.pool = [] := fun item mem => (fresh.items item mem).pool_eq
  have source (failure : Failure) (fails : (part.laying rules).result = .error failure) :
      failure.isOfSource = true := by
    obtain ⟨_, _, _, stops⟩ := laying_stops fresh fails
    exact stops.isOfSource
  refine ⟨?_, source⟩
  rw [laying, fresh.tables]
  rcases Outcome.sweep_cases (Layout.step rules) ⟨{}, 0⟩ part.items with ⟨_, run⟩ |
    ⟨front, item, back, reached, done, failure, split, run, fails, _, state⟩
  · exact (Layout.runs_pooled run known empty).1
  · rw [split] at known empty
    obtain ⟨pooled, _, _⟩ := Layout.runs_pooled run
      (fun other mem => known other (List.mem_append_left _ mem))
      (fun other mem => empty other (List.mem_append_left _ mem))
    obtain ⟨instruction, found⟩ := Option.isSome_iff_exists.1 (known item (by simp))
    obtain ⟨later, _⟩ := Layout.step_pooled pooled (empty item (by simp)) found rules
    rw [state]
    have rest : Layout.Pooled (_ ++ back) _ :=
      later.append fun other mem => empty other (by simp [mem])
    simpa using rest

/-- Where the literals that some items mention are found after the first pass. -/
structure LiteralsPlaced (items : List Item) (reached : Section) : Prop where
  /-- Every literal that an operand mentions is listed once, in order of first mention. -/
  texts : reached.literals.entries.map Literal.text = (items.flatMap Item.mentions).eraseDups
  /-- A literal has an address exactly when literals are placed behind the item that mentions it
  first.  It is then in the pool of the first such item and in no other, behind the bytes of the
  literals in front of it. -/
  placement : ∀ literal ∈ reached.literals.entries, ∃ first,
    Layout.FirstMention items literal.text first ∧
    (literal.location.isSome = true ↔ ∃ index, first < index ∧ Layout.PlacesAt items index) ∧
    (∀ index item, reached.items[index]? = some item →
      (literal.text ∈ item.pool ↔ Layout.NextPlace items first index)) ∧
    ∀ item ∈ reached.items, ∀ before after, item.pool = before ++ literal.text :: after →
      ∃ lengths, before.mapM Form.byteLengthOf = .ok lengths ∧
        literal.location = some (item.location + (lengths.sum : Nat))
  /-- The pools in source order are the placed literals. -/
  pools : reached.items.flatMap Item.pool = reached.literals.placed.map Literal.text
  /-- The placed literals stand in front. -/
  front : reached.literals.placed <+: reached.literals.entries
  /-- The bytes of the table are those of the pools. -/
  bytes : ∃ bytes, (reached.items.flatMap Item.pool).mapM Form.hexOf = .ok bytes ∧
    reached.literals.hex = .ok bytes.flatten

/-- A first pass over a fresh section that succeeds places the literals.  Whether it succeeds or
fails, every literal in a pool has an address and can be written, and no literal is looked for in
vain. -/
theorem literals_pooled {directory : Directory} {part : Section} (fresh : part.Fresh directory)
    (rules : Rules) :
    let reached := (part.layOut rules).state
    ((part.layOut rules).result = .ok () → LiteralsPlaced part.items reached) ∧
      (∀ item ∈ reached.items, ∀ text ∈ item.pool, ∃ literal bytes,
        reached.literals.entry? text = some literal ∧ literal.location.isSome = true ∧
          literal.hex = .ok bytes) ∧
      ∀ text, (part.layOut rules).result ≠ .error (.unknownLiteral text) := by
  obtain ⟨pooled, source⟩ := laying_pooled fresh rules
  obtain ⟨header, state⟩ := layOut_state rules part
  simp only [state]
  refine ⟨fun succeeds => ?_, ?_, ?_⟩
  · have empty : ∀ item ∈ part.items, item.pool = [] :=
      fun item mem => (fresh.items item mem).pool_eq
    have run := fresh.runs succeeds
    obtain ⟨_, texts, placed⟩ := Layout.runs_pooled run fresh.known empty
    refine ⟨texts, ?_, pooled.pools, ⟨_, pooled.ordered.symm⟩, pooled.hex_eq⟩
    intro literal listed
    have known := List.mem_map_of_mem (f := Literal.text) listed
    rw [texts] at known
    obtain ⟨first, mention⟩ := Layout.exists_firstMention known
    refine ⟨first, mention, ?_, fun index item => Layout.mem_pool_iff run fresh.known empty mention,
      fun item mem before after => pooled.location mem listed⟩
    rw [pooled.isSome_iff listed, placed, Layout.mem_settled_iff mention]
  · intro item mem text inside
    obtain ⟨literal, placed, rfl, entry⟩ := pooled.entry (List.mem_flatMap.2 ⟨item, mem, inside⟩)
    obtain ⟨bytes, written⟩ := (pooled.storable literal (List.mem_of_mem_filter placed)).written
    exact ⟨literal, bytes, entry, LiteralTable.isSome_of_mem_placed placed, written⟩
  · intro text fails
    rw [layOut_result] at fails
    have wrong := source _ fails
    cases wrong

/-- A section with two pools: the first literal is mentioned again behind its pool, one has no bytes,
and the one in the last item is never placed. -/
def twoPools : Section :=
  .ofStatements .builtin
    [.unplaced none "LDA" ["=C'EOF'"], .unplaced none "LDA" ["=X'05'"], .unplaced none "LTORG" [],
      .unplaced none "LDA" ["=C'EOF'"], .unplaced none "LDA" ["=X'F'"],
      .unplaced none "END" ["=X'07'"]]

/-- The literals of both pools are placed, and the last one is not. -/
theorem literals_pooled_twoPools :
    let reached := (twoPools.layOut ⟨.builtin, true⟩).state
    twoPools.Fresh .builtin ∧ (twoPools.layOut ⟨.builtin, true⟩).result = .ok () ∧
      LiteralsPlaced twoPools.items reached ∧
      reached.items.map Item.pool = [[], [], ["C'EOF'", "X'05'"], [], [], ["X'F'"]] ∧
      reached.literals.entries.map Literal.location = [some 6, some 9, some 16, none] := by
  have fresh : twoPools.Fresh .builtin := by decide +kernel
  have succeeds : (twoPools.layOut ⟨.builtin, true⟩).result = .ok () := by decide +kernel
  exact ⟨fresh, succeeds, (literals_pooled fresh ⟨.builtin, true⟩).1 succeeds, by decide +kernel,
    by decide +kernel⟩

end Section

end TwoPass
