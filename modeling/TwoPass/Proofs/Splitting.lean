import TwoPass.Proofs.Reading

/-!
# Reading sessions

A session reads lines one by one and goes on behind a line that is refused.  Whether a line is
accepted, and as what item, is a matter of the line alone.  `Split` says how items lie in sections:
the sections hold them in order, none is empty, and an item that opens a section is the first of its
section.  Adding an item keeps that, so it holds after every session.
-/

namespace TwoPass

/-- Whether an item opens a section. -/
def Item.opensSection (item : Item) : Bool := item.instruction.any Instruction.opensSection

/-- Behind its first item a section gets an item added at the end. -/
theorem Section.tail_push (item : Item) {part : Section} (filled : part.items ≠ []) :
    (part.push item).items.tail = part.items.tail ++ [item] :=
  List.tail_append_of_ne_nil filled

/-- Adding an item to a section that is not empty keeps its first item. -/
theorem Section.head_push (item : Item) {part : Section} (filled : part.items ≠ []) :
    (part.push item).items.head? = part.items.head? :=
  List.head?_append_of_ne_nil _ filled

namespace Assembly

/-- A line that is handed to a session, and where it begins, if that is known. -/
structure Call where
  /-- The line. -/
  line : String
  /-- Where the line begins. -/
  location : Option Location := none

/-- Reads the line of a call.  A line that is refused leaves the assembly as it was. -/
def put (directory : Directory) (assembly : Assembly) (call : Call) :
    Outcome Assembly (Option Item) :=
  match assembly.addLine directory call.line call.location with
  | .ok (later, added) => .done later added
  | .error diagnostic => .failed assembly (.ofDiagnostic diagnostic)

/-- The assembly that a row of calls reaches; a call that fails does not end the session. -/
def session (directory : Directory) (assembly : Assembly) : List Call → Assembly
  | [] => assembly
  | call :: rest => session directory (put directory assembly call).state rest

/-- The item of a call whose line holds a valid statement. -/
def accepted? (directory : Directory) (call : Call) : Option Item :=
  if holdsNoStatement call.line then none
  else
    (Statement.parse call.line call.location).toOption.bind fun statement =>
      (statement.resolve (directory.lookup statement.operator)).toOption.map fun instruction =>
        { statement, instruction := some instruction }

/-- How some items lie in the sections of an assembly. -/
structure Split (items : List Item) (assembly : Assembly) : Prop where
  /-- The sections hold the items in their order. -/
  held : assembly.sections.flatMap Section.items = items
  /-- The openings are counted. -/
  openings : assembly.openings = items.countP Item.opensSection
  /-- No section is empty. -/
  filled : ∀ part ∈ assembly.sections, part.items ≠ []
  /-- Behind the first item of a section no item opens one. -/
  inner : ∀ part ∈ assembly.sections, ∀ item ∈ part.items.tail, item.opensSection = false
  /-- Every section but the first begins with an item that opens one. -/
  opened : ∀ part ∈ assembly.sections.tail, part.items.head?.any Item.opensSection = true

/-- An item is added to the last of some sections. -/
theorem pushLast_concat (item : Item) (front : List Section) (last : Section) :
    pushLast item (front ++ [last]) = front ++ [last.push item] := by
  induction front with
  | nil => rfl
  | cons part rest ih =>
    rw [List.cons_append, pushLast, ih, List.cons_append]
    simp

/-- Whether a section has to be opened anew depends on the last one. -/
theorem needsSection_concat (front : List Section) (last : Section) :
    needsSection (front ++ [last]) = !last.items.isEmpty := by
  simp [needsSection]

/-- Behind an item a section has to be opened anew. -/
theorem needsSection_pushLast (item : Item) (sections : List Section) :
    needsSection (pushLast item sections) = true := by
  rcases List.eq_nil_or_concat' sections with rfl | ⟨front, last, rfl⟩
  · rfl
  · rw [pushLast_concat, needsSection_concat]
    simp [Section.push]

/-- Behind sections that are not empty a section has to be opened anew. -/
theorem needsSection_of_filled {sections : List Section}
    (filled : ∀ part ∈ sections, part.items ≠ []) : needsSection sections = true := by
  rcases List.eq_nil_or_concat' sections with rfl | ⟨front, last, rfl⟩
  · rfl
  · rw [needsSection_concat]
    simpa using filled last (by simp)

namespace Split

variable {items : List Item} {assembly : Assembly} {item : Item} {instruction : Instruction}

/-- A fresh assembly holds nothing. -/
theorem empty : Split [] {} := by
  refine ⟨rfl, rfl, ?_, ?_, ?_⟩ <;> simp

/-- An item that opens a section begins a new one. -/
theorem push_opening (split : Split items assembly) (known : item.instruction = some instruction)
    (opens : instruction.opensSection = true) :
    Split (items ++ [item]) (assembly.push item instruction) := by
  have own : item.opensSection = true := by rw [Item.opensSection, known, Option.any_some, opens]
  have pushed : assembly.push item instruction =
      { sections := assembly.sections ++ [({} : Section).push item]
        openings := assembly.openings + 1 } := by
    rw [Assembly.push, if_pos opens]
    simp only [needsSection_of_filled split.filled, if_true, pushLast_concat]
  obtain ⟨held, counted, filled, inner, opened⟩ := split
  rw [pushed]
  refine ⟨?_, ?_, ?_, ?_, ?_⟩
  · simp [held, Section.push]
  · simp [counted, own]
  · rw [List.forall_mem_append, List.forall_mem_singleton]
    exact ⟨filled, by simp [Section.push]⟩
  · rw [List.forall_mem_append, List.forall_mem_singleton]
    exact ⟨inner, by simp [Section.push]⟩
  · -- The new section is behind the first one, unless it is the first one itself.
    cases former : assembly.sections with
    | nil => simp
    | cons first rest =>
      rw [former, List.tail_cons] at opened
      rw [List.cons_append, List.tail_cons, List.forall_mem_append, List.forall_mem_singleton]
      exact ⟨opened, own⟩

/-- An item that opens no section goes into the last one, or into the first one if there is none. -/
theorem push_plain (split : Split items assembly) (known : item.instruction = some instruction)
    (plain : instruction.opensSection = false) :
    Split (items ++ [item]) (assembly.push item instruction) := by
  have own : item.opensSection = false := by rw [Item.opensSection, known, Option.any_some, plain]
  have pushed : assembly.push item instruction =
      { assembly with sections := pushLast item assembly.sections } := by
    rw [Assembly.push, if_neg (by simp [plain])]
  have counted : assembly.openings = (items ++ [item]).countP Item.opensSection := by
    simp [split.openings, own]
  obtain ⟨held, _, filled, inner, opened⟩ := split
  rw [pushed]
  rcases List.eq_nil_or_concat' assembly.sections with former | ⟨front, last, former⟩
  · rw [former, List.flatMap_nil] at held
    rw [former, pushLast]
    refine ⟨?_, counted, ?_, ?_, ?_⟩
    · simp [← held, Section.push]
    · simp [Section.push]
    · simp [Section.push]
    · simp
  · rw [former] at held filled inner opened
    rw [List.forall_mem_append, List.forall_mem_singleton] at filled inner
    rw [former, pushLast_concat]
    refine ⟨?_, counted, ?_, ?_, ?_⟩
    · rw [← held]
      simp [Section.push]
    · rw [List.forall_mem_append, List.forall_mem_singleton]
      exact ⟨filled.1, by simp [Section.push]⟩
    · rw [List.forall_mem_append, List.forall_mem_singleton, Section.tail_push item filled.2,
        List.forall_mem_append, List.forall_mem_singleton]
      exact ⟨inner.1, inner.2, own⟩
    · -- A first section stays the first one; any other one keeps its first item.
      cases front with
      | nil => simp
      | cons first rest =>
        rw [List.cons_append, List.tail_cons, List.forall_mem_append,
          List.forall_mem_singleton] at opened ⊢
        exact ⟨opened.1, by rw [Section.head_push item filled.2]; exact opened.2⟩

/-- Adding an item keeps how the items lie in sections. -/
theorem push (split : Split items assembly) (known : item.instruction = some instruction) :
    Split (items ++ [item]) (assembly.push item instruction) := by
  cases opens : instruction.opensSection with
  | true => exact split.push_opening known opens
  | false => exact split.push_plain known opens

end Split

/-- A call adds the item of its line if the line is accepted; otherwise it answers with no item and
changes nothing. -/
theorem put_cases (directory : Directory) (assembly : Assembly) (call : Call) :
    (∃ item instruction, accepted? directory call = some item ∧
        item.instruction = some instruction ∧
        put directory assembly call = .done (assembly.push item instruction) (some item)) ∨
      accepted? directory call = none ∧ (put directory assembly call).state = assembly ∧
        ∀ item, (put directory assembly call).result ≠ .ok (some item) := by
  unfold put accepted?
  cases blank : holdsNoStatement call.line with
  | true => simp [addLine, blank, Outcome.done]
  | false =>
    cases parsed : Statement.parse call.line call.location with
    | error diagnostic =>
      simp [addLine, blank, parsed, bind, Except.bind, Except.toOption, Outcome.failed]
    | ok statement =>
      rw [addLine_of_parse blank parsed]
      cases valid : statement.resolve (directory.lookup statement.operator) with
      | error diagnostic => simp [Except.map, Except.toOption, valid, Outcome.failed]
      | ok instruction =>
        refine .inl ⟨{ statement, instruction := some instruction }, instruction, ?_, rfl, rfl⟩
        simp [Except.toOption, valid]

/-- A session keeps how the items lie in sections: it adds the items of the accepted lines. -/
theorem Split.session (directory : Directory) {items : List Item} {assembly : Assembly}
    (split : Split items assembly) (calls : List Call) :
    Split (items ++ calls.filterMap (accepted? directory)) (session directory assembly calls) := by
  induction calls generalizing items assembly with
  | nil => simpa [Assembly.session] using split
  | cons call rest ih =>
    rw [Assembly.session]
    rcases put_cases directory assembly call with
      ⟨item, instruction, accepted, known, answer⟩ | ⟨refused, kept, _⟩
    · rw [List.filterMap_cons_some accepted, answer, List.append_cons]
      exact ih (split.push known)
    · rw [List.filterMap_cons_none refused, kept]
      exact ih split

/-- A call answers with an item exactly if its line is accepted as that item. -/
theorem put_eq_ok_iff (directory : Directory) (assembly : Assembly) (call : Call) (item : Item) :
    (put directory assembly call).result = .ok (some item) ↔
      accepted? directory call = some item := by
  rcases put_cases directory assembly call with
    ⟨added, instruction, accepted, _, answer⟩ | ⟨refused, _, other⟩
  · rw [accepted, answer]
    simp [Outcome.done]
  · rw [refused]
    simp [other item]

/-- After every session the sections hold the items of the accepted lines in their order, the
openings are counted, no section is empty, an opening item is the first one of its section, and every
section but the first begins with one.  The next call answers with the item of its line if that is
accepted, and changes nothing if it fails or if its line holds no statement. -/
theorem session_split (directory : Directory) (calls : List Call) :
    let reached := session directory {} calls
    Split (calls.filterMap (accepted? directory)) reached ∧
      ∀ call, (∀ item, (put directory reached call).result = .ok (some item) ↔
          accepted? directory call = some item) ∧
        ((∃ failure, (put directory reached call).result = .error failure) ∨
            holdsNoStatement call.line = true →
          (put directory reached call).state = reached) := by
  intro reached
  refine ⟨Split.empty.session directory calls, ?_⟩
  intro call
  refine ⟨put_eq_ok_iff directory reached call, ?_⟩
  intro idle
  rcases put_cases directory reached call with
    ⟨item, instruction, accepted, _, answer⟩ | ⟨_, kept, _⟩
  · rcases idle with ⟨failure, failed⟩ | blank
    · rw [answer] at failed
      cases failed
    · rw [accepted?, if_pos blank] at accepted
      cases accepted
  · exact kept

/-- A refused line and a comment stand between the statements of a session of three sections. -/
example :
    ((session .builtin {} [⟨"\tRESW\t1", none⟩, ⟨"A\tSTART\t0", none⟩, ⟨"\tNOPE", none⟩,
        ⟨". note", none⟩, ⟨"\tRESB\t2", none⟩, ⟨"B\tCSECT", none⟩]).sections.map
      fun part => part.items.map fun item => item.statement.operator) =
      [["RESW"], ["START", "RESB"], ["CSECT"]] := by
  decide +kernel

end Assembly

end TwoPass
