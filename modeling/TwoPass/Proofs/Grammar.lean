import TwoPass.Proofs.Form
import TwoPass.Proofs.Terms

/-!
# The grammar of expressions

An expression ought to be a row of terms with one operator between two neighbours.  What is accepted
as one is wider: operators may also stand in front of the first term and behind the last, and there
may be several between two neighbours.  The main statement, `Expression.isExpression_iff`, describes
the accepted texts and what they are split into: of a run of operators the last one counts, and a run
behind the last term counts for nothing.  The texts of the narrow grammar are those that are put
together again from what they are split into, and whose first term has no operator.
-/

namespace TwoPass

/-- A term and the operator in front of it, as they are written. -/
def Term.text (term : Term) : String := term.operator.elim "" Operator.text ++ term.name

namespace Expression

/-- A term by itself: a symbol or a number. -/
structure Atom where
  /-- The spelling of the term. -/
  name : String
  /-- It is a symbol or a number. -/
  shape : Operand.isSymbol name = true ∨ Operand.isNumber name = true

/-- A numeral of nines, at least one. -/
def nines (count : Nat) : Atom where
  name := String.ofList (List.replicate (count + 1) '9')
  shape := .inr (Operand.isNumber_replicate (by decide) count)

/-- Nines are a number. -/
theorem isNumber_nines (count : Nat) : Operand.isNumber (nines count).name = true :=
  Operand.isNumber_replicate (by decide) count

/-- Nines of more digits than are read are too long. -/
theorem isTooLong_nines {count : Nat} (long : Text.digitLimit ≤ count) :
    Term.isTooLong ⟨none, (nines count).name⟩ = true :=
  Term.isTooLong_replicate (by decide) long none

/-- A row of terms with one operator between two neighbours. -/
structure Row where
  /-- The first term. -/
  first : Atom
  /-- The other terms, each with the operator in front of it. -/
  rest : List (Operator × Atom)

namespace Row

/-- The spelling of a row. -/
def text (row : Row) : String :=
  row.first.name ++ String.join (row.rest.map fun link => link.1.text ++ link.2.name)

/-- The terms of a row, the first without an operator. -/
def terms (row : Row) : List Term :=
  ⟨none, row.first.name⟩ :: row.rest.map fun link => ⟨some link.1, link.2.name⟩

end Row

/-- A further term of a wider row: operators that count for nothing, the one that counts, and the
term. -/
structure Link where
  /-- The operators that count for nothing. -/
  idle : List Operator
  /-- The operator that counts. -/
  operator : Operator
  /-- The term. -/
  atom : Atom

/-- A row of terms with at least one operator between two neighbours, and with any number of them in
front and behind. -/
structure WideRow where
  /-- The operators in front, of which the last one counts. -/
  before : List Operator
  /-- The first term. -/
  first : Atom
  /-- The other terms. -/
  links : List Link
  /-- The operators behind, which count for nothing. -/
  after : List Operator

/-- The characters of a run of operators. -/
def written (operators : List Operator) : List Char := operators.map Operator.toChar

/-- The characters of a further term and of its operators. -/
def Link.spelled (link : Link) : List Char :=
  written link.idle ++ link.operator.toChar :: link.atom.name.toList

namespace WideRow

/-- The spelling of a row. -/
def text (row : WideRow) : String :=
  String.ofList (written row.before ++ (row.first.name.toList ++
    (row.links.flatMap Link.spelled ++ written row.after)))

/-- The terms of a row, each with the operator that counts. -/
def terms (row : WideRow) : List Term :=
  ⟨row.before.getLast?, row.first.name⟩ ::
    row.links.map fun link => ⟨some link.operator, link.atom.name⟩

end WideRow

/-- Every row is a wider one without further operators. -/
def Row.widen (row : Row) : WideRow :=
  ⟨[], row.first, row.rest.map fun link => ⟨[], link.1, link.2⟩, []⟩

/-- A row and the wider one are spelled alike. -/
theorem Row.text_widen (row : Row) : row.widen.text = row.text := by
  rw [← String.toList_inj]
  simp [WideRow.text, Row.widen, Row.text, written, Link.spelled, Operator.text, List.flatMap_map]

/-- A row and the wider one have the same terms. -/
theorem Row.terms_widen (row : Row) : row.widen.terms = row.terms := by
  simp [WideRow.terms, Row.widen, Row.terms]

/-- The spelling of a term is a run of characters that are no operators. -/
theorem Atom.plain (atom : Atom) :
    atom.name.toList ≠ [] ∧ ∀ c ∈ atom.name.toList, Operator.ofChar? c = none := by
  rcases atom.shape with symbol | number
  · exact plain_of_isSymbol symbol
  · exact plain_of_isNumber number

section Split

/-- Operators in front are pieces of their own. -/
theorem pieces_written (operators : List Operator) (back : List Char) :
    pieces (written operators ++ back) = operators.map .operator ++ pieces back := by
  induction operators with
  | nil => rfl
  | cons operator rest ih =>
    rw [written, List.map_cons, List.cons_append, pieces, Operator.ofChar?_eq_some_iff.2 rfl]
    exact congrArg _ ih

/-- Of operators in front of some pieces the last one counts. -/
theorem termsFrom_operators (pending : Option Operator) (operators : List Operator)
    (row : List Piece) :
    termsFrom pending (operators.map .operator ++ row) =
      termsFrom (operators.getLast?.or pending) row := by
  induction operators generalizing pending with
  | nil => rfl
  | cons operator rest ih =>
    rw [List.map_cons, List.cons_append, termsFrom, ih, List.getLast?_cons]
    cases rest.getLast? <;> rfl

/-- Behind a term come operators, if anything, and the further terms with the operators that count.
-/
theorem pieces_links (links : List Link) (after : List Operator) :
    (∀ characters rest,
        pieces (links.flatMap Link.spelled ++ written after) ≠ .term characters :: rest) ∧
      termsFrom none (pieces (links.flatMap Link.spelled ++ written after)) =
        links.map fun link => ⟨some link.operator, link.atom.name⟩ := by
  induction links with
  | nil =>
    have own := pieces_written after []
    rw [List.append_nil, pieces, List.append_nil] at own
    rw [List.flatMap_nil, List.nil_append, own]
    constructor
    · intro characters rest
      cases after <;> simp
    · have none := termsFrom_operators none after []
      rw [List.append_nil] at none
      rw [none, termsFrom, List.map_nil]
  | cons link rest ih =>
    obtain ⟨apart, terms⟩ := ih
    have spelled : (link :: rest).flatMap Link.spelled ++ written after =
        written (link.idle ++ [link.operator]) ++ (link.atom.name.toList ++
          (rest.flatMap Link.spelled ++ written after)) := by
      simp [Link.spelled, written]
    have begins := pieces_append link.atom.plain.1 link.atom.plain.2 apart
    rw [spelled, pieces_written, begins]
    constructor
    · intro characters others
      cases link.idle <;> simp
    · rw [termsFrom_operators, List.getLast?_concat, Option.some_or, termsFrom, terms,
        String.ofList_toList, List.map_cons]

/-- A row is split into its terms, each with the operator that counts. -/
theorem WideRow.split_text (row : WideRow) : split row.text = row.terms := by
  obtain ⟨apart, terms⟩ := pieces_links row.links row.after
  rw [split, WideRow.text, String.toList_ofList, pieces_written,
    pieces_append row.first.plain.1 row.first.plain.2 apart, termsFrom_operators, Option.or_none,
    termsFrom, terms, String.ofList_toList, WideRow.terms]

/-- A row is split into its terms. -/
theorem Row.split_text (row : Row) : split row.text = row.terms := by
  rw [← Row.text_widen, WideRow.split_text, Row.terms_widen]

end Split

section Recognize

/-- The characters of a piece. -/
def Piece.spelled : Piece → List Char
  | .operator sign => [sign.toChar]
  | .term characters => characters

/-- The pieces of a text make up the text. -/
theorem flatMap_pieces (text : List Char) : (pieces text).flatMap Piece.spelled = text := by
  induction text with
  | nil => rfl
  | cons c rest ih =>
    rw [pieces]
    split
    · rename_i operator own
      rw [List.flatMap_cons, ih, Operator.ofChar?_eq_some_iff.1 own]
      rfl
    · -- The character lengthens a run that begins the rest, or is a run by itself.
      conv_rhs => rw [← ih]
      cases pieces rest with
      | nil => rfl
      | cons first others => cases first <;> rfl

variable {row : List Piece}

/-- What stands behind a term, or behind some operators, is a row of links and operators, if all its
terms are symbols and numbers. -/
theorem exists_links
    (chain : row.IsChain fun left right => left.isOperator = true ∨ right.isOperator = true)
    {waiting : List Operator}
    (apart : waiting ≠ [] ∨ ∀ piece ∈ row.head?, piece.isOperator = true)
    (atoms : ∀ term ∈ termsFrom waiting.getLast? row,
      Operand.isSymbol term.name = true ∨ Operand.isNumber term.name = true) :
    ∃ (links : List Link) (after : List Operator), written waiting ++ row.flatMap Piece.spelled =
      links.flatMap Link.spelled ++ written after := by
  induction row generalizing waiting with
  | nil => exact ⟨[], waiting, by simp⟩
  | cons piece rest ih =>
    have later := List.isChain_cons.1 chain
    cases piece with
    | operator operator =>
      -- The operator waits behind the others.
      have counts : (waiting ++ [operator]).getLast? = some operator := List.getLast?_concat
      obtain ⟨links, after, spelled⟩ := @ih later.2 (waiting ++ [operator])
        (.inl (by simp)) (by rw [counts]; exact atoms)
      exact ⟨links, after, by rw [← spelled]; simp [written, Piece.spelled]⟩
    | term characters =>
      -- The last of the operators that wait counts for the term.
      have behind : waiting ≠ [] := apart.resolve_right fun all =>
        absurd (all (.term characters) rfl) (by simp [Piece.isOperator])
      obtain ⟨idle, operator, rfl⟩ := (List.eq_nil_or_concat waiting).resolve_left behind
      rw [termsFrom, List.forall_mem_cons] at atoms
      obtain ⟨links, after, spelled⟩ := @ih later.2 []
        (.inr fun next found => (later.1 next found).resolve_left (by simp [Piece.isOperator]))
        atoms.2
      have tail : rest.flatMap Piece.spelled = links.flatMap Link.spelled ++ written after := spelled
      refine ⟨⟨idle, operator, ⟨String.ofList characters, atoms.1⟩⟩ :: links, after, ?_⟩
      simp [written, Piece.spelled, Link.spelled, tail]

/-- Pieces with at least one term, all of them symbols and numbers, are a row. -/
theorem exists_wideRow
    (chain : row.IsChain fun left right => left.isOperator = true ∨ right.isOperator = true)
    {waiting : List Operator} (filled : termsFrom waiting.getLast? row ≠ [])
    (atoms : ∀ term ∈ termsFrom waiting.getLast? row,
      Operand.isSymbol term.name = true ∨ Operand.isNumber term.name = true) :
    ∃ wide : WideRow, wide.text = String.ofList (written waiting ++ row.flatMap Piece.spelled) := by
  induction row generalizing waiting with
  | nil => exact absurd rfl filled
  | cons piece rest ih =>
    have later := List.isChain_cons.1 chain
    cases piece with
    | operator operator =>
      have counts : (waiting ++ [operator]).getLast? = some operator := List.getLast?_concat
      obtain ⟨wide, spelled⟩ := @ih later.2 (waiting ++ [operator])
        (by rw [counts]; exact filled) (by rw [counts]; exact atoms)
      exact ⟨wide, by rw [spelled]; simp [written, Piece.spelled]⟩
    | term characters =>
      rw [termsFrom, List.forall_mem_cons] at atoms
      have apart : ([] : List Operator) ≠ [] ∨ ∀ piece ∈ rest.head?, piece.isOperator = true :=
        .inr fun next found => (later.1 next found).resolve_left (by simp [Piece.isOperator])
      obtain ⟨links, after, spelled⟩ := exists_links later.2 apart atoms.2
      have tail : rest.flatMap Piece.spelled = links.flatMap Link.spelled ++ written after := spelled
      refine ⟨⟨waiting, ⟨String.ofList characters, atoms.1⟩, links, after⟩, ?_⟩
      simp [WideRow.text, written, Piece.spelled, tail]

/-- A data form has a quote in it. -/
theorem quote_mem_of_parse? {text : List Char} (spelled : (Form.parse? text).isSome = true) :
    '\'' ∈ text := by
  rw [Form.parse?.eq_def] at spelled
  split at spelled
  · exact List.mem_cons_of_mem _ List.mem_cons_self
  · cases spelled

/-- Whether a character may stand in an expression: an operator, or a character of a symbol or of a
number. -/
def admits (c : Char) : Bool :=
  (Operator.ofChar? c).isSome || Operand.continuesSymbol c || (Text.decimalDigit? c).isSome

/-- The characters of a term may stand in an expression. -/
theorem Atom.admits_of_mem (atom : Atom) : ∀ c ∈ atom.name.toList, admits c = true := by
  intro c mem
  rw [admits, Bool.or_eq_true, Bool.or_eq_true]
  rcases atom.shape with symbol | number
  · exact .inl (.inr ((continuesSymbol_of_isSymbol symbol).2 c mem))
  · exact .inr ((Text.isSome_decimal?_iff.1 number).2 c mem)

/-- The characters of a row may stand in an expression. -/
theorem WideRow.admits_of_mem (row : WideRow) : ∀ c ∈ row.text.toList, admits c = true := by
  have operators (run : List Operator) : ∀ c ∈ written run, admits c = true := by
    intro c mem
    obtain ⟨operator, _, rfl⟩ := List.mem_map.1 mem
    cases operator <;> decide
  have links : ∀ link ∈ row.links, ∀ c ∈ link.spelled, admits c = true := by
    intro link _ c mem
    rw [Link.spelled, List.mem_append, List.mem_cons] at mem
    rcases mem with idle | own | inside
    · exact operators _ c idle
    · exact operators [link.operator] c (List.mem_singleton.2 own)
    · exact link.atom.admits_of_mem c inside
  intro c mem
  rw [WideRow.text, String.toList_ofList, List.mem_append, List.mem_append, List.mem_append,
    List.mem_flatMap] at mem
  rcases mem with before | first | ⟨link, listed, inside⟩ | after
  · exact operators _ c before
  · exact row.first.admits_of_mem c first
  · exact links link listed c inside
  · exact operators _ c after

/-- A row has no quote in it. -/
theorem WideRow.quote_not_mem (row : WideRow) : '\'' ∉ row.text.toList :=
  fun quote => absurd (row.admits_of_mem _ quote) (by decide)

/-- Every term of a row is a symbol or a number. -/
theorem WideRow.shape_of_mem_terms (row : WideRow) :
    ∀ term ∈ row.terms, Operand.isSymbol term.name = true ∨ Operand.isNumber term.name = true := by
  rw [WideRow.terms, List.forall_mem_cons, List.forall_mem_map]
  exact ⟨row.first.shape, fun link _ => link.atom.shape⟩

/-- A row of at least two terms is accepted as an expression. -/
theorem WideRow.isExpression_text (row : WideRow) (several : row.links ≠ []) :
    Operand.isExpression row.text = true := by
  have star : row.text ≠ "*" := by
    intro same
    have terms := row.split_text
    rw [same] at terms
    cases terms
  have form : Operand.isForm row.text = false := by
    rw [← Bool.not_eq_true]
    exact fun spelled => row.quote_not_mem (quote_mem_of_parse? spelled)
  have literal : Operand.isLiteral row.text = false := by
    rw [← Bool.not_eq_true]
    intro spelled
    obtain ⟨behind, marked, own⟩ := Form.isLiteral_eq_true spelled
    apply row.quote_not_mem
    rw [marked]
    exact List.mem_cons_of_mem _ (quote_mem_of_parse? own)
  have count : 1 < row.terms.length := by
    have some := List.length_pos_iff.2 several
    rw [WideRow.terms, List.length_cons, List.length_map]
    omega
  have shapes := row.shape_of_mem_terms
  simpa [Operand.isExpression, star, form, literal, row.split_text, count] using shapes

/-- So is a row with exactly one operator between two neighbours. -/
theorem Row.isExpression_text (row : Row) (several : row.rest ≠ []) :
    Operand.isExpression row.text = true := by
  rw [← row.text_widen]
  exact row.widen.isExpression_text (by simpa [Row.widen] using several)

/-- Every text that is accepted as an expression is a row of at least two terms. -/
theorem exists_wideRow_of_isExpression {text : String}
    (accepted : Operand.isExpression text = true) :
    ∃ row : WideRow, row.links ≠ [] ∧ row.text = text := by
  obtain ⟨_, count, atoms⟩ := terms_of_isExpression accepted
  have filled : split text ≠ [] := by
    rw [← List.length_pos_iff]
    omega
  obtain ⟨row, spelled⟩ := @exists_wideRow _ (isChain_pieces text.toList) [] filled atoms
  have same : row.text = text := by
    rw [spelled, flatMap_pieces]
    exact String.ofList_toList
  refine ⟨row, fun single => ?_, same⟩
  rw [← same, row.split_text, WideRow.terms, single] at count
  exact absurd count (by simp)

end Recognize

section Narrow

/-- A row is put together from its terms. -/
theorem Row.join_terms (row : Row) : String.join (row.terms.map Term.text) = row.text := by
  rw [← String.toList_inj]
  simp [Row.terms, Row.text, Term.text, Function.comp_def]

/-- Terms that are symbols and numbers make up a row, if the first of them has no operator and every
other has one. -/
theorem exists_row {first : Term} {others : List Term} (begins : first.operator = none)
    (joined : ∀ term ∈ others, term.operator.isSome = true)
    (atoms : ∀ term ∈ first :: others,
      Operand.isSymbol term.name = true ∨ Operand.isNumber term.name = true) :
    ∃ row : Row, row.terms = first :: others := by
  rw [List.forall_mem_cons] at atoms
  have links : ∃ rest : List (Operator × Atom),
      rest.map (fun link => (⟨some link.1, link.2.name⟩ : Term)) = others := by
    induction others with
    | nil => exact ⟨[], rfl⟩
    | cons term further ih =>
      rw [List.forall_mem_cons] at joined
      obtain ⟨own, rest⟩ := atoms
      rw [List.forall_mem_cons] at rest
      obtain ⟨operator, found⟩ := Option.isSome_iff_exists.1 joined.1
      obtain ⟨links, same⟩ := ih joined.2 ⟨own, rest.2⟩
      refine ⟨(operator, ⟨term.name, rest.1⟩) :: links, ?_⟩
      rw [List.map_cons, same, ← found]
  obtain ⟨rest, same⟩ := links
  refine ⟨⟨⟨first.name, atoms.1⟩, rest⟩, ?_⟩
  rw [Row.terms, same, ← begins]

/-- An accepted text that is put together from its terms, and whose first term has no operator, is a
row of at least two terms. -/
theorem exists_row_of_isExpression {text : String} (accepted : Operand.isExpression text = true)
    (kept : String.join ((split text).map Term.text) = text)
    (begins : ∀ term ∈ (split text).head?, term.operator = none) :
    ∃ row : Row, row.rest ≠ [] ∧ row.text = text := by
  obtain ⟨_, count, atoms⟩ := terms_of_isExpression accepted
  have signed := operator_of_mem_tail_termsFrom (isChain_pieces text.toList) none
  rw [← split] at signed
  cases terms : split text with
  | nil => simp [terms] at count
  | cons first others =>
    rw [terms] at count atoms signed begins kept
    rw [List.tail_cons] at signed
    obtain ⟨row, same⟩ := exists_row (begins first rfl) signed atoms
    refine ⟨row, fun single => ?_, ?_⟩
    · rw [← same, Row.terms, single] at count
      exact absurd count (by simp)
    · rw [← row.join_terms, same, kept]

end Narrow

/-- The texts that are accepted as expressions are the rows of two or more terms with at least one
operator between two neighbours and any number of them in front and behind.  Each is split into its
terms with the last of the operators in front of each.  A text is a row with exactly one operator
between two neighbours and none elsewhere exactly if it is accepted, it is put together again from its
terms, so that no operator was ignored, and the first of them has no operator. -/
theorem isExpression_iff (text : String) :
    (Operand.isExpression text = true ↔
        ∃ row : WideRow, row.links ≠ [] ∧ row.text = text ∧ split text = row.terms) ∧
      ((∃ row : Row, row.rest ≠ [] ∧ row.text = text) ↔
        Operand.isExpression text = true ∧ String.join ((split text).map Term.text) = text ∧
          ∀ term ∈ (split text).head?, term.operator = none) := by
  refine ⟨⟨fun accepted => ?_, ?_⟩, ?_, ?_⟩
  · obtain ⟨row, several, rfl⟩ := exists_wideRow_of_isExpression accepted
    exact ⟨row, several, rfl, row.split_text⟩
  · rintro ⟨row, several, rfl, _⟩
    exact row.isExpression_text several
  · rintro ⟨row, several, rfl⟩
    rw [row.split_text]
    exact ⟨row.isExpression_text several, row.join_terms, by simp [Row.terms]⟩
  · rintro ⟨accepted, kept, begins⟩
    exact exists_row_of_isExpression accepted kept begins

/-- A text with two operators between its terms is accepted, and the first of them is ignored. -/
theorem isExpression_ignoring :
    Operand.isExpression "A--B" = true ∧ split "A--B" = split "A-B" ∧
      ¬ ∃ row : Row, row.rest ≠ [] ∧ row.text = "A--B" := by
  refine ⟨by decide +kernel, by decide +kernel, ?_⟩
  rintro ⟨row, _, spelled⟩
  have kept := row.join_terms
  rw [← row.split_text, spelled] at kept
  exact absurd kept (by decide +kernel)

end Expression

end TwoPass
