import TwoPass.Instruction.Directory
import TwoPass.Operand.Class
import TwoPass.Outcome
import TwoPass.Section

/-!
# Layout

The first pass over a section gives every item its address.  It follows the directives, records the
labels, and collects the literals, which it places at the next item that asks for it.  The location
counter starts at zero and moves on by the size of each item; the length of the section is its last
value.  A failure leaves everything that was laid out before it.
-/

namespace TwoPass

/-- What governs the assembly of a section. -/
structure Rules where
  /-- The instructions that operators may name. -/
  directory : Directory
  /-- Whether a label that is defined twice is refused. -/
  strict : Bool

namespace Layout

/-- The tables and the location counter between two items. -/
structure Progress where
  /-- The tables so far. -/
  tables : Tables
  /-- The location counter. -/
  counter : Nat

/-- The decimal number in the first operand. -/
def operandNumber (instruction : Instruction) (statement : Statement) : Except Failure Nat :=
  match statement.first?.bind Operand.numeral? with
  | some number => number
  | none =>
    .error (statement.failure (.countExpected instruction.mnemonic statement.first?))

/-- The same progress with another header. -/
def Progress.withHeader (progress : Progress) (header : Header) : Progress :=
  { progress with tables := { progress.tables with header } }

/-- Names the section after the label; the main section also gets its start address. -/
def nameSection (directive : Directive) (instruction : Instruction) (progress : Progress)
    (item : Item) : Outcome (Progress × Item) Unit :=
  match item.statement.label with
  | none => .failed (progress, item) (item.statement.failure (.labelMissing directive))
  | some name =>
    let named := { progress.tables.header with name }
    if directive = .start then
      let main := { named with isMain := true }
      match operandNumber instruction item.statement with
      | .ok start => .done (progress.withHeader { main with start }, item) ()
      | .error failure => .failed (progress.withHeader main, item) failure
    else .done (progress.withHeader named, item) ()

/-- Moves the location counter past reserved space. -/
def reserve (width : Nat) (instruction : Instruction) (progress : Progress) (item : Item) :
    Outcome (Progress × Item) Unit :=
  match operandNumber instruction item.statement with
  | .ok number =>
    .done ({ progress with counter := progress.counter + width * number }, item) ()
  | .error failure => .failed (progress, item) failure

/-- The value that an operand gives to a label: the location counter for `*`, a number, or the value
of a symbol or an expression. -/
def equated (symbols : SymbolTable) (counter : Nat) (statement : Statement) :
    Except Failure Int :=
  match statement.first? with
  | none => .error (statement.failure (.invalidEquate none))
  | some operand =>
    if operand = "*" then .ok counter
    else match Operand.numeral? operand with
      | some number => number.map fun value => (value : Int)
      | none =>
        if Operand.isSymbol operand || Operand.isExpression operand then
          Expression.evaluate symbols.find? operand statement.location (some statement.line)
        else .error (statement.failure (.invalidEquate operand))

/-- Gives the item the value of its operand as its address. -/
def equate (progress : Progress) (item : Item) : Outcome (Progress × Item) Unit :=
  match equated progress.tables.symbols progress.counter item.statement with
  | .ok value => .done (progress, { item with location := value }) ()
  | .error failure => .failed (progress, item) failure

/-- Places literals one behind the other, from the location counter on. -/
def fillPool (progress : Progress) (item : Item) :
    List Literal → Outcome (Progress × Item) Unit
  | [] => .done (progress, item) ()
  | literal :: rest =>
    match progress.tables.literals.place? literal.text progress.counter with
    | none => .failed (progress, item) (.unknownLiteral literal.text)
    | some literals =>
      let progress := { progress with tables := { progress.tables with literals } }
      let item := { item with pool := item.pool ++ [literal.text] }
      .remarked (.placed literal.text progress.counter) <|
        match literal.byteLength with
        | .error cause => .failed (progress, item) (.ofCause cause)
        | .ok length =>
          fillPool { progress with counter := progress.counter + length } item rest

/-- The same progress with other shared names. -/
def Progress.withExternals (progress : Progress) (externals : Externals) : Progress :=
  { progress with tables := { progress.tables with externals } }

/-- Does what the instruction of an item asks of the first pass. -/
def obey (instruction : Instruction) (progress : Progress) (item : Item) :
    Outcome (Progress × Item) Unit :=
  match instruction.action with
  | .machine .. | .directive .byte | .directive .word => .done (progress, item) ()
  | .directive .start => nameSection .start instruction progress item
  | .directive .csect => nameSection .csect instruction progress item
  | .directive .extdef =>
    .done (progress.withExternals
      (progress.tables.externals.addExports item.statement.operands), item) ()
  | .directive .extref =>
    .done (progress.withExternals
      (progress.tables.externals.addImports item.statement.operands), item) ()
  | .directive .resw => reserve 3 instruction progress item
  | .directive .resb => reserve 1 instruction progress item
  | .directive .equ => equate progress item
  | .directive .ltorg | .directive .finish =>
    fillPool progress item progress.tables.literals.unplaced

/-- Gives the label of an item its address as value.  Under strict rules a label that has a value is
refused. -/
def bindLabel (strict : Bool) (progress : Progress) (item : Item) :
    Outcome (Progress × Item) Unit :=
  match item.statement.label with
  | none => .done (progress, item) ()
  | some label =>
    let symbols := progress.tables.symbols.put label item.location
    let defined : Outcome (Progress × Item) Unit :=
      .done ({ progress with tables := { progress.tables with symbols } }, item) ()
    match strict, progress.tables.symbols.find? label with
    | true, some first =>
      .failed (progress, item) (item.statement.failure (.duplicateSymbol label first))
    | _, _ => defined

/-- Takes the literals among some operands into the literal table. -/
def gatherLiterals (progress : Progress) (item : Item) :
    List String → Outcome (Progress × Item) Unit
  | [] => .done (progress, item) ()
  | operand :: rest =>
    if Operand.isLiteral operand && (progress.tables.literals.get? operand).isNone then
      match Form.hexOf operand, progress.tables.literals.insert operand none none with
      | .ok _, .ok (literals, _) =>
        gatherLiterals { progress with tables := { progress.tables with literals } } item rest
      | .error cause, _ => .failed (progress, item) (item.statement.failure cause)
      | _, .error cause => .failed (progress, item) (item.statement.failure cause)
    else gatherLiterals progress item rest

/-- Lays out one item: finds its instruction, assigns its address, moves the location counter on,
follows the instruction, defines the label, and collects the literals. -/
def step (rules : Rules) (progress : Progress) (item : Item) : Outcome (Progress × Item) Unit :=
  match item.identify rules.directory.lookup with
  | .error diagnostic => .failed (progress, item) (.ofDiagnostic diagnostic)
  | .ok (item, instruction) =>
    let item := { item with location := progress.counter }
    let progress := { progress with counter := progress.counter + instruction.size }
    ((obey instruction progress item).andThen fun (progress, item) _ =>
      bindLabel rules.strict progress item).andThen fun (progress, item) _ =>
        gatherLiterals progress item item.statement.operands

end Layout

namespace Section

/-- The first pass over a section. -/
def layOut (rules : Rules) (part : Section) : Outcome Section Unit :=
  let swept := Outcome.sweep (Layout.step rules) ⟨part.toTables, 0⟩ part.items
  let reached : Section := { toTables := swept.state.1.tables, items := swept.state.2 }
  match swept.result with
  | .error failure => ⟨reached, swept.log, .error failure⟩
  | .ok () =>
    let length := swept.state.1.counter
    let header := { reached.header with length }
    let remark := .laidOut header.name part.items.length reached.symbols.size length
    ⟨{ reached with header }, swept.log ++ [remark], .ok ()⟩

end Section

end TwoPass
