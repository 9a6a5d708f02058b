import TwoPass.Record.Text
import TwoPass.Section

/-!
# Object programs

The object program of a section is a header record, records for the exported and the imported names,
text records, modification records, and an end record, which in the main section names the address
where execution begins.  A blank line ends the section.
-/

namespace TwoPass.Section

/-- The header record: the name cut and filled to six characters, the start address, the length. -/
def headerRecord (part : Section) : String :=
  "H" ++ padRight Externals.nameWidth
      (String.ofList (part.header.name.toList.take Externals.nameWidth)) ++
    Text.Hex.padded 6 part.header.start ++ Text.Hex.padded 6 part.header.length ++ "\n"

/-- The end record and the blank line behind it. -/
def endRecord (part : Section) : String :=
  if part.header.isMain then "E" ++ Text.Hex.padded 6 part.header.start ++ "\n\n" else "E\n\n"

/-- Packs one literal of a pool. -/
def packLiteral (limit : RecordLimit) (literals : LiteralTable) (packer : Packer)
    (text : String) : Except Failure Packer :=
  match literals.entry? text with
  | none => .error (.unknownLiteral text)
  | some literal => match literal.hex with
    | .error cause => .error (.ofCause cause)
    | .ok bytes => match literal.location with
      | some location => .ok (packer.add limit location bytes)
      | none => if bytes.isEmpty then .ok packer else .error (.unplacedLiteral text)

/-- Packs a pool of literals. -/
def packPool (limit : RecordLimit) (literals : LiteralTable) (packer : Packer) :
    List String → Except Failure Packer
  | [] => .ok packer
  | text :: rest => match packLiteral limit literals packer text with
    | .error failure => .error failure
    | .ok packer => packPool limit literals packer rest

/-- Packs one item.  Reserved space closes the open record, and a machine instruction without code
is a failure. -/
def packItem (limit : RecordLimit) (literals : LiteralTable) (packer : Packer) (item : Item) :
    Except Failure Packer :=
  if item.code.getD "" ≠ "" then
    .ok (packer.add limit item.location (item.code.getD "").toList)
  else match item.instruction.map Instruction.action with
    | none | some (.machine ..) =>
      .error (item.statement.failure (.codeMissing item.statement.operator))
    | some (.directive directive) => match directive with
      | .resb | .resw => .ok packer.flush
      | .ltorg | .finish => packPool limit literals packer item.pool
      | _ => .ok packer

/-- Packs a row of items. -/
def packItems (limit : RecordLimit) (literals : LiteralTable) (packer : Packer) :
    List Item → Except Failure Packer
  | [] => .ok packer
  | item :: rest => match packItem limit literals packer item with
    | .error failure => .error failure
    | .ok packer => packItems limit literals packer rest

/-- The text records of a section. -/
def textRecords (part : Section) (limit : Int) : Except Failure (List TextRecord) :=
  match RecordLimit.ofInt limit with
  | .error failure => .error failure
  | .ok limit => (packItems limit part.literals {} part.items).map Packer.records

/-- The object program of a section; a limit of zero stands for the standard one. -/
def objectProgram (part : Section) (limit : Int) : Except Failure String := do
  let exports ← part.externals.exportRecords part.symbols
  let texts ← part.textRecords (if limit = 0 then RecordLimit.standard else limit)
  return part.headerRecord ++ exports ++ part.externals.importRecords ++
    String.join (texts.map TextRecord.render) ++ Modification.records part.modifications ++
    part.endRecord

end TwoPass.Section
