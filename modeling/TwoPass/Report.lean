import TwoPass.Assembly

/-!
# Reports

Three texts for the reader of an assembly: the listing of every item with its address and code, the
symbols with their values, and the literals with their addresses.  Each section ends with a blank
line.
-/

namespace TwoPass

/-- Lines joined into a text, without an end behind the last. -/
def joinLines (lines : List String) : String := "\n".intercalate lines

namespace Item

/-- Whether the listing shows the address of an item. -/
def isListedWithLocation (item : Item) : Bool :=
  match item.instruction.map Instruction.action with
  | some (.directive .extdef) | some (.directive .extref) | some (.directive .ltorg)
  | some (.directive .finish) => false
  | _ => true

/-- The line of an item in the listing: address, label, operator, operands and code. -/
def listingLine (item : Item) : String :=
  let location := if item.isListedWithLocation then Text.Hex.padded 4 item.location else ""
  let columns :=
    [location, item.statement.label.getD "", item.statement.operator,
      ",".intercalate item.statement.operands, item.code.getD ""]
  String.ofList (Text.trimRight ("\t".intercalate columns).toList)

end Item

namespace Section

/-- The line of a pooled literal in the listing. -/
def literalLine (part : Section) (text : String) : Except Failure String :=
  match part.literals.entry? text with
  | none => .error (.unknownLiteral text)
  | some literal => match literal.location, literal.hex with
    | none, _ => .error (.unplacedLiteral text)
    | some _, .error cause => .error (.ofCause cause)
    | some location, .ok bytes =>
      .ok (Text.Hex.padded 4 location ++ "\t*\t=" ++ text ++ "\t\t" ++ String.ofList bytes)

/-- The lines of an item and of the literals placed at it. -/
def itemLines (part : Section) (item : Item) : Except Failure (List String) :=
  (item.pool.mapM part.literalLine).map fun lines => item.listingLine :: lines

/-- The lines of a section in the listing. -/
def listingLines (part : Section) : Except Failure (List String) :=
  (part.items.mapM part.itemLines).map fun lines => lines.flatten ++ [""]

/-- The lines of a section in the symbol report. -/
def symbolLines (part : Section) : List String :=
  (part.symbols.entries.map fun (name, value) => name ++ "\t" ++ Text.Hex.padded 0 value) ++ [""]

/-- The line of a literal in the literal report; one without address has a question mark. -/
def reportLine (literal : Literal) : String :=
  literal.text ++ "\t" ++ match literal.location with
    | some location => Text.Hex.padded 0 location
    | none => "?"

/-- The lines of a section in the literal report. -/
def literalLines (part : Section) : List String := part.literals.entries.map reportLine ++ [""]

end Section

namespace Assembly

/-- The listing of all sections. -/
def listing (assembly : Assembly) : Except Failure String :=
  (assembly.sections.mapM Section.listingLines).map fun lines => joinLines lines.flatten

/-- The symbols of all sections. -/
def symbolReport (assembly : Assembly) : String :=
  joinLines (assembly.sections.flatMap Section.symbolLines)

/-- The literals of all sections. -/
def literalReport (assembly : Assembly) : String :=
  joinLines (assembly.sections.flatMap Section.literalLines)

/-- The symbols and the literals of all sections. -/
def tableReport (assembly : Assembly) : String :=
  assembly.symbolReport ++ "\n" ++ assembly.literalReport

/-- The symbol tables by program name; a later section takes the place of an earlier one of the same
name. -/
def symbolTables (assembly : Assembly) : OrderedMap String SymbolTable :=
  .ofList (assembly.sections.map fun part => (part.header.name, part.symbols))

end Assembly

end TwoPass
