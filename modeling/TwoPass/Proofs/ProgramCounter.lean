import TwoPass.Proofs.Encoded

/-!
# Addresses relative to the program counter

An instruction of format three reaches a symbol of its section, or a literal, by the distance from
the address behind it.  The distance is cut to twelve bits, so a machine that takes the lowest twelve
bits of the code as a signed number and counts from the program counter finds the target up to a
multiple of 4096, and the target itself if it is near.
-/

namespace TwoPass

namespace Encoding

/-- The twelve lowest bits of an instruction of format three are those of its displacement. -/
theorem bmod_memoryCode (opcode : Int) (flags : Flags) (distance : Int) :
    (memoryCode opcode flags 12 distance).bmod 4096 = distance.bmod 4096 := by
  have span : fieldSpan 12 = 4096 := by decide
  have same : memoryCode opcode flags 12 distance % (4096 : Nat) = distance % (4096 : Nat) := by
    rw [memoryCode, span]
    omega
  rw [Int.bmod, Int.bmod, same]

/-- A number is its twelve lowest bits, taken as a signed number, up to a multiple of 4096. -/
theorem bmod_emod (number : Int) : number.bmod 4096 % 4096 = number % 4096 := by
  rw [Int.bmod]
  split <;> omega

/-- A number in the range of twelve signed bits is kept by them. -/
theorem bmod_of_near {number : Int} (low : -2048 ≤ number) (high : number ≤ 2047) :
    number.bmod 4096 = number := by
  rw [Int.bmod]
  split <;> omega

end Encoding

namespace Item

variable {item : Item}

/-- Whether the code of an item leads to a target: its lowest twelve bits, taken as a signed number
and counted from the address behind the item, give the target up to a multiple of 4096, and the
target itself if that is near. -/
def Reaches (item : Item) (target : Int) : Prop :=
  ∃ code number, item.code = some code ∧ Text.Hex.integer? code.toList = some number ∧
    (number.bmod 4096 + (item.location + 3)) % 4096 = target % 4096 ∧
    (-2048 ≤ target - (item.location + 3) ∧ target - (item.location + 3) ≤ 2047 →
      number.bmod 4096 + (item.location + 3) = target)

/-- The code of a distance from the address behind the item leads over that distance. -/
theorem reaches_of_code {target opcode number : Int} {flags : Flags}
    (code : item.code = some (Text.Hex.padded 6 number))
    (same : number = Encoding.memoryCode opcode flags 12 (target - (item.location + 3))) :
    item.Reaches target := by
  have read : Text.Hex.integer? (Text.Hex.padded 6 number).toList = some number := by
    rw [Text.Hex.padded, String.toList_ofList]
    exact Text.Hex.integer?_paddedChars 6 number
  have low : number.bmod 4096 = (target - (item.location + 3)).bmod 4096 := by
    rw [same]
    exact Encoding.bmod_memoryCode opcode flags _
  refine ⟨_, number, code, read, ?_, ?_⟩
  · have whole := Encoding.bmod_emod (target - (item.location + 3))
    rw [low]
    omega
  · intro near
    rw [low, Encoding.bmod_of_near near.1 near.2]
    omega

end Item

namespace Section

variable {directory : Directory} {part : Section} {rules : Rules}

/-- Where an operand points that is reached relative to the program counter. -/
inductive PointsAt (laid : Section) (operand : String) : Int → Prop
  /-- A symbol, which may be marked as the address of an address, has the value that the first pass
  leaves. -/
  | symbol {target : Int} (relative : Operand.addressing operand ≠ .immediate)
      (named : Operand.isSymbol (Operand.bare operand) = true)
      (placed : laid.symbols.find? (Operand.bare operand) = some target) :
      PointsAt laid operand target
  /-- A literal stands in the pool of an item, behind the literals in front of it. -/
  | literal {host : Item} {before after : List String} {lengths : List Nat}
      (literal : Operand.isLiteral operand = true) (mem : host ∈ laid.items)
      (pool : host.pool = before ++ Form.withoutMark operand :: after)
      (sizes : before.mapM Form.byteLengthOf = .ok lengths) :
      PointsAt laid operand (host.location + (lengths.sum : Nat))

/-- A literal that has an address stands there in the pool of an item. -/
theorem Fresh.pointsAt_literal (fresh : part.Fresh directory) {operand : String} {target : Int}
    (literal : Operand.isLiteral operand = true)
    (placed : ((part.layOut rules).state.literals.get? operand).bind Literal.location =
      some target) : PointsAt (part.layOut rules).state operand target := by
  obtain ⟨header, state⟩ := layOut_state rules part
  obtain ⟨pooled, _⟩ := laying_pooled fresh rules
  rw [state] at placed ⊢
  obtain ⟨entry, found, located⟩ := Option.bind_eq_some_iff.1 placed
  have listed := List.mem_of_find?_eq_some found
  have text : entry.text = Form.withoutMark operand := by
    simpa using List.find?_some found
  have some_address : entry.location.isSome = true := by rw [located]; rfl
  have inside := (pooled.isSome_iff listed).1 some_address
  rw [← pooled.pools] at inside
  obtain ⟨host, mem, own⟩ := List.mem_flatMap.1 inside
  obtain ⟨before, after, pool⟩ := List.append_of_mem own
  obtain ⟨lengths, sizes, address⟩ := pooled.location mem listed pool
  have same : target = host.location + (lengths.sum : Nat) :=
    Option.some.inj (located.symm.trans address)
  rw [text] at pool
  rw [same]
  exact .literal literal mem pool sizes

/-- Whether an operand is reached relative to the program counter: a literal, or a symbol of the
section that is not marked as the datum itself. -/
def IsRelative (laid : Section) (operand : String) : Prop :=
  Operand.isLiteral operand = true ∨
    Operand.addressing operand ≠ .immediate ∧ Operand.isSymbol (Operand.bare operand) = true ∧
      (laid.symbols.find? (Operand.bare operand)).isSome = true

/-- Every instruction of format three on a symbol of its section or a literal counts from the program
counter, and its code leads to that symbol or literal. -/
theorem programCounter_reaches (fresh : part.Fresh directory)
    (succeeds : (part.assemble rules).result = .ok ()) {item : Item}
    (mem : item ∈ (part.assemble rules).state.items) {instruction : Instruction} {opcode : Int}
    (known : item.instruction = some instruction)
    (action : instruction.action = .machine .three opcode) (other : instruction.mnemonic ≠ "RSUB")
    {operand : String} (first : item.statement.first? = some operand)
    (relative : IsRelative (part.layOut rules).state operand) :
    item.flags.p = true ∧
      ∃ target, PointsAt (part.layOut rules).state operand target ∧ item.Reaches target := by
  obtain ⟨needed, encoded⟩ := encoded_assemble fresh.items succeeds item mem
  obtain ⟨flags, written, coded, _, code⟩ := encoded.machineCode known action
  rw [Encoding.machineCode, if_neg other] at coded
  obtain ⟨distance, aims, same⟩ := Encoding.aims_of_memoryInstruction flags first coded
  -- A literal has no mark, so in both cases the operand is not the datum itself.
  have marked : Operand.addressing operand ≠ .immediate := by
    rcases relative with literal | ⟨marked, _⟩
    · rw [Operand.addressing_of_isLiteral literal]
      decide
    · exact marked
  constructor
  · rw [flags, Encoding.ownFlags_of_first first]
    simp [Flags.union, marked]
  · generalize written.modifications = asked at aims
    cases aims with
    | literal literal placed =>
      exact ⟨_, fresh.pointsAt_literal literal placed, Item.reaches_of_code code.1 same⟩
    | symbol named placed => exact ⟨_, .symbol marked named placed, Item.reaches_of_code code.1 same⟩
    | imported named unplaced listed =>
      rcases relative with literal | ⟨_, _, placed⟩
      · rw [Operand.bare_of_simple (Operand.addressing_of_isLiteral literal)] at named
        rw [Operand.isLiteral_of_isSymbol named] at literal
        cases literal
      · rw [unplaced] at placed
        cases placed
    | number plain unnamed spelled =>
      rcases relative with literal | ⟨_, named, _⟩
      · rw [plain] at literal
        cases literal
      · rw [unnamed] at named
        cases named

/-- A section with a jump as far back as the program counter can count. -/
def farthestBack : Section :=
  .ofStatements .builtin [.unplaced (some "A") "RESB" ["2045"], .unplaced none "J" ["@A"]]

/-- The jump at 2045 in the section. -/
def farthestJump : Item :=
  { statement := .unplaced none "J" ["@A"]
    instruction := some (.machine "J" .three 0x3C 1)
    location := 2045
    flags := { n := true, p := true }
    code := some "3E2800"
    byteSize := 3 }

/-- The jump leads to the beginning of the section. -/
theorem programCounter_reaches_farthestBack :
    let laid := (farthestBack.layOut ⟨.builtin, true⟩).state
    farthestBack.Fresh .builtin ∧ (farthestBack.assemble ⟨.builtin, true⟩).result = .ok () ∧
      farthestJump ∈ (farthestBack.assemble ⟨.builtin, true⟩).state.items ∧
      laid.symbols.find? "A" = some 0 ∧ farthestJump.flags.p = true ∧
      ∃ target, PointsAt laid "@A" target ∧ farthestJump.Reaches target := by
  have fresh : farthestBack.Fresh .builtin := by decide +kernel
  have succeeds : (farthestBack.assemble ⟨.builtin, true⟩).result = .ok () := by decide +kernel
  have mem : farthestJump ∈ (farthestBack.assemble ⟨.builtin, true⟩).state.items := by
    decide +kernel
  have relative : IsRelative (farthestBack.layOut ⟨.builtin, true⟩).state "@A" :=
    .inr (by decide +kernel)
  exact ⟨fresh, succeeds, mem, by decide +kernel,
    programCounter_reaches fresh succeeds mem rfl rfl (by decide) rfl relative⟩

end Section

end TwoPass
