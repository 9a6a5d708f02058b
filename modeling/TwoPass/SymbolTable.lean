import TwoPass.OrderedMap

/-!
# Symbol tables

A symbol table maps names to values and keeps the names in the order of their first definition.  A
later definition takes the place of an earlier one.
-/

namespace TwoPass

/-- Names with their values, in order of first definition. -/
abbrev SymbolTable := OrderedMap String Int

end TwoPass
