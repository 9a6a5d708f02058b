import TwoPass.Text.Blank
import TwoPass.Text.Upper

/-!
# What upper-casing leaves alone

Some characters are the upper-case form of no other character: among them are the blanks and the
plus sign.  Tables of such characters are caseless.  A caseless character that stands in a text in
upper case stands in the text as it was written, and at the same end of it.
-/

namespace TwoPass.Text

/-- The code point of a character that is made of a code point is that code point, or zero if no
character has it. -/
theorem toNat_ofNat_cases (code : Nat) :
    (Char.ofNat code).toNat = code ∨ (Char.ofNat code).toNat = 0 := by
  by_cases valid : code.isValidChar
  · have own : Char.ofNat code = Char.ofNatAux code valid := dif_pos valid
    exact .inl (by rw [own]; rfl)
  · have other : Char.ofNat code = Char.ofNat 0 := dif_neg valid
    exact .inr (by rw [other]; rfl)

/-- A table is caseless if no rule of upper-casing makes one of its characters out of another
character. -/
structure CodeRanges.Caseless (table : CodeRanges) : Prop where
  /-- The table is without code point zero, which stands in for the invalid ones. -/
  positive : ∀ range ∈ table, 0 < range.1
  /-- The ASCII rule moves no character into the table. -/
  ascii : ∀ code < 0x80, table.holds (Char.ofNat code).toUpper = true →
    (Char.ofNat code).toUpper = Char.ofNat code
  /-- No expansion has a character of the table. -/
  expansions : ∀ entry ∈ upperExpansions, ∀ code ∈ entry.2, table.holds (Char.ofNat code) = false
  /-- No run moves onto a range of the table. -/
  runs : ∀ run ∈ upperRuns, ∀ range ∈ table,
    (run.last : Int) + run.shift < range.1 ∨ (range.2 : Int) < run.first + run.shift

/-- The blanks are caseless. -/
theorem caseless_blanks : CodeRanges.Caseless blanks where
  positive := by decide
  ascii := by decide +kernel
  expansions := by decide +kernel
  runs := by decide +kernel

/-- The plus sign is caseless. -/
theorem caseless_plus : CodeRanges.Caseless [(0x2B, 0x2B)] where
  positive := by decide
  ascii := by decide +kernel
  expansions := by decide +kernel
  runs := by decide +kernel

/-- A caseless character stands only in its own upper-case form. -/
theorem CodeRanges.Caseless.eq_of_mem_upperChar {table : CodeRanges} (caseless : table.Caseless)
    {c d : Char} (mem : d ∈ upperChar c) (held : table.holds d = true) : d = c := by
  rw [upperChar] at mem
  by_cases small : c.toNat < 0x80
  · rw [if_pos small, List.mem_singleton] at mem
    have own : Char.ofNat c.toNat = c := Char.ofNat_toNat c
    have kept := caseless.ascii c.toNat small
    rw [own] at kept
    rw [mem] at held ⊢
    exact kept held
  · rw [if_neg small] at mem
    split at mem
    · -- Several characters: no listed row has one of the table.
      rename_i codes listed
      obtain ⟨code, among, rfl⟩ := List.mem_map.1 mem
      obtain ⟨front, back, whole, _⟩ := List.lookup_eq_some_iff.1 listed
      have outside := caseless.expansions (c.toNat, codes) (by rw [whole]; simp) code among
      rw [outside] at held
      cases held
    · split at mem
      · -- One character: no member of a run moves into the table.
        rename_i run found
        rw [List.mem_singleton] at mem
        obtain ⟨range, among, least, most⟩ := (CodeRanges.holds_iff table d).1 held
        have positive := caseless.positive range among
        have outside := caseless.runs run (List.mem_of_find?_eq_some found) range among
        have inside := List.find?_some found
        rw [CaseRun.holds, Bool.and_eq_true, Bool.and_eq_true, decide_eq_true_eq,
          decide_eq_true_eq] at inside
        have code := toNat_ofNat_cases (c.toNat + run.shift).toNat
        rw [← mem] at code
        omega
      · exact List.mem_singleton.1 mem

/-- The upper-case form of a character that is not blank has no blanks. -/
theorem isBlank_of_mem_upperChar {c d : Char} (mem : d ∈ upperChar c) (plain : isBlank c = false) :
    isBlank d = false := by
  refine Bool.eq_false_iff.2 fun blank => ?_
  rw [caseless_blanks.eq_of_mem_upperChar mem blank, plain] at blank
  cases blank

/-- The upper-case form of a character is not empty. -/
theorem upperChar_ne_nil (c : Char) : upperChar c ≠ [] := by
  rw [upperChar]
  split
  · simp
  · split
    · rename_i codes listed
      have each : ∀ entry ∈ upperExpansions, entry.2 ≠ [] := by decide
      obtain ⟨front, back, whole, _⟩ := List.lookup_eq_some_iff.1 listed
      simpa using each (c.toNat, codes) (by rw [whole]; simp)
    · split <;> simp

/-- The upper-case form of a text is as empty as the text. -/
theorem upper_eq_nil_iff {text : List Char} : upper text = [] ↔ text = [] := by
  cases text with
  | nil => simp [upper]
  | cons c rest => simp [upper, upperChar_ne_nil]

/-- The upper-case form of a text begins with a character of the upper-case form of its first
character. -/
theorem mem_upperChar_of_head?_upper {text : List Char} {d : Char}
    (head : (upper text).head? = some d) : ∃ c, text.head? = some c ∧ d ∈ upperChar c := by
  cases text with
  | nil => cases head
  | cons c rest =>
    obtain ⟨first, further, own⟩ := List.exists_cons_of_ne_nil (upperChar_ne_nil c)
    rw [upper, List.flatMap_cons, own, List.cons_append, List.head?_cons, Option.some.injEq] at head
    exact ⟨c, rfl, by rw [own, head]; exact List.mem_cons_self⟩

/-- The upper-case form of a text ends with a character of the upper-case form of its last
character. -/
theorem mem_upperChar_of_getLast?_upper {text : List Char} {d : Char}
    (last : (upper text).getLast? = some d) : ∃ c, text.getLast? = some c ∧ d ∈ upperChar c := by
  rcases List.eq_nil_or_concat text with rfl | ⟨front, c, rfl⟩
  · cases last
  · rw [List.concat_eq_append] at last ⊢
    have own := List.getLast?_eq_some_getLast (upperChar_ne_nil c)
    rw [upper, List.flatMap_append, List.flatMap_singleton, List.getLast?_append, own,
      Option.some_or, ← own] at last
    exact ⟨c, List.getLast?_concat, List.mem_of_getLast? last⟩

/-- A caseless character that stands in a text in upper case stands in the text. -/
theorem CodeRanges.Caseless.mem_of_mem_upper {table : CodeRanges} (caseless : table.Caseless)
    {text : List Char} {d : Char} (mem : d ∈ upper text) (held : table.holds d = true) :
    d ∈ text := by
  obtain ⟨c, among, own⟩ := List.mem_flatMap.1 mem
  rwa [caseless.eq_of_mem_upperChar own held]

/-- A text begins with a plus sign in upper case only if it does so as it is. -/
theorem head?_of_upper {text rest : List Char} (plus : upper text = '+' :: rest) :
    text.head? = some '+' := by
  obtain ⟨c, head, mem⟩ := mem_upperChar_of_head?_upper (congrArg List.head? plus)
  rw [head, caseless_plus.eq_of_mem_upperChar mem (by decide)]

end TwoPass.Text
