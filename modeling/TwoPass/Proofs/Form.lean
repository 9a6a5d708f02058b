import Mathlib.Data.List.Basic
import TwoPass.Operand.Class
import TwoPass.Proofs.Hex

/-!
# Bytes of data forms

The number of bytes that a data form stands for is known before its bytes are written.  The main
statement, `Form.hexOf_eq_ok`, says that the two agree: a form whose bytes can be written has a
length, and its bytes are that many pairs of upper-case digits.  A literal operand and the text
behind its mark stand for the same bytes.
-/

namespace TwoPass.Form

/-- The number of bytes of the form that a text spells; a text that spells none has no bytes. -/
def lengthOf (text : String) : Nat :=
  match byteLengthOf text with
  | .ok length => length
  | .error _ => 0

/-- A text that a literal table may hold: a data form without a mark, whose bytes can be written. -/
structure Storable (text : String) : Prop where
  /-- The text spells a form. -/
  spelled : (parse? text.toList).isSome = true
  /-- The form has bytes. -/
  written : ∃ bytes, hexOf text = .ok bytes

/-- A data form begins with the letter of its kind, so no equals sign stands in front of it. -/
theorem unmarked_of_parse? {text : List Char} (spelled : (parse? text).isSome = true) :
    unmarked text = text := by
  rw [unmarked.eq_def]
  split
  · rename_i rest
    rw [parse?.eq_def] at spelled
    split at spelled
    · rename_i letter body equal
      obtain ⟨rfl, rfl⟩ := List.cons.inj equal
      split at spelled
      · cases spelled
      · cases spelled
    · cases spelled
  · rfl

/-- A text that spells a form is its own text without mark. -/
theorem withoutMark_of_parse? {text : String} (spelled : (parse? text.toList).isSome = true) :
    withoutMark text = text := by
  rw [withoutMark, unmarked_of_parse? spelled, String.ofList_toList]

/-- A literal operand is a mark with a data form behind it. -/
theorem isLiteral_eq_true {operand : String} (literal : Operand.isLiteral operand = true) :
    ∃ form, operand.toList = '=' :: form ∧ (parse? form).isSome = true := by
  rw [Operand.isLiteral] at literal
  split at literal
  · rename_i form spelled
    exact ⟨form, spelled, literal⟩
  · cases literal

/-- The text behind the mark of a literal operand spells a form. -/
theorem parse?_withoutMark {operand : String} (literal : Operand.isLiteral operand = true) :
    (parse? (withoutMark operand).toList).isSome = true := by
  obtain ⟨form, marked, spelled⟩ := isLiteral_eq_true literal
  rw [withoutMark, marked, unmarked, String.toList_ofList]
  exact spelled

/-- A literal operand and the text behind its mark are read as the same form. -/
theorem read_withoutMark {operand : String} {form : Form}
    (literal : Operand.isLiteral operand = true) (reads : read operand = .ok form) :
    read (withoutMark operand) = .ok form := by
  have plain := unmarked_of_parse? (parse?_withoutMark literal)
  have same : (withoutMark operand).toList = unmarked operand.toList := by
    rw [withoutMark, String.toList_ofList]
  rw [read] at reads ⊢
  rw [plain, same]
  split at reads
  · exact reads
  · cases reads

/-- A form that can be written is written alike whatever spelling a complaint would name. -/
theorem hex_eq_ok {form : Form} {text : String} {bytes : List Char}
    (written : form.hex text = .ok bytes) (other : String) : form.hex other = .ok bytes := by
  rw [hex.eq_def] at written ⊢
  cases kind : form.kind with
  | character =>
    simp only [kind] at written ⊢
    split at written
    · cases written
    · exact written
  | hexadecimal =>
    simp only [kind] at written ⊢
    split at written
    · rename_i digits
      rw [if_pos digits]
      exact written
    · cases written

/-- A text whose bytes can be written spells a form. -/
theorem read_of_hexOf {text : String} {bytes : List Char} (written : hexOf text = .ok bytes) :
    ∃ form, read text = .ok form ∧ form.hex text = .ok bytes := by
  rw [hexOf] at written
  split at written
  · rename_i form reads
    exact ⟨form, reads, written⟩
  · cases written

/-- A literal operand and the text behind its mark have the same bytes. -/
theorem hexOf_withoutMark {operand : String} {bytes : List Char}
    (literal : Operand.isLiteral operand = true) (written : hexOf operand = .ok bytes) :
    hexOf (withoutMark operand) = .ok bytes := by
  obtain ⟨form, reads, same⟩ := read_of_hexOf written
  rw [hexOf, read_withoutMark literal reads]
  exact hex_eq_ok same _

/-- The text behind the mark of a literal operand whose bytes can be written may be stored. -/
theorem storable_withoutMark {operand : String} {bytes : List Char}
    (literal : Operand.isLiteral operand = true) (written : hexOf operand = .ok bytes) :
    Storable (withoutMark operand) :=
  ⟨parse?_withoutMark literal, bytes, hexOf_withoutMark literal written⟩

/-- What holds of the digits among the ASCII characters holds of every digit. -/
theorem of_isDigit (law : Char → Prop) {c : Char} (digit : Text.Hex.isDigit c = true)
    (table : ∀ code < 128, Text.Hex.isDigit (Char.ofNat code) = true → law (Char.ofNat code)) :
    law c := by
  have small : c.toNat < 128 := by
    simp only [Text.Hex.isDigit, Bool.or_eq_true, Bool.and_eq_true, decide_eq_true_eq,
      Char.le_def, UInt32.le_iff_toNat_le] at digit
    have code : c.toNat = c.val.toNat := rfl
    have nine : ('9' : Char).val.toNat = 57 := rfl
    have lower : ('f' : Char).val.toNat = 102 := rfl
    have upper : ('F' : Char).val.toNat = 70 := rfl
    omega
  have own := table c.toNat small
  rw [Char.ofNat_toNat] at own
  exact own digit

/-- A digit in either case becomes an upper-case digit. -/
theorem isUpperDigit_toUpper {c : Char} (digit : Text.Hex.isDigit c = true) :
    Text.Hex.isUpperDigit c.toUpper = true :=
  of_isDigit (fun d => Text.Hex.isUpperDigit d.toUpper = true) digit (by decide)

/-- A form whose bytes can be written has as many pairs of upper-case digits as it has bytes. -/
theorem hex_spec {form : Form} {text : String} {bytes : List Char}
    (written : form.hex text = .ok bytes) :
    bytes.length = 2 * form.byteLength ∧ ∀ c ∈ bytes, Text.Hex.isUpperDigit c = true := by
  rw [hex.eq_def] at written
  rw [byteLength.eq_def]
  cases kind : form.kind with
  | character =>
    simp only [kind] at written ⊢
    split at written
    · cases written
    · rename_i narrow
      cases written
      have fits : ∀ c ∈ form.body, (c.toNat : Int) < 16 ^ 2 := by
        intro c inside
        have bound := List.find?_eq_none.1 narrow c inside
        simp only [decide_eq_true_eq] at bound
        omega
      constructor
      · rw [List.length_flatMap]
        have pairs : ∀ c ∈ form.body, (Text.Hex.paddedChars 2 c.toNat).length = 2 :=
          fun c inside => Text.Hex.length_paddedChars (by decide) (by omega) (fits c inside)
        rw [List.map_congr_left pairs, List.map_const', List.sum_replicate_nat]
        omega
      · intro c emitted
        obtain ⟨source, _, digit⟩ := List.mem_flatMap.1 emitted
        exact Text.Hex.isUpperDigit_of_mem_paddedChars (by omega) digit
  | hexadecimal =>
    simp only [kind] at written ⊢
    split at written
    · rename_i digits
      cases written
      constructor
      · rw [List.length_map, List.length_take]
        omega
      · intro c emitted
        obtain ⟨source, taken, rfl⟩ := List.mem_map.1 emitted
        exact isUpperDigit_toUpper (List.all_eq_true.1 digits _ (List.mem_of_mem_take taken))
    · cases written

/-- A text whose bytes can be written has a length, and its bytes are that many pairs of upper-case
digits. -/
theorem hexOf_eq_ok {text : String} {bytes : List Char} (written : hexOf text = .ok bytes) :
    byteLengthOf text = .ok (lengthOf text) ∧ bytes.length = 2 * lengthOf text ∧
      ∀ c ∈ bytes, Text.Hex.isUpperDigit c = true := by
  obtain ⟨form, reads, same⟩ := read_of_hexOf written
  have known : byteLengthOf text = .ok form.byteLength := by
    rw [byteLengthOf, reads]
    rfl
  have length : lengthOf text = form.byteLength := by rw [lengthOf, known]
  rw [known, length]
  exact ⟨rfl, hex_spec same⟩

end TwoPass.Form
