import Mathlib.Data.List.TakeWhile
import TwoPass.Proofs.Form

/-!
# The bytes of data forms

A data form is a letter for its kind and a body between quotes, with or without an equals sign in
front of it.  `Form.SpelledBy` says this without the reader, and `Form.values` says which bytes a form
stands for without the writer: the codes of its characters, or the values of its pairs of digits.  The
main statement, `Form.hexOf_occupies`, says that the digits that are written for a text are as many as
its length asks for and read as these bytes, and exactly which texts have none.
-/

namespace TwoPass

namespace Text.Hex

/-- The bytes that a row of upper-case digits spells, two digits for each. -/
def bytes? : List Char → Option (List Nat)
  | [] => some []
  | [_] => none
  | high :: low :: rest =>
    (value? [high, low]).bind fun byte => (bytes? rest).map fun later => byte :: later

/-- The value of a digit in either case: its place in the row of the digits. -/
def worth (c : Char) : Nat := "0123456789abcdef".toList.idxOf c.toLower

/-- The values of the pairs in a row of digits; an odd last digit is in none. -/
def pairValues : List Char → List Nat
  | high :: low :: rest => (16 * worth high + worth low) :: pairValues rest
  | _ => []

/-- The digits of either case are these. -/
theorem isDigit_iff {c : Char} : isDigit c = true ↔ c ∈ "0123456789abcdefABCDEF".toList := by
  constructor
  · exact fun digit =>
      Form.of_isDigit (fun d => d ∈ "0123456789abcdefABCDEF".toList) digit (by decide)
  · intro listed
    have table : "0123456789abcdefABCDEF".toList.all isDigit = true := by decide
    exact List.all_eq_true.1 table c listed

/-- An upper-case digit has the value of the digit in either case. -/
theorem digitValue?_toUpper {c : Char} (digit : isDigit c = true) :
    digitValue? c.toUpper = some (worth c) :=
  Form.of_isDigit (fun d => digitValue? d.toUpper = some (worth d)) digit (by decide)

/-- Characters that are written with two digits each are read as their codes. -/
theorem bytes?_flatMap_paddedChars {body : List Char} (narrow : ∀ c ∈ body, c.toNat ≤ 0xFF) :
    bytes? (body.flatMap fun c => paddedChars 2 c.toNat) = some (body.map Char.toNat) := by
  induction body with
  | nil => rfl
  | cons c rest ih =>
    rw [List.forall_mem_cons] at narrow
    have two : (paddedChars 2 (c.toNat : Int)).length = 2 :=
      length_paddedChars (by decide) (by omega) (by have := narrow.1; omega)
    have code : value? (paddedChars 2 (c.toNat : Int)) = some c.toNat := by
      rw [value?_paddedChars (by omega), Int.toNat_natCast]
    obtain ⟨high, low, digits⟩ := List.length_eq_two.1 two
    rw [digits] at code
    rw [List.flatMap_cons, digits, List.cons_append, List.singleton_append, bytes?, code, ih narrow.2]
    rfl

/-- The pairs of a row of digits, in upper case, are read as their values. -/
theorem bytes?_map_toUpper {body : List Char} (digits : ∀ c ∈ body, isDigit c = true) :
    bytes? ((body.take (body.length / 2 * 2)).map Char.toUpper) = some (pairValues body) := by
  fun_induction pairValues body with
  | case1 high low rest ih =>
    rw [List.forall_mem_cons, List.forall_mem_cons] at digits
    have count : (high :: low :: rest).length / 2 * 2 = rest.length / 2 * 2 + 2 := by
      simp only [List.length_cons]
      omega
    have pair : value? [high.toUpper, low.toUpper] = some (16 * worth high + worth low) := by
      simp [value?, valueFrom, digitValue?_toUpper digits.1, digitValue?_toUpper digits.2.1,
        Nat.mul_comm]
    rw [count, List.take_succ_cons, List.take_succ_cons, List.map_cons, List.map_cons, bytes?, pair,
      ih digits.2.2]
    rfl
  | case2 body short =>
    have none : body.length / 2 * 2 = 0 := by
      cases body with
      | nil => rfl
      | cons high rest =>
        cases rest with
        | nil => simp
        | cons low further => exact absurd rfl (short high low further)
    rw [none]
    rfl

end Text.Hex

namespace FormKind

/-- The letters that write a kind. -/
def letters : FormKind → List Char
  | .character => ['C', 'c']
  | .hexadecimal => ['X', 'x']

/-- A kind is written by its letters and by no others. -/
theorem ofChar?_eq_some_iff {c : Char} {kind : FormKind} :
    ofChar? c = some kind ↔ c ∈ kind.letters := by
  constructor
  · intro own
    unfold ofChar? at own
    split at own <;> cases own <;> decide
  · intro listed
    have table : kind.letters.all (ofChar? · = some kind) = true := by cases kind <;> decide
    exact of_decide_eq_true (List.all_eq_true.1 table c listed)

end FormKind

namespace Form

/-- A form as it is written: a letter of its kind, and between two quotes its body, which has none. -/
structure WrittenAs (form : Form) (text : List Char) : Prop where
  /-- No quote stands in the body. -/
  plain : '\'' ∉ form.body
  /-- A letter and a quote stand in front of the body, and a quote behind it. -/
  quoted : ∃ letter ∈ form.kind.letters, text = letter :: '\'' :: (form.body ++ ['\''])

/-- A text spells a form: it is written there, with or without one equals sign in front. -/
def SpelledBy (form : Form) (text : String) : Prop :=
  form.WrittenAs text.toList ∨ ∃ behind, text.toList = '=' :: behind ∧ form.WrittenAs behind

/-- The bytes that a form stands for: the codes of its characters, or the values of its pairs of
digits. -/
def values (form : Form) : List Nat :=
  match form.kind with
  | .character => form.body.map Char.toNat
  | .hexadecimal => Text.Hex.pairValues form.body

/-- A form that has no bytes: one of its characters does not fit a byte, or is no digit. -/
def Unwritable (form : Form) : Prop :=
  form.kind = .character ∧ (∃ c ∈ form.body, 0xFF < c.toNat) ∨
    form.kind = .hexadecimal ∧ ∃ c ∈ form.body, c ∉ "0123456789abcdefABCDEF".toList

/-- The form of a text is the one that is written there. -/
theorem parse?_eq_some_iff {text : List Char} {form : Form} :
    parse? text = some form ↔ form.WrittenAs text := by
  constructor
  · intro parsed
    rw [parse?.eq_def] at parsed
    split at parsed
    · rename_i letter rest
      split at parsed
      · rename_i closed
        obtain ⟨kind, known, rfl⟩ := Option.map_eq_some_iff.1 parsed
        refine ⟨fun quote => ?_, letter, FormKind.ofChar?_eq_some_iff.1 known, ?_⟩
        · exact absurd (List.mem_takeWhile_imp quote) (by simp)
        · rw [← closed, List.takeWhile_append_dropWhile]
      · cases parsed
    · cases parsed
  · rintro ⟨plain, letter, listed, rfl⟩
    have other : ∀ c ∈ form.body, decide (c ≠ '\'') = true := by
      intro c inside
      exact decide_eq_true fun quote => plain (quote ▸ inside)
    rw [parse?, List.takeWhile_append_of_pos other, List.dropWhile_append_of_pos other,
      FormKind.ofChar?_eq_some_iff.2 listed]
    simp

/-- The form that is read from a text is the one that it spells. -/
theorem read_eq_ok_iff {text : String} {form : Form} :
    read text = .ok form ↔ form.SpelledBy text := by
  have parsed : read text = .ok form ↔ parse? (unmarked text.toList) = some form := by
    rw [read]
    cases parse? (unmarked text.toList) <;> simp
  rw [parsed]
  constructor
  · intro found
    rw [unmarked.eq_def] at found
    split at found
    · rename_i behind marked
      exact .inr ⟨behind, marked, parse?_eq_some_iff.1 found⟩
    · exact .inl (parse?_eq_some_iff.1 found)
  · rintro (bare | ⟨behind, marked, written⟩)
    · have own := parse?_eq_some_iff.2 bare
      rw [unmarked_of_parse? (by rw [own]; rfl), own]
    · rw [marked]
      exact parse?_eq_some_iff.2 written

/-- The digits that are written for a form are read as its bytes. -/
theorem bytes?_of_hex {form : Form} {text : String} {digits : List Char}
    (written : form.hex text = .ok digits) : Text.Hex.bytes? digits = some form.values := by
  rw [hex.eq_def] at written
  rw [values.eq_def]
  cases kind : form.kind with
  | character =>
    simp only [kind] at written ⊢
    split at written
    · cases written
    · rename_i narrow
      cases written
      apply Text.Hex.bytes?_flatMap_paddedChars
      intro c inside
      simpa using List.find?_eq_none.1 narrow c inside
  | hexadecimal =>
    simp only [kind] at written ⊢
    split at written
    · rename_i all
      cases written
      exact Text.Hex.bytes?_map_toUpper (List.all_eq_true.1 all)
    · cases written

/-- Writing a form fails exactly if it has no bytes. -/
theorem hex_eq_error_iff {form : Form} {text : String} :
    (∃ cause, form.hex text = .error cause) ↔ form.Unwritable := by
  rw [hex.eq_def, Unwritable]
  cases kind : form.kind with
  | character =>
    simp only [true_and, reduceCtorEq, false_and, or_false]
    cases found : form.body.find? fun c => 0xFF < c.toNat with
    | none => simpa using List.find?_eq_none.1 found
    | some wide =>
      have large := List.find?_some found
      simpa using ⟨wide, List.mem_of_find?_eq_some found, by simpa using large⟩
  | hexadecimal =>
    simp only [true_and, reduceCtorEq, false_and, false_or, ← Text.Hex.isDigit_iff]
    split
    · rename_i all
      simpa using all
    · rename_i other
      simpa using other

/-- A data form occupies the bytes that are written for it.  If digits are written for a text, it
spells a form whose number of bytes is known, there are two upper-case digits for each of them, and
they are read as the bytes of the form.  A text that spells a form fails exactly if one of the
characters does not fit a byte or is no digit, and a text that spells none always fails. -/
theorem hexOf_occupies (text : String) :
    (∀ digits, hexOf text = .ok digits → ∃ form : Form, form.SpelledBy text ∧
        byteLengthOf text = .ok form.byteLength ∧ digits.length = 2 * form.byteLength ∧
        (∀ c ∈ digits, Text.Hex.isUpperDigit c = true) ∧
        Text.Hex.bytes? digits = some form.values) ∧
      (∀ form : Form, form.SpelledBy text →
        ((∃ cause, hexOf text = .error cause) ↔ form.Unwritable)) ∧
      ((∀ form : Form, ¬ form.SpelledBy text) → ∃ cause, hexOf text = .error cause) := by
  refine ⟨fun digits written => ?_, fun form spelled => ?_, fun none => ?_⟩
  · obtain ⟨form, reads, same⟩ := read_of_hexOf written
    obtain ⟨count, upper⟩ := hex_spec same
    refine ⟨form, read_eq_ok_iff.1 reads, ?_, count, upper, bytes?_of_hex same⟩
    rw [byteLengthOf, reads]
    rfl
  · rw [hexOf, read_eq_ok_iff.2 spelled]
    exact hex_eq_error_iff
  · rw [hexOf]
    cases reads : read text with
    | ok form => exact absurd (read_eq_ok_iff.1 reads) (none form)
    | error cause => exact ⟨cause, rfl⟩

/-- A literal with an odd number of digits in either case, a form with a character that does not fit
a byte, and a text with an equals sign too many. -/
theorem hexOf_occupies_odd :
    hexOf "=x'1aBc5'" = .ok ['1', 'A', 'B', 'C'] ∧
      (∃ form : Form, form.SpelledBy "=x'1aBc5'" ∧
        byteLengthOf "=x'1aBc5'" = .ok form.byteLength ∧ 4 = 2 * form.byteLength ∧
        Text.Hex.bytes? ['1', 'A', 'B', 'C'] = some form.values) ∧
      SpelledBy ⟨.character, ['A', 'Ω']⟩ "c'AΩ'" ∧ (∃ cause, hexOf "c'AΩ'" = .error cause) ∧
      (∀ form : Form, ¬ form.SpelledBy "==C'A'") ∧ ∃ cause, hexOf "==C'A'" = .error cause := by
  have digits : hexOf "=x'1aBc5'" = .ok ['1', 'A', 'B', 'C'] := by decide
  have wide : SpelledBy ⟨.character, ['A', 'Ω']⟩ "c'AΩ'" := read_eq_ok_iff.1 (by decide)
  have none : ∀ form : Form, ¬ form.SpelledBy "==C'A'" := by
    intro form spelled
    have reads := read_eq_ok_iff.2 spelled
    have refused : read "==C'A'" = .error (.invalidForm "==C'A'") := by decide
    rw [refused] at reads
    cases reads
  obtain ⟨form, spelled, length, count, _, bytes⟩ := (hexOf_occupies "=x'1aBc5'").1 _ digits
  exact ⟨digits, ⟨form, spelled, length, count, bytes⟩, wide,
    ((hexOf_occupies "c'AΩ'").2.1 _ wide).2 (.inl ⟨rfl, 'Ω', by simp, by decide⟩), none,
    (hexOf_occupies "==C'A'").2.2 none⟩

end Form

end TwoPass
