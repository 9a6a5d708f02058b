import Mathlib.Algebra.Ring.Int.Defs
import Mathlib.Algebra.Ring.Nat
import TwoPass.Text.Hex

/-!
# Hexadecimal fields

A number that is written into a field of fixed width takes up exactly that width as long as it is
below the matching power of sixteen, and it can be read back.  `value?` is the reader: it accepts
upper-case digits and nothing else; `integer?` also accepts a minus sign in front of them.  Fields
that stand side by side are the digits of one number.
-/

namespace TwoPass.Text.Hex

/-- The value of an upper-case digit. -/
def digitValue? (c : Char) : Option Nat :=
  if '0' ≤ c ∧ c ≤ '9' then some (c.toNat - 48)
  else if 'A' ≤ c ∧ c ≤ 'F' then some (c.toNat - 55)
  else none

/-- Whether a character is an upper-case digit. -/
def isUpperDigit (c : Char) : Bool := (digitValue? c).isSome

/-- The number that further digits make out of the value of those in front of them. -/
def valueFrom (value : Nat) : List Char → Option Nat
  | [] => some value
  | c :: rest => (digitValue? c).bind fun digit => valueFrom (value * 16 + digit) rest

/-- The number that a row of upper-case digits spells. -/
def value? (text : List Char) : Option Nat := valueFrom 0 text

/-- The integer that a row of upper-case digits spells, with or without a minus sign. -/
def integer? : List Char → Option Int
  | '-' :: text => (value? text).map fun value : Nat => -(value : Int)
  | text => (value? text).map fun value : Nat => (value : Int)

/-- A written digit has its value. -/
theorem digitValue?_digit : ∀ value < 16, digitValue? (digit value) = some value := by decide

/-- A written digit is an upper-case digit. -/
theorem isUpperDigit_digit {value : Nat} (bound : value < 16) :
    isUpperDigit (digit value) = true := by
  rw [isUpperDigit, digitValue?_digit value bound, Option.isSome_some]

/-- Digits behind other digits go on from the value of those. -/
theorem valueFrom_append (value : Nat) (front back : List Char) :
    valueFrom value (front ++ back) =
      (valueFrom value front).bind fun middle => valueFrom middle back := by
  induction front generalizing value with
  | nil => rfl
  | cons c rest ih =>
    cases found : digitValue? c with
    | none => simp [valueFrom, found]
    | some digit => simp [valueFrom, found, ih]

/-- The value of a digit is below sixteen. -/
theorem digitValue?_lt {c : Char} {value : Nat} (known : digitValue? c = some value) :
    value < 16 := by
  rw [digitValue?] at known
  split at known
  · rename_i decimal
    have bound : c.toNat ≤ 57 := decimal.2
    cases known
    omega
  · split at known
    · rename_i letter
      have bound : c.toNat ≤ 70 := letter.2
      cases known
      omega
    · cases known

/-- Digits behind a number spell one that is below the next number with as many zeros behind it. -/
theorem valueFrom_lt {value number : Nat} {text : List Char}
    (spelled : valueFrom value text = some number) :
    number < (value + 1) * 16 ^ text.length := by
  induction text generalizing value with
  | nil =>
    cases spelled
    simp
  | cons c rest ih =>
    obtain ⟨digit, known, later⟩ := Option.bind_eq_some_iff.1 spelled
    have small := digitValue?_lt known
    calc
      number < (value * 16 + digit + 1) * 16 ^ rest.length := ih later
      _ ≤ ((value + 1) * 16) * 16 ^ rest.length := Nat.mul_le_mul_right _ (by omega)
      _ = (value + 1) * 16 ^ (c :: rest).length := by
        rw [List.length_cons, Nat.pow_succ, Nat.mul_assoc, Nat.mul_comm 16]

/-- The digits of a number spell it. -/
theorem value?_digits (number : Nat) : value? (digits number) = some number := by
  fun_induction digits number with
  | case1 number small =>
    simp [value?, valueFrom, digitValue?_digit number small]
  | case2 number large ih =>
    have last := digitValue?_digit (number % 16) (Nat.mod_lt _ (by decide))
    have whole : number / 16 * 16 + number % 16 = number := Nat.div_add_mod' number 16
    rw [value?] at ih ⊢
    rw [valueFrom_append, ih]
    simp [valueFrom, last, whole]

/-- Zeros in front of digits change nothing. -/
theorem value?_fill (width : Nat) (text : List Char) : value? (fill width text) = value? text := by
  have zeros (count : Nat) : valueFrom 0 (List.replicate count '0') = some 0 := by
    induction count with
    | zero => rfl
    | succ count ih =>
      have zero : digitValue? '0' = some 0 := by decide
      simpa [List.replicate_succ, valueFrom, zero] using ih
  rw [value?, fill, valueFrom_append, zeros]
  rfl

/-- A number below a power of sixteen has at most as many digits as the exponent says. -/
theorem length_digits_le {number width : Nat} (room : 0 < width) (bound : number < 16 ^ width) :
    (digits number).length ≤ width := by
  induction width generalizing number with
  | zero => exact absurd room (Nat.lt_irrefl 0)
  | succ width ih =>
    rw [digits]
    split
    · simp
    · rename_i large
      have wide : 0 < width := by
        rcases Nat.eq_zero_or_pos width with rfl | wide
        · omega
        · exact wide
      have smaller : number / 16 < 16 ^ width := by
        rw [Nat.pow_succ] at bound
        exact Nat.div_lt_of_lt_mul (by omega)
      have shorter := ih wide smaller
      rw [List.length_append, List.length_singleton]
      omega

/-- A written number consists of upper-case digits. -/
theorem isUpperDigit_of_mem_digits {number : Nat} {c : Char} (written : c ∈ digits number) :
    isUpperDigit c = true := by
  fun_induction digits number with
  | case1 number small =>
    rw [List.mem_singleton.1 written]
    exact isUpperDigit_digit small
  | case2 number large ih =>
    rcases List.mem_append.1 written with front | last
    · exact ih front
    · rw [List.mem_singleton.1 last]
      exact isUpperDigit_digit (Nat.mod_lt _ (by decide))

/-- Filled digits are upper-case digits. -/
theorem isUpperDigit_of_mem_fill {width : Nat} {text : List Char} {c : Char}
    (each : ∀ d ∈ text, isUpperDigit d = true) (written : c ∈ fill width text) :
    isUpperDigit c = true := by
  rcases List.mem_append.1 written with zero | own
  · rw [List.eq_of_mem_replicate zero]
    decide
  · exact each c own

/-- A further digit goes behind the digits of a number. -/
theorem fill_digits_concat {width number last : Nat} (room : 0 < width) (small : last < 16) :
    fill (width + 1) (digits (number * 16 + last)) =
      fill width (digits number) ++ [digit last] := by
  by_cases zero : number = 0
  · subst zero
    have first : digits 0 = ['0'] := by
      rw [digits, if_pos (by decide)]
      decide
    have own : digits (0 * 16 + last) = [digit last] := by
      rw [Nat.zero_mul, Nat.zero_add, digits, if_pos small]
    have zeros : List.replicate (width - 1) '0' ++ ['0'] = List.replicate width '0' := by
      rw [← List.replicate_succ', Nat.sub_add_cancel room]
    rw [first, own, fill, fill, List.length_singleton, List.length_singleton, Nat.add_sub_cancel,
      zeros]
  · have large : ¬ number * 16 + last < 16 := by omega
    have quotient : (number * 16 + last) / 16 = number := by omega
    have remainder : (number * 16 + last) % 16 = last := by omega
    rw [digits, if_neg large, quotient, remainder, fill, fill, List.length_append,
      List.length_singleton, Nat.add_sub_add_right, List.append_assoc]

/-- Two fields side by side are the digits of one number. -/
theorem fill_digits_append {front back high low : Nat} (room : 0 < front) (further : 0 < back)
    (bound : low < 16 ^ back) :
    fill (front + back) (digits (high * 16 ^ back + low)) =
      fill front (digits high) ++ fill back (digits low) := by
  induction back generalizing low with
  | zero => exact absurd further (Nat.lt_irrefl 0)
  | succ back ih =>
    have split : low / 16 * 16 + low % 16 = low := Nat.div_add_mod' low 16
    have small : low % 16 < 16 := Nat.mod_lt low (by decide)
    have whole : high * 16 ^ (back + 1) + low = (high * 16 ^ back + low / 16) * 16 + low % 16 := by
      rw [Nat.add_mul, Nat.mul_assoc, ← Nat.pow_succ, Nat.add_assoc, split]
    by_cases last : back = 0
    · subst last
      have single : fill 1 (digits low) = [digit low] := by
        rw [digits, if_pos (by omega)]
        rfl
      rw [single, ← fill_digits_concat room (by omega)]
      simp
    · have fewer : low / 16 < 16 ^ back := by
        rw [Nat.pow_succ] at bound
        exact Nat.div_lt_of_lt_mul (by omega)
      have positive : 0 < back := Nat.pos_of_ne_zero last
      rw [whole, ← Nat.add_assoc, fill_digits_concat (by omega) small, ih positive fewer,
        List.append_assoc, ← fill_digits_concat positive small, split]

section Field

variable {width : Nat} {number : Int}

/-- A number that is not negative is written without a sign. -/
theorem paddedChars_of_nonneg (nonnegative : 0 ≤ number) :
    paddedChars width number = fill width (digits number.natAbs) := by
  rw [paddedChars, if_neg (Int.not_lt.2 nonnegative)]

/-- A number below the power of sixteen of a width fills a field of that width. -/
theorem length_paddedChars (room : 0 < width) (nonnegative : 0 ≤ number)
    (bound : number < 16 ^ width) : (paddedChars width number).length = width := by
  have small : number.natAbs < 16 ^ width := by
    apply Int.ofNat_lt.1
    rw [Int.natAbs_of_nonneg nonnegative]
    exact_mod_cast bound
  have short := length_digits_le room small
  rw [paddedChars_of_nonneg nonnegative, length_fill]
  omega

/-- A number that is not negative is written in upper-case digits. -/
theorem isUpperDigit_of_mem_paddedChars (nonnegative : 0 ≤ number) {c : Char}
    (written : c ∈ paddedChars width number) : isUpperDigit c = true := by
  rw [paddedChars_of_nonneg nonnegative] at written
  exact isUpperDigit_of_mem_fill (fun _ => isUpperDigit_of_mem_digits) written

/-- A number that is not negative can be read back. -/
theorem value?_paddedChars (nonnegative : 0 ≤ number) :
    value? (paddedChars width number) = some number.toNat := by
  rw [paddedChars_of_nonneg nonnegative, value?_fill, value?_digits]
  congr 1
  omega

/-- A written number fills at least its field. -/
theorem le_length_paddedChars (width : Nat) (number : Int) :
    width ≤ (paddedChars width number).length := by
  rw [paddedChars]
  split
  · rw [List.length_cons, length_fill]
    omega
  · rw [length_fill]
    omega

/-- Every written number can be read back, whatever its sign and its width. -/
theorem integer?_paddedChars (width : Nat) (number : Int) :
    integer? (paddedChars width number) = some number := by
  by_cases negative : number < 0
  · rw [paddedChars, if_pos negative, integer?, value?_fill, value?_digits, Option.map_some]
    congr 1
    omega
  · have nonnegative : 0 ≤ number := Int.not_lt.1 negative
    rw [integer?.eq_def]
    split
    · rename_i rest written
      have signed : '-' ∈ paddedChars width number := written ▸ List.mem_cons_self
      have wrong := isUpperDigit_of_mem_paddedChars nonnegative signed
      exact absurd wrong (by decide)
    · rw [value?_paddedChars nonnegative, Option.map_some, Int.toNat_of_nonneg nonnegative]

/-- Two fields side by side are the digits of one number. -/
theorem paddedChars_append {front back : Nat} {high low : Int} (room : 0 < front)
    (further : 0 < back) (least : 0 ≤ high) (low_least : 0 ≤ low) (bound : low < 16 ^ back) :
    paddedChars (front + back) (high * 16 ^ back + low) =
      paddedChars front high ++ paddedChars back low := by
  obtain ⟨high, rfl⟩ := Int.eq_ofNat_of_zero_le least
  obtain ⟨low, rfl⟩ := Int.eq_ofNat_of_zero_le low_least
  have whole : (high : Int) * 16 ^ back + low = ((high * 16 ^ back + low : Nat) : Int) := by
    push_cast
    rfl
  rw [whole, paddedChars_of_nonneg (Int.natCast_nonneg _), paddedChars_of_nonneg least,
    paddedChars_of_nonneg low_least]
  exact fill_digits_append room further (by exact_mod_cast bound)

end Field

end TwoPass.Text.Hex
