import Mathlib.Data.List.Induction
import OidcExchange.Data.Text

/-!
# Decimal numerals

A number has one canonical numeral, the one without a needless leading zero.  A parser
that takes a numeral digit by digit and never leaves the range of its integer type finds
the value if it lies in the range, and reports an overflow otherwise.
-/

namespace OidcExchange.Decimal

open OidcExchange.Text

/-! ## Canonical numerals -/

/-- These digits are the canonical numeral of `n`. -/
structure Denotes (digits : List Char) (n : Nat) : Prop where
  nonempty : digits ≠ []
  isDigit : ∀ c ∈ digits, isAsciiDigit c = true
  leading : digits.head? = some '0' → digits = ['0']
  value : Nat.ofDigitChars 10 digits 0 = n

/-- A positive number does not start with a zero. -/
theorem head?_toDigits_ne_zero {n : Nat} (positive : 0 < n) :
    (Nat.toDigits 10 n).head? ≠ some '0' := by
  induction n using Nat.strongRecOn with
  | ind n inductionHypothesis =>
      rw [Nat.toDigits_eq_if (by decide)]
      split
      · simp only [List.head?_cons, ne_eq, Option.some.injEq, Nat.digitChar_eq_zero]
        omega
      · rw [List.head?_append_of_ne_nil _ Nat.toDigits_ne_nil]
        exact inductionHypothesis (n / 10) (by omega) (by omega)

/-- Digits without a leading zero denote a positive number. -/
theorem exists_toDigits_of_digits {digits : List Char} (nonempty : digits ≠ [])
    (isDigit : ∀ c ∈ digits, isAsciiDigit c = true) (leading : digits.head? ≠ some '0') :
    ∃ n, 0 < n ∧ Nat.toDigits 10 n = digits := by
  induction digits using List.reverseRecOn with
  | nil => contradiction
  | append_singleton digits last inductionHypothesis =>
      rcases isAsciiDigit_iff.mp (isDigit last (by simp)) with ⟨d, small, rfl⟩
      cases digits with
      | nil =>
          have positive : 0 < d := by
            rw [List.nil_append, List.head?_cons, ne_eq, Option.some.injEq,
              Nat.digitChar_eq_zero] at leading
            omega
          exact ⟨d, positive, Nat.toDigits_of_lt_base small⟩
      | cons first rest =>
          rcases inductionHypothesis (by simp)
            (fun c member => isDigit c (List.mem_append_left _ member)) (by simpa using leading)
            with ⟨n, positive, equal⟩
          refine ⟨10 * n + d, by omega, ?_⟩
          rw [← Nat.toDigits_append_toDigits (by decide) positive small, equal,
            Nat.toDigits_of_lt_base small]

theorem eq_singleton_of_head? {α : Type*} {word : List α} {first : α}
    (head : word.head? = some first) (short : word.length ≤ 1) : word = [first] := by
  cases word with
  | nil => contradiction
  | cons c rest =>
      cases rest with
      | nil => simpa using head
      | cons next rest => simp at short

theorem denotes_toDigits (n : Nat) : Denotes (Nat.toDigits 10 n) n where
  nonempty := Nat.toDigits_ne_nil
  isDigit _ member := isAsciiDigit_of_mem_toDigits member
  leading zero := by
    cases n with
    | zero => rfl
    | succ n => exact absurd zero (head?_toDigits_ne_zero n.succ_pos)
  value := Nat.ofDigitChars_ten_toDigits

/-- Every number has exactly one canonical numeral. -/
theorem denotes_iff {digits : List Char} {n : Nat} :
    Denotes digits n ↔ digits = Nat.toDigits 10 n := by
  constructor
  · rintro ⟨nonempty, isDigit, leading, rfl⟩
    by_cases zero : digits.head? = some '0'
    · rw [leading zero]
      rfl
    · rcases exists_toDigits_of_digits nonempty isDigit zero with ⟨n, _, rfl⟩
      rw [Nat.ofDigitChars_ten_toDigits]
  · rintro rfl
    exact denotes_toDigits n

/-- A number without a leading zero is positive. -/
theorem Denotes.pos {digits : List Char} {n : Nat} (denotes : Denotes digits n)
    (leading : digits.head? ≠ some '0') : 0 < n := by
  rw [denotes_iff.mp denotes] at leading
  by_contra zero
  rw [Nat.eq_zero_of_not_pos zero] at leading
  exact leading rfl

/-- A numeral has at most `count` digits exactly if its number is below the power of ten. -/
theorem Denotes.length_le_iff {digits : List Char} {n count : Nat} (denotes : Denotes digits n)
    (positive : 0 < count) : digits.length ≤ count ↔ n < 10 ^ count := by
  rw [denotes_iff.mp denotes, Nat.length_toDigits_le_iff (by decide) positive]

/-! ## Parsing into a bounded type -/

/-- `core::num::IntErrorKind` of unsigned types. -/
inductive IntErrorKind where
  | empty
  | invalidDigit
  | posOverflow
  deriving DecidableEq

/-- The text of a `ParseIntError`. -/
def IntErrorKind.text : IntErrorKind → String
  | .empty => "cannot parse integer from empty string"
  | .invalidDigit => "invalid digit found in string"
  | .posOverflow => "number too large to fit in target type"

/-- `char::to_digit(10)` -/
def toDigit (c : Char) : Option Nat :=
  if isAsciiDigit c then some (c.toNat - '0'.toNat) else none

/-- The result of a checked operation of an unsigned type with `size` values. -/
def checkedUnsigned (size value : Nat) : Option Nat :=
  if value < size then some value else none

/-- The loop of `from_str_radix`. -/
def parseDigits (size result : Nat) : List Char → Except IntErrorKind Nat
  | [] => .ok result
  | c :: rest =>
      match toDigit c with
      | none => .error .invalidDigit
      | some digit =>
          match checkedUnsigned size (result * 10) with
          | none => .error .posOverflow
          | some product =>
              match checkedUnsigned size (product + digit) with
              | none => .error .posOverflow
              | some next => parseDigits size next rest

/-- `str::parse` for an unsigned type with `size` values. -/
def parse (size : Nat) (value : String) : Except IntErrorKind Nat :=
  match value.toList with
  | [] => .error .empty
  | ['+'] => .error .invalidDigit
  | '+' :: digits => parseDigits size 0 digits
  | digits => parseDigits size 0 digits

theorem le_ofDigitChars (digits : List Char) (result : Nat) :
    result ≤ Nat.ofDigitChars 10 digits result := by
  rw [Nat.ofDigitChars_eq_ofDigitChars_zero]
  exact (Nat.le_mul_of_pos_left result (Nat.pow_pos (by decide))).trans (Nat.le_add_right _ _)

/-- The loop finds the value of the digits, unless a partial value leaves the range; then so
does the whole. -/
theorem parseDigits_of_digits {size result : Nat} {digits : List Char} (inRange : result < size)
    (isDigit : ∀ c ∈ digits, isAsciiDigit c = true) :
    parseDigits size result digits =
      if Nat.ofDigitChars 10 digits result < size then
        .ok (Nat.ofDigitChars 10 digits result)
      else
        .error .posOverflow := by
  induction digits generalizing result with
  | nil => rw [parseDigits, Nat.ofDigitChars_nil, if_pos inRange]
  | cons c rest inductionHypothesis =>
      rw [List.forall_mem_cons] at isDigit
      have digit : toDigit c = some (c.toNat - '0'.toNat) := if_pos isDigit.1
      have grows := le_ofDigitChars rest (10 * result + (c.toNat - '0'.toNat))
      rw [Nat.ofDigitChars_cons, parseDigits, digit, Nat.mul_comm result]
      by_cases fits : 10 * result + (c.toNat - '0'.toNat) < size
      · have product : 10 * result < size := by omega
        simp only [checkedUnsigned, if_pos product, if_pos fits]
        exact inductionHypothesis fits isDigit.2
      · rw [if_neg (by omega)]
        by_cases product : 10 * result < size
        · simp only [checkedUnsigned, if_pos product, if_neg fits]
        · simp only [checkedUnsigned, if_neg product]

/-- A numeral is parsed to its value, if the type has it. -/
theorem parse_of_denotes {size n : Nat} {value : String} (positive : 0 < size)
    (denotes : Denotes value.toList n) :
    parse size value = if n < size then .ok n else .error .posOverflow := by
  rcases denotes with ⟨nonempty, isDigit, _, rfl⟩
  rw [← parseDigits_of_digits positive isDigit, parse]
  split
  · rename_i empty
    exact absurd empty nonempty
  · rename_i sign
    rw [sign] at isDigit
    exact absurd (isDigit '+' List.mem_cons_self) (by decide)
  · rename_i sign
    rw [sign] at isDigit
    exact absurd (isDigit '+' List.mem_cons_self) (by decide)
  · rfl

end OidcExchange.Decimal
