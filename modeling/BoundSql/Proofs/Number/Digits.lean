import Mathlib.Algebra.Group.Nat.Defs
import Mathlib.Data.List.TakeWhile
import BoundSql.Number.Digits

/-!
Reading digits back. A row of digits denotes the number that it was printed from, whatever
zeros stand in front of it, and the digits of rows in a row are those of their numbers.
-/

namespace BoundSql.Number

theorem valueOf_eq (row : List Char) : valueOf row = Nat.ofDigitChars 10 row 0 := rfl

@[simp] theorem valueOf_digits (n : Nat) : valueOf (digits n) = n :=
  Nat.ofDigitChars_ten_toDigits

theorem digits_injective : Function.Injective digits :=
  Function.LeftInverse.injective valueOf_digits

theorem valueOf_append (left right : List Char) :
    valueOf (left ++ right) = 10 ^ right.length * valueOf left + valueOf right := by
  rw [valueOf_eq, Nat.ofDigitChars_append, Nat.ofDigitChars_eq_ofDigitChars_zero]
  rfl

@[simp] theorem valueOf_zeros (count : Nat) : valueOf (List.replicate count '0') = 0 := by
  rw [valueOf_eq, Nat.ofDigitChars_replicate_zero, Nat.mul_zero]

@[simp] theorem valueOf_padded (width n : Nat) : valueOf (padded width n) = n := by
  rw [padded, valueOf_append, valueOf_zeros, valueOf_digits, Nat.mul_zero, Nat.zero_add]

/-! ## Rows of digits -/

theorem digits_ne_nil (n : Nat) : digits n ≠ [] := Nat.toDigits_ne_nil

theorem isDigit_of_mem_digits {n : Nat} {c : Char} (member : c ∈ digits n) : c.isDigit = true :=
  Nat.isDigit_of_mem_toDigits (by decide) (by decide) member

theorem exists_digits_cons {n : Nat} (positive : 0 < n) :
    ∃ c rest, digits n = c :: rest ∧ c ≠ '0' := by
  induction n using Nat.strongRecOn with
  | ind n induction =>
      rw [digits, Nat.toDigits_eq_if (by decide)]
      split
      next small =>
          have notZero : ∀ d : Fin 10, d.val ≠ 0 → Nat.digitChar d ≠ '0' := by decide
          exact ⟨_, [], rfl, notZero ⟨n, small⟩ (Nat.ne_of_gt positive)⟩
      next large =>
          rcases induction (n / 10) (by omega) (by omega) with ⟨c, rest, shape, notZero⟩
          rw [digits] at shape
          exact ⟨c, rest ++ [Nat.digitChar (n % 10)], by rw [shape]; rfl, notZero⟩

theorem span_append {p : α → Bool} {row rest : List α} (inside : ∀ c ∈ row, p c = true)
    (ends : ∀ c ∈ rest.head?, p c = false) :
    (row ++ rest).takeWhile p = row ∧ (row ++ rest).dropWhile p = rest := by
  rw [List.takeWhile_append_of_pos inside, List.dropWhile_append_of_pos inside]
  cases rest with
  | nil => simp
  | cons c rest => simp [ends c rfl]

theorem ne_sign_of_isDigit {c : Char} (digit : c.isDigit = true) : c ≠ '-' ∧ c ≠ '+' := by
  constructor <;> (rintro rfl; contradiction)

theorem padded_ne_nil (width n : Nat) : padded width n ≠ [] :=
  List.append_ne_nil_of_right_ne_nil _ (digits_ne_nil n)

theorem isDigit_of_mem_padded {width n : Nat} {c : Char} (member : c ∈ padded width n) :
    c.isDigit = true := by
  rcases List.mem_append.mp member with zero | digit
  · rw [List.eq_of_mem_replicate zero]
    decide
  · exact isDigit_of_mem_digits digit

theorem length_padded {width n : Nat} (small : n < 10 ^ width) (positive : 0 < width) :
    (padded width n).length = width := by
  have short : (digits n).length ≤ width :=
    (Nat.length_toDigits_le_iff (by decide) positive).mpr small
  rw [padded, List.length_append, List.length_replicate]
  omega

end BoundSql.Number
