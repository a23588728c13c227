import BoundSql.Value
import BoundSql.Proofs.Number.Digits
import BoundSql.Proofs.Number.Shortest

/-!
Numerals without an exponent: digits, and behind a point more digits. A float is written as such
a numeral, and the numeral is read as the float.
-/

namespace BoundSql.Number

/-! ## Numerals -/

structure Numeral where
  whole : List Char
  fraction : List Char
  nonempty : whole ≠ []
  areDigits : ∀ c ∈ whole ++ fraction, c.isDigit = true

namespace Numeral

def pointed (fraction : List Char) : List Char :=
  if fraction.isEmpty then [] else '.' :: fraction

def text (numeral : Numeral) : List Char := numeral.whole ++ pointed numeral.fraction

def decimal (numeral : Numeral) (negative : Bool) : Decimal where
  negative := negative
  significand := valueOf (numeral.whole ++ numeral.fraction)
  exponent := -(numeral.fraction.length : Int)

def ofNat (n : Nat) : Numeral where
  whole := digits n
  fraction := []
  nonempty := digits_ne_nil n
  areDigits := by
    rw [List.append_nil]
    exact fun _ => isDigit_of_mem_digits

end Numeral

def minus (negative : Bool) : List Char := if negative then ['-'] else []

/-! ## Reading -/

theorem splitSign_minus (negative : Bool) {c : Char} (digit : c.isDigit = true)
    (rest : List Char) : splitSign (minus negative ++ c :: rest) = (negative, c :: rest) := by
  cases negative with
  | true => rfl
  | false =>
      have unsigned := ne_sign_of_isDigit digit
      simp [minus, splitSign, unsigned.1, unsigned.2]

theorem ofText?_numeral (numeral : Numeral) (negative : Bool) :
    Decimal.ofText? (minus negative ++ numeral.text) = some (numeral.decimal negative) := by
  rcases numeral with ⟨whole, fraction, nonempty, areDigits⟩
  rcases List.forall_mem_append.mp areDigits with ⟨digits, digits'⟩
  cases whole with
  | nil => contradiction
  | cons c whole =>
      have sign := splitSign_minus negative (digits c (List.mem_cons_self ..))
        (whole ++ Numeral.pointed fraction)
      have point : ∀ d ∈ (Numeral.pointed fraction).head?, d.isDigit = false := by
        unfold Numeral.pointed
        split <;> simp
      have before := span_append digits point
      rw [List.cons_append] at before
      unfold Decimal.ofText? Numeral.text
      rw [List.cons_append, sign]
      dsimp only
      rw [before.1, before.2]
      unfold Numeral.pointed
      cases fraction with
      | nil => simp [Decimal.exponentOf?, Numeral.decimal]
      | cons d fraction =>
          have behind := span_append digits' (show ∀ c ∈ ([] : List Char).head?, _ by simp)
          rw [List.append_nil] at behind
          simp only [List.isEmpty_cons, Bool.false_eq_true, if_false, Bool.false_and, behind.1,
            behind.2]
          simp [Decimal.exponentOf?, Numeral.decimal]

/-! ## Writing -/

theorem signedDigits_eq (n : Int) :
    signedDigits n = minus (n < 0) ++ (Numeral.ofNat n.natAbs).text := by
  unfold signedDigits minus Numeral.text
  split <;> simp [*, Numeral.ofNat, Numeral.pointed]

theorem isDigit_of_mem_zeros {count : Nat} {c : Char} (member : c ∈ Layout.zeros count) :
    c.isDigit = true := by
  rw [List.eq_of_mem_replicate member]
  decide

theorem valueOf_append_zeros (row : List Char) (count : Nat) :
    valueOf (row ++ Layout.zeros count) = valueOf row * 10 ^ count := by
  rw [valueOf_append, Layout.zeros, valueOf_zeros, List.length_replicate, Nat.add_zero,
    Nat.mul_comm]

theorem valueOf_zeros_append (count : Nat) (row : List Char) :
    valueOf (Layout.zeros count ++ row) = valueOf row := by
  rw [valueOf_append, Layout.zeros, valueOf_zeros, Nat.mul_zero, Nat.zero_add]

section

variable {row : List Char} (areDigits : ∀ c ∈ row, c.isDigit = true)

include areDigits

theorem exists_numeral_before (nonempty : row ≠ []) (count : Nat) : ∃ numeral : Numeral,
    row ++ Layout.zeros count = numeral.text ∧
      numeral.whole ++ numeral.fraction = row ++ Layout.zeros count ∧
      numeral.fraction.length = 0 := by
  have all : ∀ c ∈ row ++ Layout.zeros count ++ [], c.isDigit = true := by
    rw [List.append_nil]
    exact List.forall_mem_append.mpr ⟨areDigits, fun _ => isDigit_of_mem_zeros⟩
  refine ⟨⟨_, [], List.append_ne_nil_of_left_ne_nil nonempty _, all⟩, ?_, ?_, rfl⟩
  · simp [Numeral.text, Numeral.pointed]
  · rw [List.append_nil]

theorem exists_numeral_among {places : Nat} (some : places ≠ 0) (inside : places < row.length) :
    ∃ numeral : Numeral,
      row.take (row.length - places) ++ '.' :: row.drop (row.length - places) = numeral.text ∧
        numeral.whole ++ numeral.fraction = row ∧ numeral.fraction.length = places := by
  have behind : (row.drop (row.length - places)).length = places := by
    rw [List.length_drop]
    omega
  have before : row.take (row.length - places) ≠ [] := by
    rw [← List.length_pos_iff, List.length_take]
    omega
  have fraction : (row.drop (row.length - places)).isEmpty = false := by
    rw [← Bool.not_eq_true, List.isEmpty_iff, ← List.length_eq_zero_iff, behind]
    exact some
  have whole := List.take_append_drop (row.length - places) row
  have all : ∀ c ∈ row.take (row.length - places) ++ row.drop (row.length - places),
      c.isDigit = true := by
    rw [whole]
    exact areDigits
  refine ⟨⟨_, _, before, all⟩, ?_, whole, behind⟩
  simp only [Numeral.text, Numeral.pointed, fraction, Bool.false_eq_true, if_false]

theorem exists_numeral_behind (nonempty : row ≠ []) {places : Nat}
    (outside : row.length ≤ places) :
    ∃ numeral : Numeral,
      "0.".toList ++ Layout.zeros (places - row.length) ++ row = numeral.text ∧
        numeral.whole ++ numeral.fraction = Layout.zeros (places - row.length + 1) ++ row ∧
        numeral.fraction.length = places := by
  have fraction : (Layout.zeros (places - row.length) ++ row).isEmpty = false := by
    rw [← Bool.not_eq_true, List.isEmpty_iff]
    exact List.append_ne_nil_of_right_ne_nil _ nonempty
  have all : ∀ c ∈ ['0'] ++ (Layout.zeros (places - row.length) ++ row), c.isDigit = true := by
    refine List.forall_mem_append.mpr ⟨by simp, ?_⟩
    exact List.forall_mem_append.mpr ⟨fun _ => isDigit_of_mem_zeros, areDigits⟩
  refine ⟨⟨['0'], _, List.cons_ne_nil _ _, all⟩, ?_, rfl, ?_⟩
  · simp only [Numeral.text, Numeral.pointed, fraction, Bool.false_eq_true, if_false]
    rfl
  · simp only [List.length_append, Layout.zeros, List.length_replicate]
    omega

end

/-- The digits of a decimal are written around its point. -/
theorem exists_numeral (layout : Layout) (noPoint : layout.wholePoint = false) (steps : Nat)
    (exponent : Int) :
    ∃ numeral : Numeral, layout.plain (digits steps) exponent = numeral.text ∧
      valueOf (numeral.whole ++ numeral.fraction) = steps * 10 ^ exponent.toNat ∧
      numeral.fraction.length = (-exponent).toNat := by
  have nonempty := digits_ne_nil steps
  have areDigits : ∀ c ∈ digits steps, c.isDigit = true := fun _ => isDigit_of_mem_digits
  unfold Layout.plain
  dsimp only
  split
  next whole =>
      have none : (-exponent).toNat = 0 := by omega
      rcases exists_numeral_before areDigits nonempty exponent.toNat with
        ⟨numeral, text, row, places⟩
      refine ⟨numeral, ?_, ?_, places.trans none.symm⟩
      · simp [noPoint, text]
      · rw [row, valueOf_append_zeros, valueOf_digits]
  next part =>
      have one : exponent.toNat = 0 := by omega
      rw [one, pow_zero, Nat.mul_one]
      split
      next inside =>
          rcases exists_numeral_among areDigits (by omega) inside with
            ⟨numeral, text, row, places⟩
          exact ⟨numeral, text, row ▸ valueOf_digits steps, places⟩
      next outside =>
          rcases exists_numeral_behind areDigits nonempty (Nat.le_of_not_lt outside) with
            ⟨numeral, text, row, places⟩
          refine ⟨numeral, text, ?_, places⟩
          rw [row, valueOf_zeros_append, valueOf_digits]

/-! ## Floats -/

theorem stepsReadBack_scaled (rank steps : Nat) (exponent : Int) :
    stepsReadBack rank (-((-exponent).toNat : Int)) (steps * 10 ^ exponent.toNat) =
      stepsReadBack rank exponent steps := by
  have none : (-((-exponent).toNat : Int)).toNat = 0 := by omega
  have same : (-(-((-exponent).toNat : Int))).toNat = (-exponent).toNat := by omega
  unfold stepsReadBack gridDenominator
  simp only [none, same, pow_eq]
  generalize Binary64.unitsPerOne = units
  congr 1
  ring

/-- The text of a finite float is a numeral that is read as the float, and zeros are written by
zeros alone. -/
theorem exists_numeral_of_float (layout : Layout) (noExponent : layout.plainWindow = none)
    (noPoint : layout.wholePoint = false) {x : Binary64} (finite : x.isFinite = true) :
    ∃ numeral : Numeral, layout.write x = minus x.negative ++ numeral.text ∧
      (numeral.decimal x.negative).toBinary64 = x ∧
      (x.rank = 0 → valueOf (numeral.whole ++ numeral.fraction) = 0) := by
  rcases exists_numeral layout noPoint (shortest layout.tie x.rank).1
    (shortest layout.tie x.rank).2 with ⟨numeral, text, value, places⟩
  refine ⟨numeral, ?_, ?_, ?_⟩
  · unfold Layout.write
    simp only [noExponent, text]
    cases x.negative <;> rfl
  · rw [Decimal.toBinary64, Numeral.decimal]
    dsimp only
    rw [value, places]
    have small : x.rank < infinityRank := of_decide_eq_true finite
    by_cases zero : x.rank = 0
    · rcases x with ⟨negative, rank, bound⟩
      dsimp only at zero
      subst zero
      rw [shortest, if_pos rfl]
      simp [Binary64.ofDecimal]
    · have reads := reads_of_shortest layout.tie zero small
      rw [← stepsReadBack_scaled] at reads
      exact ofDecimal_eq zero small reads x.negative
  · intro zero
    rw [value, zero, shortest, if_pos rfl, Nat.zero_mul]

end BoundSql.Number
