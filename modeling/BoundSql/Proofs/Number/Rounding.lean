import Mathlib.Order.Monotone.Basic
import Mathlib.Tactic.Ring
import Mathlib.Tactic.Linarith
import BoundSql.Number.Shortest

/-!
Rounding to a float. The units of the ranks grow strictly, and each rank has an interval of
numbers that read back as it. The intervals overlap in no point, so the nearest rank to a number
is the one whose interval has the number.
-/

namespace BoundSql.Number

theorem pow_eq (base exponent : Nat) : Nat.pow base exponent = base ^ exponent := rfl

/-! ## Units -/

/-- The units of a rank that is given by a significand and a shift. The largest significand is
one that belongs to the next shift. -/
theorem unitsOf_eq {shift significand : Nat} (fits : significand ≤ 2 * binadeSize)
    (normal : shift = 0 ∨ binadeSize ≤ significand) :
    unitsOf (shift * binadeSize + significand) = significand * 2 ^ shift := by
  unfold unitsOf
  simp only [pow_eq]
  unfold binadeSize at *
  split
  next small =>
      have none : shift = 0 := by omega
      subst none
      omega
  next large =>
      by_cases last : significand = 2 * 0x10000000000000
      · have part : (shift * 0x10000000000000 + significand) % 0x10000000000000 = 0 := by omega
        have whole : (shift * 0x10000000000000 + significand) / 0x10000000000000 - 1 =
            shift + 1 := by
          omega
        rw [part, whole, last, pow_succ]
        omega
      · have part : (shift * 0x10000000000000 + significand) % 0x10000000000000 +
            0x10000000000000 = significand := by
          omega
        have whole : (shift * 0x10000000000000 + significand) / 0x10000000000000 - 1 = shift := by
          omega
        rw [part, whole]

theorem exists_shift (rank : Nat) : ∃ shift significand,
    rank = shift * binadeSize + significand ∧ significand < 2 * binadeSize ∧
      (shift = 0 ∨ binadeSize ≤ significand) := by
  by_cases small : rank < binadeSize
  · exact ⟨0, rank, by omega, by omega, .inl rfl⟩
  · refine ⟨rank / binadeSize - 1, rank % binadeSize + binadeSize, ?_, ?_, ?_⟩
    · unfold binadeSize at *
      omega
    · unfold binadeSize
      omega
    · exact .inr (Nat.le_add_left _ _)

theorem unitsOf_succ {shift significand : Nat} (fits : significand < 2 * binadeSize)
    (normal : shift = 0 ∨ binadeSize ≤ significand) :
    unitsOf (shift * binadeSize + significand + 1) =
      unitsOf (shift * binadeSize + significand) + 2 ^ shift := by
  rw [unitsOf_eq (Nat.le_of_lt fits) normal, Nat.add_assoc, unitsOf_eq fits (by omega),
    Nat.succ_mul]

theorem unitsOf_strictMono : StrictMono unitsOf := by
  apply strictMono_nat_of_lt_succ
  intro rank
  rcases exists_shift rank with ⟨shift, significand, rfl, fits, normal⟩
  rw [unitsOf_succ fits normal]
  exact Nat.lt_add_of_pos_right (Nat.two_pow_pos shift)

/-! ## Intervals -/

theorem readsBack_iff {rank halfUnits denominator : Nat} :
    readsBack rank halfUnits denominator = true ↔
      (unitsOf (rank - 1) + unitsOf rank) * denominator + rank % 2 ≤ halfUnits ∧
      halfUnits + rank % 2 ≤ (unitsOf rank + unitsOf (rank + 1)) * denominator := by
  unfold readsBack
  dsimp only
  split
  next even => simp [even]
  next odd =>
      have one : rank % 2 = 1 := by omega
      simp only [one, Bool.and_eq_true, decide_eq_true_eq]
      omega

theorem readsBack_le {first second halfUnits more denominator : Nat} (positive : 0 < denominator)
    (reads : readsBack first halfUnits denominator = true)
    (reads' : readsBack second more denominator = true) (le : halfUnits ≤ more) :
    first ≤ second := by
  have low := (readsBack_iff.mp reads).1
  have high := (readsBack_iff.mp reads').2
  by_contra less
  by_cases next : first = second + 1
  · -- Only the end between two neighbours is left, and it belongs to the even one.
    subst next
    rw [Nat.add_sub_cancel] at low
    omega
  · have lower : unitsOf second < unitsOf (first - 1) := unitsOf_strictMono (by omega)
    have upper : unitsOf (second + 1) < unitsOf first := unitsOf_strictMono (by omega)
    have apart : (unitsOf second + unitsOf (second + 1)) * denominator <
        (unitsOf (first - 1) + unitsOf first) * denominator :=
      Nat.mul_lt_mul_of_pos_right (Nat.add_lt_add lower upper) positive
    omega

theorem readsBack_unique {first second halfUnits denominator : Nat} (positive : 0 < denominator)
    (reads : readsBack first halfUnits denominator = true)
    (reads' : readsBack second halfUnits denominator = true) : first = second :=
  Nat.le_antisymm (readsBack_le positive reads reads' (Nat.le_refl _))
    (readsBack_le positive reads' reads (Nat.le_refl _))

/-! ## The nearest rank -/

theorem parity_of_shift (shift significand : Nat) :
    (shift * binadeSize + significand) % 2 = significand % 2 := by
  unfold binadeSize
  omega

section

variable {denominator shift whole part : Nat} (fits : whole < 2 * binadeSize)
  (normal : shift = 0 ∨ binadeSize ≤ whole)

include fits normal

/-- What is left above a rank after a division is dropped if it is at most half a step. -/
theorem readsBack_down (positive : 0 < denominator)
    (small : 2 * part + whole % 2 ≤ denominator * 2 ^ shift) :
    readsBack (shift * binadeSize + whole) (2 * (denominator * 2 ^ shift * whole + part))
      denominator = true := by
  have units := unitsOf_eq (Nat.le_of_lt fits) normal
  have above := unitsOf_succ fits normal
  have below : unitsOf (shift * binadeSize + whole - 1) * denominator + whole % 2 ≤
      unitsOf (shift * binadeSize + whole) * denominator := by
    by_cases zero : shift * binadeSize + whole = 0
    · have even : whole % 2 = 0 := by omega
      rw [zero, even]
      exact Nat.le_refl _
    · have less := unitsOf_strictMono (Nat.sub_one_lt zero)
      have scaled := Nat.mul_le_mul_right denominator (Nat.succ_le_of_lt less)
      rw [Nat.succ_mul] at scaled
      omega
  rw [readsBack_iff, parity_of_shift, above]
  rw [units] at below ⊢
  constructor
  · have twice : 2 * (denominator * 2 ^ shift * whole + part) =
        whole * 2 ^ shift * denominator + whole * 2 ^ shift * denominator + 2 * part := by
      ring
    rw [twice, Nat.add_mul]
    omega
  · have sum : (whole * 2 ^ shift + (whole * 2 ^ shift + 2 ^ shift)) * denominator =
        2 * (denominator * 2 ^ shift * whole) + denominator * 2 ^ shift := by
      ring
    rw [sum]
    omega

/-- What is left adds to the rank if it is at least half a step. -/
theorem readsBack_up (large : denominator * 2 ^ shift + (whole + 1) % 2 ≤ 2 * part)
    (rest : part < denominator * 2 ^ shift) :
    readsBack (shift * binadeSize + (whole + 1)) (2 * (denominator * 2 ^ shift * whole + part))
      denominator = true := by
  have units := unitsOf_eq (Nat.le_of_lt fits) normal
  have next := unitsOf_succ fits normal
  have above : unitsOf (shift * binadeSize + whole + 1) <
      unitsOf (shift * binadeSize + whole + 1 + 1) := unitsOf_strictMono (Nat.lt_succ_self _)
  rw [readsBack_iff, parity_of_shift, ← Nat.add_assoc, Nat.add_sub_cancel]
  rw [next] at above ⊢
  rw [units] at above ⊢
  constructor
  · have sum : (whole * 2 ^ shift + (whole * 2 ^ shift + 2 ^ shift)) * denominator =
        2 * (denominator * 2 ^ shift * whole) + denominator * 2 ^ shift := by
      ring
    rw [sum]
    omega
  · have scaled := Nat.mul_le_mul_right denominator (Nat.le_of_lt above)
    have twice : (whole * 2 ^ shift + 2 ^ shift) * denominator =
        denominator * 2 ^ shift * whole + denominator * 2 ^ shift := by
      ring
    rw [Nat.add_mul, twice]
    rw [twice] at scaled
    omega

end

theorem quotient_fits (quotient : Nat) :
    quotient / 2 ^ (Nat.log2 quotient - 52) < 2 * binadeSize ∧
      (Nat.log2 quotient - 52 = 0 ∨
        binadeSize ≤ quotient / 2 ^ (Nat.log2 quotient - 52)) := by
  have size : binadeSize = 2 ^ 52 := rfl
  by_cases small : Nat.log2 quotient ≤ 52
  · have below : quotient < 2 ^ (Nat.log2 quotient + 1) := Nat.lt_log2_self
    have bound : 2 ^ (Nat.log2 quotient + 1) ≤ 2 ^ 53 :=
      Nat.pow_le_pow_right (by decide) (by omega)
    rw [Nat.sub_eq_zero_of_le small, pow_zero, Nat.div_one, size]
    omega
  · have nonzero : quotient ≠ 0 := by
      intro zero
      subst zero
      exact small (by decide)
    have positive : 0 < 2 ^ (Nat.log2 quotient - 52) := Nat.two_pow_pos _
    constructor
    · rw [Nat.div_lt_iff_lt_mul positive, size]
      have below : quotient < 2 ^ (Nat.log2 quotient + 1) := Nat.lt_log2_self
      have split : 2 ^ (Nat.log2 quotient + 1) =
          2 * 2 ^ 52 * 2 ^ (Nat.log2 quotient - 52) := by
        rw [← pow_succ', ← pow_add]
        congr 1
        omega
      rwa [split] at below
    · right
      rw [Nat.le_div_iff_mul_le positive, size, ← pow_add]
      have exponent : 52 + (Nat.log2 quotient - 52) = Nat.log2 quotient := by omega
      rw [exponent]
      exact Nat.log2_self_le nonzero

/-- A number reads back as the rank that it is rounded to, before large ranks are cut off. -/
theorem readsBack_round {numerator denominator shift : Nat} (positive : 0 < denominator)
    (fits : numerator / (denominator * 2 ^ shift) < 2 * binadeSize)
    (normal : shift = 0 ∨ binadeSize ≤ numerator / (denominator * 2 ^ shift)) :
    readsBack
      (shift * binadeSize + roundHalfEven (numerator / (denominator * 2 ^ shift))
        (numerator % (denominator * 2 ^ shift)) (denominator * 2 ^ shift))
      (2 * numerator) denominator = true := by
  have rest := Nat.mod_lt numerator (Nat.mul_pos positive (Nat.two_pow_pos shift))
  have split := Nat.div_add_mod numerator (denominator * 2 ^ shift)
  generalize numerator / (denominator * 2 ^ shift) = whole at *
  generalize numerator % (denominator * 2 ^ shift) = part at *
  subst split
  unfold roundHalfEven
  split
  next above => exact readsBack_up fits normal (by omega) rest
  next =>
      split
      next half =>
          rcases Nat.mod_two_eq_zero_or_one whole with even | odd
          · rw [even]
            exact readsBack_down fits normal positive (by omega)
          · rw [odd]
            exact readsBack_up fits normal (by omega) rest
      next => exact readsBack_down fits normal positive (by omega)

theorem exists_readsBack (numerator : Nat) {denominator : Nat} (positive : 0 < denominator) :
    ∃ rank, readsBack rank (2 * numerator) denominator = true ∧
      nearestRank numerator denominator = min infinityRank rank := by
  rcases quotient_fits (numerator / denominator) with ⟨fits, normal⟩
  rw [Nat.div_div_eq_div_mul] at fits normal
  exact ⟨_, readsBack_round positive fits normal, rfl⟩

theorem nearestRank_eq {rank numerator denominator : Nat} (positive : 0 < denominator)
    (finite : rank ≤ infinityRank) (reads : readsBack rank (2 * numerator) denominator = true) :
    nearestRank numerator denominator = rank := by
  rcases exists_readsBack numerator positive with ⟨rounded, reads', nearest⟩
  rw [nearest, readsBack_unique positive reads' reads]
  exact Nat.min_eq_right finite

theorem nearestRank_mono {numerator more denominator : Nat} (positive : 0 < denominator)
    (le : numerator ≤ more) :
    nearestRank numerator denominator ≤ nearestRank more denominator := by
  rcases exists_readsBack numerator positive with ⟨first, reads, nearest⟩
  rcases exists_readsBack more positive with ⟨second, reads', nearest'⟩
  have ranks : first ≤ second :=
    readsBack_le positive reads reads' (Nat.mul_le_mul_left 2 le)
  rw [nearest, nearest']
  omega

end BoundSql.Number

/-! ## Integers as floats -/

namespace BoundSql.Binary64

open Number

theorem isNaN_ofInt (n : Int) : (ofInt n).isNaN = false :=
  decide_eq_false (Nat.not_lt.mpr (nearestRank_le _ _))

theorem place_ofInt_mono {m n : Int} (le : m ≤ n) : (ofInt m).place ≤ (ofInt n).place := by
  have ranks {a b : Nat} (le : a ≤ b) :
      nearestRank (a * unitsPerOne) 1 ≤ nearestRank (b * unitsPerOne) 1 :=
    nearestRank_mono Nat.one_pos (Nat.mul_le_mul_right unitsPerOne le)
  simp only [place, ofInt, nearest, decide_eq_true_eq]
  split <;> split
  next => exact Int.neg_le_neg (Int.ofNat_le.mpr (ranks (by omega)))
  next => omega
  next => omega
  next => exact Int.ofNat_le.mpr (ranks (by omega))

end BoundSql.Binary64
