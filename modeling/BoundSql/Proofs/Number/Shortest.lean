import BoundSql.Number.Decimal
import BoundSql.Proofs.Number.Rounding

/-!
The shortest decimal reads back. A grid that is finer than half the gap below a float has a point
that reads back as the float, and such a grid is reached long before the search gives up. So the
decimal of a finite float is rounded to the float again.
-/

namespace BoundSql.Number

/-! ## Points of a grid -/

theorem pow_ten_pos (exponent : Nat) : 0 < Nat.pow 10 exponent :=
  Nat.pow_pos (by decide)

section

variable {tie : Tie} {rank steps : Nat} {exponent : Int}

theorem reads_of_gridPoint? (found : gridPoint? tie rank exponent = some steps) :
    stepsReadBack rank exponent steps = true := by
  unfold gridPoint? at found
  dsimp only at found
  split at found
  next => contradiction
  next reads _ =>
      rcases Option.some.inj found with rfl
      exact reads
  next _ reads =>
      rcases Option.some.inj found with rfl
      exact reads
  next reads reads' =>
      split at found
      next =>
          rcases Option.some.inj found with rfl
          exact reads
      next =>
          split at found
          next =>
              rcases Option.some.inj found with rfl
              exact reads'
          next =>
              cases tie with
              | away =>
                  rcases Option.some.inj found with rfl
                  exact reads'
              | even =>
                  rcases Option.some.inj found with rfl
                  rcases Nat.mod_two_eq_zero_or_one
                      (gridNumerator rank exponent / gridDenominator exponent) with even | odd
                  · rw [even]
                    exact reads
                  · rw [odd]
                    exact reads'

/-- The point below a float reads back if two steps of the grid fit into the gap below. -/
theorem reads_below (fine : 2 * gridDenominator exponent + unitsOf (rank - 1) *
      Nat.pow 10 (-exponent).toNat ≤ unitsOf rank * Nat.pow 10 (-exponent).toNat) :
    stepsReadBack rank exponent (gridNumerator rank exponent / gridDenominator exponent) =
      true := by
  have rest := Nat.mod_lt (gridNumerator rank exponent) (show 0 < gridDenominator exponent from
    Nat.mul_pos (by decide +kernel) (pow_ten_pos _))
  have split := Nat.div_add_mod (gridNumerator rank exponent) (gridDenominator exponent)
  have above := Nat.mul_le_mul_right (Nat.pow 10 (-exponent).toNat)
    (Nat.succ_le_of_lt (unitsOf_strictMono (Nat.lt_add_one rank)))
  have positive := pow_ten_pos (-exponent).toNat
  unfold stepsReadBack
  rw [readsBack_iff, Nat.mul_assoc, Nat.mul_comm (_ / _)]
  rw [gridNumerator] at *
  rw [Nat.succ_mul] at above
  rw [Nat.add_mul, Nat.add_mul]
  omega

theorem gridPoint?_isSome (reads : stepsReadBack rank exponent
      (gridNumerator rank exponent / gridDenominator exponent) = true) :
    (gridPoint? tie rank exponent).isSome = true := by
  unfold gridPoint?
  dsimp only
  rw [reads]
  split
  next => contradiction
  next => rfl
  next => rfl
  next =>
      split
      next => rfl
      next =>
          split
          next => rfl
          next => cases tie <;> rfl

theorem reads_of_refine {attempts tries : Nat} (within : tries < attempts)
    (found : (gridPoint? tie rank (exponent - tries)).isSome = true) :
    stepsReadBack rank (refine tie rank attempts exponent).2
      (refine tie rank attempts exponent).1 = true := by
  induction attempts generalizing exponent tries with
  | zero => contradiction
  | succ attempts induction =>
      unfold refine
      split
      next here => exact reads_of_gridPoint? here
      next none =>
          cases tries with
          | zero =>
              have gone : exponent - (0 : Nat) = exponent := by omega
              rw [gone, none] at found
              contradiction
          | succ tries =>
              apply induction (Nat.lt_of_succ_lt_succ within)
              have same : exponent - 1 - (tries : Int) = exponent - (tries + 1 : Nat) := by omega
              rw [same]
              exact found

end

/-! ## A grid that is fine enough -/

theorem exists_gap {rank : Nat} (nonzero : rank ≠ 0) :
    ∃ shift, unitsOf rank = unitsOf (rank - 1) + 2 ^ shift ∧
      Nat.log2 (unitsOf rank) ≤ 53 + shift := by
  rcases exists_shift (rank - 1) with ⟨shift, significand, equal, fits, normal⟩
  have next := unitsOf_succ fits normal
  rw [← equal, Nat.sub_add_cancel (Nat.pos_of_ne_zero nonzero)] at next
  refine ⟨shift, next, ?_⟩
  have size : unitsOf rank = (significand + 1) * 2 ^ shift := by
    rw [next, equal, unitsOf_eq (Nat.le_of_lt fits) normal, Nat.succ_mul]
  have bound : unitsOf rank ≤ 2 ^ (53 + shift) := by
    rw [size, pow_add]
    exact Nat.mul_le_mul_right _ (Nat.succ_le_of_lt fits)
  have positive : unitsOf rank ≠ 0 := by
    have power := Nat.two_pow_pos shift
    omega
  exact (Nat.pow_le_pow_iff_right (by decide)).mp
    (Nat.le_trans (Nat.log2_self_le positive) bound)

theorem log2_unitsOf {rank : Nat} (finite : rank < infinityRank) :
    Nat.log2 (unitsOf rank) ≤ 2097 := by
  by_cases zero : unitsOf rank = 0
  · rw [zero]
    decide
  · have top : unitsOf infinityRank = 2 ^ 2098 := by decide +kernel
    have less := unitsOf_strictMono finite
    rw [top] at less
    have small := (Nat.log2_lt zero).mpr less
    omega

theorem eight_pow_le (exponent : Nat) : 2 ^ (3 * exponent) ≤ 10 ^ exponent := by
  rw [pow_mul]
  exact Nat.pow_le_pow_left (by decide) exponent

theorem thousand_pow_le (exponent : Nat) : 10 ^ (3 * exponent) ≤ 2 ^ (10 * exponent) := by
  rw [pow_mul, pow_mul]
  exact Nat.pow_le_pow_left (by decide) exponent

theorem mul_ten_pow_le {units shift exponent : Nat}
    (room : units + 1 + 10 * ((exponent + 2) / 3) ≤ shift) :
    2 * (2 ^ units * 10 ^ exponent) ≤ 2 ^ shift := by
  have power : 10 ^ exponent ≤ 2 ^ (10 * ((exponent + 2) / 3)) :=
    Nat.le_trans (Nat.pow_le_pow_right (by decide) (by omega)) (thousand_pow_le _)
  calc 2 * (2 ^ units * 10 ^ exponent)
      ≤ 2 * (2 ^ units * 2 ^ (10 * ((exponent + 2) / 3))) :=
        Nat.mul_le_mul_left _ (Nat.mul_le_mul_left _ power)
    _ = 2 ^ (units + 1 + 10 * ((exponent + 2) / 3)) := by rw [pow_add, pow_succ]; ring
    _ ≤ 2 ^ shift := Nat.pow_le_pow_right (by decide) room

theorem le_mul_ten_pow {units shift exponent : Nat} (room : units + 1 ≤ shift + 3 * exponent) :
    2 * 2 ^ units ≤ 2 ^ shift * 10 ^ exponent :=
  calc 2 * 2 ^ units
      = 2 ^ (units + 1) := (pow_succ' 2 units).symm
    _ ≤ 2 ^ (shift + 3 * exponent) := Nat.pow_le_pow_right (by decide) room
    _ = 2 ^ shift * 2 ^ (3 * exponent) := pow_add 2 shift (3 * exponent)
    _ ≤ 2 ^ shift * 10 ^ exponent := Nat.mul_le_mul_left _ (eight_pow_le exponent)

/-- The last grid that is tried is fine enough for every float. -/
theorem fine_enough {rank shift : Nat} (finite : rank < infinityRank)
    (gap : Nat.log2 (unitsOf rank) ≤ 53 + shift) :
    2 * gridDenominator (coarseExponent rank - 63) ≤
      2 ^ shift * Nat.pow 10 (-(coarseExponent rank - 63)).toNat := by
  have bound := log2_unitsOf finite
  have coarse : coarseExponent rank = if 0 ≤ (Nat.log2 (unitsOf rank) : Int) - 1074 then
      ((Nat.log2 (unitsOf rank) : Int) - 1074) / 3 + 2
      else ((Nat.log2 (unitsOf rank) : Int) - 1074 + 2) * 3 / 10 + 1 := rfl
  generalize coarseExponent rank = exponent at *
  generalize Nat.log2 (unitsOf rank) = log at *
  unfold gridDenominator Binary64.unitsPerOne
  simp only [pow_eq]
  by_cases large : 63 ≤ exponent
  · have whole : (-(exponent - 63)).toNat = 0 := by omega
    rw [whole, pow_zero, Nat.mul_one]
    apply mul_ten_pow_le
    split at coarse <;> omega
  · have part : (exponent - 63).toNat = 0 := by omega
    rw [part, pow_zero, Nat.mul_one]
    apply le_mul_ten_pow
    split at coarse <;> omega

/-! ## The shortest decimal -/

/-- The shortest decimal of a float that is finite and not zero reads back as it. -/
theorem reads_of_shortest (tie : Tie) {rank : Nat} (nonzero : rank ≠ 0)
    (finite : rank < infinityRank) :
    stepsReadBack rank (shortest tie rank).2 (shortest tie rank).1 = true := by
  rcases exists_gap nonzero with ⟨shift, gap, small⟩
  have fine := fine_enough finite small
  rw [shortest, if_neg nonzero]
  apply reads_of_refine (show 63 < 64 by decide)
  apply gridPoint?_isSome
  apply reads_below
  rw [gap, Nat.add_mul]
  exact Nat.le_trans (Nat.add_le_add_right fine _) (Nat.le_of_eq (Nat.add_comm _ _))

/-! ## Reading decimals -/

section

variable {rank steps : Nat} {exponent : Int}

theorem unitsOf_top : unitsOf infinityRank = 2 ^ 1024 * Binary64.unitsPerOne := by
  decide +kernel

theorem steps_le (finite : rank < infinityRank)
    (reads : stepsReadBack rank exponent steps = true) :
    steps * 10 ^ exponent.toNat ≤ 2 ^ 1024 * 10 ^ (-exponent).toNat := by
  have high := (readsBack_iff.mp reads).2
  have last : unitsOf (rank + 1) ≤ unitsOf infinityRank := unitsOf_strictMono.monotone finite
  have less := unitsOf_strictMono (Nat.lt_add_one rank)
  have scaled := Nat.mul_le_mul_right (Nat.pow 10 (-exponent).toNat)
    (Nat.add_le_add (Nat.le_trans (Nat.le_of_lt less) last) last)
  have one : 0 < Binary64.unitsPerOne := by decide +kernel
  apply Nat.le_of_mul_le_mul_left _ (Nat.mul_pos (show 0 < 2 by decide) one)
  calc 2 * Binary64.unitsPerOne * (steps * 10 ^ exponent.toNat)
      = 2 * steps * gridDenominator exponent := by unfold gridDenominator; rw [pow_eq]; ring
    _ ≤ (unitsOf rank + unitsOf (rank + 1)) * Nat.pow 10 (-exponent).toNat :=
        Nat.le_trans (Nat.le_add_right _ _) high
    _ ≤ (unitsOf infinityRank + unitsOf infinityRank) * Nat.pow 10 (-exponent).toNat := scaled
    _ = 2 * Binary64.unitsPerOne * (2 ^ 1024 * 10 ^ (-exponent).toNat) := by
        rw [unitsOf_top, pow_eq]
        generalize 2 ^ 1024 = top
        ring

theorem le_steps (positive : rank ≠ 0) (reads : stepsReadBack rank exponent steps = true) :
    10 ^ (-exponent).toNat ≤ 2 * steps * gridDenominator exponent := by
  have low := (readsBack_iff.mp reads).1
  have some : 1 ≤ unitsOf (rank - 1) + unitsOf rank := by
    have above := unitsOf_strictMono (Nat.pos_of_ne_zero positive)
    omega
  have scaled := Nat.mul_le_mul_right (Nat.pow 10 (-exponent).toNat) some
  rw [Nat.one_mul, pow_eq] at scaled
  rw [pow_eq] at low
  omega

theorem not_too_large (finite : rank < infinityRank) (nonzero : steps ≠ 0)
    (reads : stepsReadBack rank exponent steps = true) :
    ¬ 310 < exponent + (Nat.log2 steps / 4 : Nat) := by
  intro large
  have bound := steps_le finite reads
  have leading : 10 ^ (Nat.log2 steps / 4) ≤ steps :=
    calc 10 ^ (Nat.log2 steps / 4)
        ≤ 16 ^ (Nat.log2 steps / 4) := Nat.pow_le_pow_left (by decide) _
      _ = 2 ^ (4 * (Nat.log2 steps / 4)) := (pow_mul 2 4 _).symm
      _ ≤ 2 ^ Nat.log2 steps := Nat.pow_le_pow_right (by decide) (Nat.mul_div_le _ _)
      _ ≤ steps := Nat.log2_self_le nonzero
  have many : 10 ^ 311 * 10 ^ (-exponent).toNat ≤ 2 ^ 1024 * 10 ^ (-exponent).toNat :=
    calc 10 ^ 311 * 10 ^ (-exponent).toNat
        = 10 ^ (311 + (-exponent).toNat) := (pow_add 10 311 _).symm
      _ ≤ 10 ^ (Nat.log2 steps / 4 + exponent.toNat) :=
          Nat.pow_le_pow_right (by decide) (by omega)
      _ = 10 ^ (Nat.log2 steps / 4) * 10 ^ exponent.toNat := pow_add 10 _ _
      _ ≤ steps * 10 ^ exponent.toNat := Nat.mul_le_mul_right _ leading
      _ ≤ 2 ^ 1024 * 10 ^ (-exponent).toNat := bound
  have absurdly := Nat.le_of_mul_le_mul_right many (Nat.pow_pos (by decide))
  exact absurd absurdly (by decide +kernel)

theorem not_too_small (positive : rank ≠ 0)
    (reads : stepsReadBack rank exponent steps = true) :
    ¬ exponent + (Nat.log2 steps / 3 : Nat) < -331 := by
  intro small
  have bound := le_steps positive reads
  have whole : exponent.toNat = 0 := by omega
  have leading : steps ≤ 10 ^ (Nat.log2 steps / 3 + 1) :=
    calc steps
        ≤ 2 ^ (Nat.log2 steps + 1) := Nat.le_of_lt Nat.lt_log2_self
      _ ≤ 2 ^ (3 * (Nat.log2 steps / 3 + 1)) := Nat.pow_le_pow_right (by decide) (by omega)
      _ ≤ 10 ^ (Nat.log2 steps / 3 + 1) := eight_pow_le _
  have many : 10 ^ 331 * 10 ^ (Nat.log2 steps / 3 + 1) ≤
      2 * Binary64.unitsPerOne * 10 ^ (Nat.log2 steps / 3 + 1) :=
    calc 10 ^ 331 * 10 ^ (Nat.log2 steps / 3 + 1)
        = 10 ^ (331 + (Nat.log2 steps / 3 + 1)) := (pow_add 10 331 _).symm
      _ ≤ 10 ^ (-exponent).toNat := Nat.pow_le_pow_right (by decide) (by omega)
      _ ≤ 2 * steps * gridDenominator exponent := bound
      _ = 2 * Binary64.unitsPerOne * steps := by
          unfold gridDenominator
          rw [whole, pow_eq]
          ring
      _ ≤ 2 * Binary64.unitsPerOne * 10 ^ (Nat.log2 steps / 3 + 1) :=
          Nat.mul_le_mul_left _ leading
  have absurdly := Nat.le_of_mul_le_mul_right many (Nat.pow_pos (by decide))
  exact absurd absurdly (by decide +kernel)

theorem ofDecimal_eq (positive : rank ≠ 0) (finite : rank < infinityRank)
    (reads : stepsReadBack rank exponent steps = true) (negative : Bool) :
    Binary64.ofDecimal negative steps exponent =
      ⟨negative, rank, Nat.lt_trans finite (by decide)⟩ := by
  have nonzero : steps ≠ 0 := by
    intro zero
    have bound := le_steps positive reads
    have power : 0 < 10 ^ (-exponent).toNat := Nat.pow_pos (by decide)
    rw [zero, Nat.mul_zero, Nat.zero_mul] at bound
    omega
  unfold Binary64.ofDecimal
  dsimp only
  rw [if_neg nonzero, if_neg (not_too_large finite nonzero reads),
    if_neg (not_too_small positive reads)]
  unfold stepsReadBack gridDenominator at reads
  rw [Nat.mul_assoc] at reads
  have rounded := nearestRank_eq (pow_ten_pos _) (Nat.le_of_lt finite) reads
  have one : Nat.pow 10 0 = 1 := rfl
  generalize Binary64.unitsPerOne = units at rounded ⊢
  split
  next whole =>
      have part : (-exponent).toNat = 0 := by omega
      rw [part, one, Nat.mul_comm units, ← Nat.mul_assoc] at rounded
      simp only [Binary64.nearest, rounded]
  next part =>
      have whole : exponent.toNat = 0 := by omega
      rw [whole, one, Nat.mul_one] at rounded
      simp only [Binary64.nearest, rounded]

end

end BoundSql.Number
