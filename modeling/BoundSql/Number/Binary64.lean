/-!
Floating-point numbers of 64 bits. Within one sign the numbers are ranked: zero has
rank 0, each next number the next rank, infinity comes after the largest finite
number, and the ranks above it hold no number at all. Order, neighbours and parity
of the significand can be read off the rank.
-/

namespace BoundSql

namespace Number

def infinityRank : Nat := 0x7FF0000000000000

def binadeSize : Nat := 0x10000000000000

/-- A rank's distance from zero, in units of `2 ^ (-1074)`. -/
def unitsOf (rank : Nat) : Nat :=
  if rank < binadeSize then rank
  else (rank % binadeSize + binadeSize) * Nat.pow 2 (rank / binadeSize - 1)

def roundHalfEven (whole part step : Nat) : Nat :=
  if step < 2 * part then whole + 1
  else if 2 * part = step then whole + whole % 2
  else whole

/-- The rank nearest to `numerator / denominator` units, of two equally near ones the
even one. What lies half a step or more beyond the last finite number is infinite. -/
def nearestRank (numerator denominator : Nat) : Nat :=
  let shift := Nat.log2 (numerator / denominator) - 52
  let step := denominator * Nat.pow 2 shift
  min infinityRank
    (shift * binadeSize + roundHalfEven (numerator / step) (numerator % step) step)

theorem nearestRank_le (numerator denominator : Nat) :
    nearestRank numerator denominator ≤ infinityRank :=
  Nat.min_le_left _ _

end Number

open Number

/-- A floating-point number: its sign and its rank. -/
structure Binary64 where
  negative : Bool
  rank : Nat
  rank_lt : rank < 0x8000000000000000
  deriving DecidableEq

namespace Binary64

def isNaN (x : Binary64) : Bool := infinityRank < x.rank

def isFinite (x : Binary64) : Bool := x.rank < infinityRank

def zero : Binary64 := ⟨false, 0, by decide⟩

def infinity (negative : Bool) : Binary64 := ⟨negative, infinityRank, by decide⟩

def nan : Binary64 := ⟨false, 0x7FF8000000000000, by decide⟩

/-! ## Order

Both zeros have the place 0, so they are equal; a number that is no number has no
place in the order. -/

def place (x : Binary64) : Int := if x.negative then -(x.rank : Int) else x.rank

def compare? (x y : Binary64) : Option Ordering :=
  if x.isNaN || y.isNaN then none else some (compare x.place y.place)

def equals (x y : Binary64) : Bool := x.compare? y == some .eq

example : nan.equals nan = false := by decide

example : (⟨true, 0, by decide⟩ : Binary64).equals zero = true := by decide

/-! ## Rounding to a float -/

def nearest (negative : Bool) (numerator denominator : Nat) : Binary64 :=
  ⟨negative, nearestRank numerator denominator,
    Nat.lt_of_le_of_lt (nearestRank_le _ _) (by decide)⟩

def unitsPerOne : Nat := Nat.pow 2 1074

def ofInt (n : Int) : Binary64 := nearest (n < 0) (n.natAbs * unitsPerOne) 1

/-- The float nearest to `significand * 10 ^ exponent`. Exponents far out of range are
settled without computing the power. -/
def ofDecimal (negative : Bool) (significand : Nat) (exponent : Int) : Binary64 :=
  let bits := Nat.log2 significand
  if significand = 0 then ⟨negative, 0, by decide⟩
  else if 310 < exponent + (bits / 4 : Nat) then infinity negative
  else if exponent + (bits / 3 : Nat) < -331 then ⟨negative, 0, by decide⟩
  else if 0 ≤ exponent then
    nearest negative (significand * Nat.pow 10 exponent.toNat * unitsPerOne) 1
  else
    nearest negative (significand * unitsPerOne) (Nat.pow 10 (-exponent).toNat)

example : (ofDecimal false 1 (-1)).rank = 0x3FB999999999999A := by decide +kernel

example : (ofDecimal false 1 400) = infinity false := by decide +kernel

/-! ## Whole numbers -/

def toInt? (x : Binary64) : Option Int :=
  let units := unitsOf x.rank
  if x.isFinite && units % unitsPerOne = 0 then
    let whole : Int := (units / unitsPerOne : Nat)
    some (if x.negative then -whole else whole)
  else none

example : (ofInt (-9)).toInt? = some (-9) := by decide +kernel

/-! ## Single precision

A single has 24 bits of significand and no unit below `2 ^ (-149)`. -/

/-- The number of units nearest to `units` that a single holds, or none if it is too
large for one. -/
def singleUnits? (units : Nat) : Option Nat :=
  let step := Nat.pow 2 (max (Nat.log2 units - 23) (1074 - 149))
  let rounded := roundHalfEven (units / step) (units % step) step * step
  if rounded < Nat.pow 2 (1074 + 128) then some rounded else none

def nearestSingle (negative : Bool) (units : Nat) : Binary64 :=
  match singleUnits? units with
  | some rounded => nearest negative rounded 1
  | none => infinity negative

def toSingle (x : Binary64) : Binary64 :=
  if x.isFinite then nearestSingle x.negative (unitsOf x.rank) else x

def singleOfInt (n : Int) : Binary64 :=
  nearestSingle (n < 0) (n.natAbs * unitsPerOne)

example : singleOfInt 16777217 = ofInt 16777216 := by decide +kernel

end Binary64

end BoundSql
