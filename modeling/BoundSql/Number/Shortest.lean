import BoundSql.Number.Digits
import BoundSql.Number.Binary64

/-!
The shortest decimal of a float: of all decimals that read back as the float, one on
the coarsest grid of powers of ten. Two neighbours on that grid enclose the float;
of those that read back the nearer is taken, and a layout says which one when both
are equally near.
-/

namespace BoundSql.Number

/-- Which of two equally near decimals is taken. -/
inductive Tie where
  | away
  | even
  deriving DecidableEq

/-! ## What reads back

The numbers that round to a float reach halfway to its neighbours; the two ends
belong to it if its rank is even. Everything is counted in half units. -/

def readsBack (rank halfUnits denominator : Nat) : Bool :=
  let low := unitsOf (rank - 1) + unitsOf rank
  let high := unitsOf rank + unitsOf (rank + 1)
  if rank % 2 = 0 then
    low * denominator ≤ halfUnits && halfUnits ≤ high * denominator
  else
    low * denominator < halfUnits && halfUnits < high * denominator

/-! ## One grid

On the grid of `10 ^ exponent` the float lies `numerator / denominator` steps from
zero. -/

def gridNumerator (rank : Nat) (exponent : Int) : Nat :=
  unitsOf rank * Nat.pow 10 (-exponent).toNat

def gridDenominator (exponent : Int) : Nat :=
  Binary64.unitsPerOne * Nat.pow 10 exponent.toNat

/-- Whether `steps` on the grid of `10 ^ exponent` reads back as the float. -/
def stepsReadBack (rank : Nat) (exponent : Int) (steps : Nat) : Bool :=
  readsBack rank (2 * steps * gridDenominator exponent) (Nat.pow 10 (-exponent).toNat)

def gridPoint? (tie : Tie) (rank : Nat) (exponent : Int) : Option Nat :=
  let below := gridNumerator rank exponent / gridDenominator exponent
  let part := gridNumerator rank exponent % gridDenominator exponent
  match stepsReadBack rank exponent below, stepsReadBack rank exponent (below + 1) with
  | false, false => none
  | true, false => some below
  | false, true => some (below + 1)
  | true, true =>
      if 2 * part < gridDenominator exponent then some below
      else if gridDenominator exponent < 2 * part then some (below + 1)
      else
        match tie with
        | .away => some (below + 1)
        | .even => some (below + below % 2)

/-! ## The coarsest grid -/

def coarseExponent (rank : Nat) : Int :=
  let magnitude : Int := (Nat.log2 (unitsOf rank) : Int) - 1074
  if 0 ≤ magnitude then magnitude / 3 + 2 else (magnitude + 2) * 3 / 10 + 1

def refine (tie : Tie) (rank : Nat) : Nat → Int → Nat × Int
  | 0, exponent => (gridNumerator rank exponent / gridDenominator exponent, exponent)
  | attempts + 1, exponent =>
      match gridPoint? tie rank exponent with
      | some steps => (steps, exponent)
      | none => refine tie rank attempts (exponent - 1)

/-- The significand and the exponent of the shortest decimal of a finite float. -/
def shortest (tie : Tie) (rank : Nat) : Nat × Int :=
  if rank = 0 then (0, 0) else refine tie rank 64 (coarseExponent rank)

example : shortest .even 1 = (5, -324) := by decide +kernel

/-! ## Layouts -/

/-- How a decimal is written: the choice between equally near ones, the exponents of
the first digit for which no exponent is written (all of them if none are given),
whether a whole number keeps a zero after the point, and whether an exponent that is not
negative has a plus sign. -/
structure Layout where
  tie : Tie
  plainWindow : Option (Int × Int)
  wholePoint : Bool
  plusMark : Bool

namespace Layout

def zeros (count : Nat) : List Char := List.replicate count '0'

def plain (layout : Layout) (row : List Char) (exponent : Int) : List Char :=
  let places := (-exponent).toNat
  if 0 ≤ exponent then
    row ++ zeros exponent.toNat ++ (if layout.wholePoint then ".0".toList else [])
  else if places < row.length then
    row.take (row.length - places) ++ '.' :: row.drop (row.length - places)
  else
    "0.".toList ++ zeros (places - row.length) ++ row

def exponentSign (layout : Layout) (leading : Int) : List Char :=
  if leading < 0 then ['-'] else if layout.plusMark then ['+'] else []

def scientific (layout : Layout) (row : List Char) (leading : Int) : List Char :=
  row.take 1 ++ (if row.length = 1 then [] else '.' :: row.drop 1) ++
    'e' :: layout.exponentSign leading ++ digits leading.natAbs

def write (layout : Layout) (x : Binary64) : List Char :=
  let (significand, exponent) := shortest layout.tie x.rank
  let row := digits significand
  let leading := exponent + row.length - 1
  let text :=
    match layout.plainWindow with
    | none => layout.plain row exponent
    | some (low, high) =>
        if low ≤ leading && leading ≤ high then layout.plain row exponent
        else layout.scientific row leading
  if x.negative then '-' :: text else text

end Layout

end BoundSql.Number
