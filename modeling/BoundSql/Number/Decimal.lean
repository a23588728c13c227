import BoundSql.Number.Digits
import BoundSql.Number.Binary64

/-!
Decimal numerals: an optional sign, digits with an optional point, an optional
exponent. The numeral keeps the exact number; reading it as a float rounds once.
-/

namespace BoundSql.Number

/-- The number `significand * 10 ^ exponent` with a sign of its own. -/
structure Decimal where
  negative : Bool
  significand : Nat
  exponent : Int
  deriving DecidableEq

namespace Decimal

def toBinary64 (number : Decimal) : Binary64 :=
  .ofDecimal number.negative number.significand number.exponent

def exponentOf? : List Char → Option Int
  | [] => some 0
  | mark :: rest => if mark = 'e' || mark = 'E' then integerOf? rest else none

/-- Reads a whole text. Digits may be missing on one side of the point, not on both. -/
def ofText? (text : List Char) : Option Decimal :=
  let (negative, unsigned) := splitSign text
  let whole := unsigned.takeWhile Char.isDigit
  let afterWhole := unsigned.dropWhile Char.isDigit
  let (fraction, afterFraction) :=
    match afterWhole with
    | '.' :: rest => (rest.takeWhile Char.isDigit, rest.dropWhile Char.isDigit)
    | rest => ([], rest)
  if whole.isEmpty && fraction.isEmpty then none
  else
    (exponentOf? afterFraction).map fun exponent =>
      { negative
        significand := valueOf (whole ++ fraction)
        exponent := exponent - fraction.length }

example : ofText? "-1.5e3".toList = some ⟨true, 15, 2⟩ := by decide

example : ofText? ".".toList = none := by decide

end Decimal

/-! ## Floats in text

Besides numerals a float's text may be one of the words for infinity and for no
number at all, in any letter case. -/

def readFloat? (text : List Char) : Option Binary64 :=
  match Decimal.ofText? text with
  | some number => some number.toBinary64
  | none =>
      let (negative, word) := splitSign text
      let small := word.map Char.toLower
      if small = "inf".toList || small = "infinity".toList then some (.infinity negative)
      else if small = "nan".toList then some .nan
      else none

end BoundSql.Number
