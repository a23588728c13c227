import BoundSql.Json
import BoundSql.Number.Decimal
import BoundSql.Number.Shortest

/-!
Numerals inside a JSON text. A numeral without point and exponent is an integer if it
fits 64 bits, signed or not; every other numeral is a float, and so is minus zero.
-/

namespace BoundSql.Json

open Number

inductive Quantity where
  | integer (n : Int)
  | float (x : Binary64)
  deriving DecidableEq

def isWhole (numeral : List Char) : Bool :=
  numeral.all fun c => c != '.' && c != 'e' && c != 'E'

def floatOf? (numeral : List Char) : Option Binary64 :=
  match Decimal.ofText? numeral with
  | some number => if number.toBinary64.isFinite then some number.toBinary64 else none
  | none => none

def quantityOf? (numeral : List Char) : Option Quantity :=
  let asFloat := (floatOf? numeral).map .float
  if isWhole numeral && numeral != "-0".toList then
    match integerOf? numeral with
    | some n => if Int64.minValue.toInt ≤ n && n < UInt64.size then some (.integer n) else asFloat
    | none => none
  else asFloat

/-! ## Writing -/

/-- Digits around a point from `0.00001` up to sixteen of them, an exponent outside;
whole numbers keep a zero after the point, and of equally near decimals the even one is
taken. -/
def floatLayout : Layout :=
  { tie := .even, plainWindow := some (-5, 15), wholePoint := true, plusMark := true }

def ofInt (n : Int) : Json := .numeral (signedDigits n)

def ofNat (n : Nat) : Json := .numeral (digits n)

/-- A float as a numeral; what is not finite becomes null. -/
def ofFloat (x : Binary64) : Json :=
  if x.isFinite then .numeral (floatLayout.write x) else .null

end BoundSql.Json
