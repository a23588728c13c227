/-!
Decimal digits of natural numbers: printing, printing to a width, and reading.
-/

namespace BoundSql.Number

def digits (n : Nat) : List Char := Nat.toDigits 10 n

def padded (width n : Nat) : List Char :=
  List.replicate (width - (digits n).length) '0' ++ digits n

def signedDigits (n : Int) : List Char :=
  if n < 0 then '-' :: digits n.natAbs else digits n.natAbs

def digitValue (c : Char) : Nat := c.toNat - '0'.toNat

def valueOf (row : List Char) : Nat :=
  row.foldl (fun total c => 10 * total + digitValue c) 0

example : valueOf "0042".toList = 42 := by decide

example : padded 4 44 = "0044".toList := by decide

/-! ## Signs -/

/-- Splits an optional sign off; true for a minus. -/
def splitSign : List Char → Bool × List Char
  | '-' :: rest => (true, rest)
  | '+' :: rest => (false, rest)
  | text => (false, text)

/-- The integer that a text denotes: an optional sign, then one digit or more. -/
def integerOf? (text : List Char) : Option Int :=
  let (negative, row) := splitSign text
  if row.isEmpty || !row.all Char.isDigit then none
  else some (if negative then -(valueOf row : Int) else valueOf row)

example : integerOf? "-007".toList = some (-7) := by decide

example : integerOf? "+".toList = none := by decide

end BoundSql.Number
