import BoundSql.Text.Blank
import BoundSql.Number.Hexadecimal

/-!
Universally unique identifiers: 128 bits, written as 32 hexadecimal digits in five
groups.
-/

namespace BoundSql

open Number

structure Uuid where
  bits : BitVec 128
  deriving DecidableEq

namespace Uuid

def compare (x y : Uuid) : Ordering := Ord.compare x.bits.toNat y.bits.toNat

/-! ## Text -/

/-- Puts hyphens after the digits 8, 12, 16 and 20. -/
def hyphenate (row : List Char) : List Char :=
  row.take 8 ++ '-' :: (row.drop 8).take 4 ++ '-' :: (row.drop 12).take 4 ++
    '-' :: (row.drop 16).take 4 ++ '-' :: row.drop 20

def toText (id : Uuid) : List Char := hyphenate (hexDigits 32 id.bits.toNat)

def unhyphenate? (text : List Char) : Option (List Char) :=
  let row := text.filter (· ≠ '-')
  if row.length = 32 && hyphenate row == text then some row else none

def unwrap (text : List Char) : List Char :=
  let urn := "urn:uuid:".toList
  match text with
  | '\x7b' :: rest => if rest.getLast? = some '\x7d' then rest.dropLast else text
  | _ => if (text.take urn.length).map Char.toLower = urn then text.drop urn.length else text

/-- Reads 32 digits, or the hyphenated form, bare or wrapped. -/
def read? (text : List Char) : Option Uuid :=
  let row := if text.length = 32 then some text else unhyphenate? (unwrap text)
  (row.bind hexNumber?).map fun n => ⟨BitVec.ofNat 128 n⟩

def ofText? (text : List Char) : Option Uuid := read? (Text.trim text)

example :
    (ofText? "\x7b550E8400-e29b-41d4-a716-446655440000\x7d".toList).map toText =
      some "550e8400-e29b-41d4-a716-446655440000".toList := by
  decide

end Uuid

end BoundSql
