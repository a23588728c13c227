import BoundSql.Value
import BoundSql.Json.Decoder

/-!
Values in JSON. Dates and identifiers are written as strings; read, they are texts, and
the column they are meant for turns them back.
-/

namespace BoundSql.Value

open Json

mutual
def toJson : Value → Json
  | .null => .null
  | .bool b => .bool b
  | .int n => .ofInt n.toInt
  | .float x => .ofFloat x
  | .text s => .ofString s
  | .list items => .array (itemsToJson items)
  | .dateTime moment => .ofText moment.fullText
  | .uuid id => .ofText id.toText

def itemsToJson : List Value → List Json
  | [] => []
  | item :: rest => toJson item :: itemsToJson rest
end

/-- An integer that 64 bits do not hold with a sign is read as a float. -/
def ofQuantity : Quantity → Value
  | .integer n => if n ≤ Int64.maxValue.toInt then .int (Int64.ofInt n) else .float (.ofInt n)
  | .float x => .float x

def ofJson? (budget : Nat) : Json → Option Value
  | .null => some .null
  | .bool b => some (.bool b)
  | .numeral row => (quantityOf? row).map ofQuantity
  | .string inside => (unquote? inside).map .text
  | .array items =>
      match budget with
      | 0 => none
      | budget + 1 => (items.mapM (ofJson? budget)).map .list
  | .object _ => none

end BoundSql.Value
