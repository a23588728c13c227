import BoundSql.Value.Coercion
import BoundSql.Value.Json

/-!
Host types: the types that members of an entity have in the program that uses it. A
host type takes a value if a column of its kind stores the value and, for integers, if
the integer is in range; null it takes only when it is optional.
-/

namespace BoundSql

inductive HostType where
  | integer (signed : Bool) (width : Nat)
  | truth
  | float
  | text
  | dateTime
  | uuid
  deriving DecidableEq

namespace HostType

def name : HostType → String
  | .integer signed width =>
      (if signed then "i" else "u") ++ String.ofList (Number.digits width)
  | .truth => "bool"
  | .float => "f64"
  | .text => "String"
  | .dateTime => "NaiveDateTime"
  | .uuid => "Uuid"

def all : List HostType :=
  [.integer true 8, .integer true 16, .integer true 32, .integer true 64,
   .integer false 8, .integer false 16, .integer false 32,
   .truth, .float, .text, .dateTime, .uuid]

def kind : HostType → Kind
  | .integer _ _ => .int
  | .truth => .bool
  | .float => .float
  | .text => .text
  | .dateTime => .dateTime
  | .uuid => .uuid

def low (signed : Bool) (width : Nat) : Int := if signed then -(Nat.pow 2 (width - 1)) else 0

/-- The first integer beyond a type. -/
def bound (signed : Bool) (width : Nat) : Int := Nat.pow 2 (if signed then width - 1 else width)

def admits : HostType → Value → Bool
  | .integer signed width, .int n => low signed width ≤ n.toInt && n.toInt < bound signed width
  | _, _ => true

def convert (host : HostType) (value : Value) : Except CoercionError Value :=
  match Value.coerce host.kind value with
  | .error e => .error e
  | .ok .null => .error (.unexpectedNull host.name)
  | .ok stored => if host.admits stored then .ok stored else .error (.mismatch host.kind stored)

def convertOptional (host : HostType) (value : Value) : Except CoercionError Value :=
  if value.isNull then .ok .null else convert host value

/-! ## Values that a program hands over -/

def readFloat? : Json → Option Binary64
  | .numeral row =>
      (Json.quantityOf? row).map fun
        | .integer n => .ofInt n
        | .float x => x
  | _ => none

def readSingle? : Json → Option Binary64
  | .numeral row =>
      (Json.quantityOf? row).map fun
        | .integer n => .singleOfInt n
        | .float x => x.toSingle
  | _ => none

/-- A value of the host type in JSON. Dates and identifiers have no such form. -/
def read? (host : HostType) (json : Json) : Option Value :=
  match host with
  | .integer signed width =>
      (json.integer? (low signed width) (bound signed width)).map fun n => .int (Int64.ofInt n)
  | .truth => json.bool?.map .bool
  | .float => (readFloat? json).map .float
  | .text => json.string?.map .text
  | .dateTime | .uuid => none

end HostType

end BoundSql
