import BoundSql.Value

/-!
Comparing values. Order is partial: null is comparable with nothing, and neither are
values of different types, except that truth values count as 0 and 1 among integers and
integers are compared with floats after rounding to one.
-/

namespace BoundSql.Value

def intOf (b : Bool) : Int64 := if b then 1 else 0

def compareInt (a b : Int64) : Ordering := Ord.compare a.toInt b.toInt

def compare? : Value → Value → Option Ordering
  | .int a, .int b => some (compareInt a b)
  | .int a, .float b => (Binary64.ofInt a.toInt).compare? b
  | .float a, .int b => a.compare? (Binary64.ofInt b.toInt)
  | .float a, .float b => a.compare? b
  | .bool a, .bool b => some (compareInt (intOf a) (intOf b))
  | .bool a, .int b => some (compareInt (intOf a) b)
  | .int a, .bool b => some (compareInt a (intOf b))
  | .text a, .text b => some (Ord.compare a b)
  | .dateTime a, .dateTime b => some (a.compare b)
  | .uuid a, .uuid b => some (a.compare b)
  | _, _ => none

/-! ## Sameness

Two values are the same if they have one type and one content. Floats are compared as
numbers, so both zeros are the same and no number at all differs from itself. -/

mutual
def same : Value → Value → Bool
  | .null, .null => true
  | .bool a, .bool b => a == b
  | .int a, .int b => a == b
  | .float a, .float b => a.equals b
  | .text a, .text b => a == b
  | .list a, .list b => sameItems a b
  | .dateTime a, .dateTime b => a == b
  | .uuid a, .uuid b => a == b
  | _, _ => false

def sameItems : List Value → List Value → Bool
  | [], [] => true
  | a :: as, b :: bs => same a b && sameItems as bs
  | _, _ => false
end

end BoundSql.Value
