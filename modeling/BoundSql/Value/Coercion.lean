import BoundSql.Value
import BoundSql.Number.Decimal
import BoundSql.Calendar.Reader

/-!
Coercion: the form of a value that a column of some kind stores. Null passes every
column, lists pass none, and a value of the kind itself is left as it is.
-/

namespace BoundSql

inductive CoercionError where
  | mismatch (expected : Kind) (value : Value)
  | unexpectedNull (host : String)

namespace CoercionError

def message : CoercionError → String
  | .mismatch expected value =>
      "Cannot convert " ++ value.typeName ++ " value \x60" ++ value.display ++ "\x60 to " ++
        expected.name
  | .unexpectedNull host => "Unexpected NULL for non-optional " ++ host

end CoercionError

namespace Value

open Text

/-! ## Readings of a text -/

def boolOfText? (s : String) : Option Bool :=
  let small := s.toList.map Char.toLower
  if small = "true".toList || small = ['1'] then some true
  else if small = "false".toList || small = ['0'] then some false
  else none

def int64? (n : Int) : Option Int64 :=
  if Int64.minValue.toInt ≤ n && n ≤ Int64.maxValue.toInt then some (Int64.ofInt n) else none

def intOfText? (s : String) : Option Int64 :=
  (Number.integerOf? (trim s.toList)).bind int64?

def floatOfText? (s : String) : Option Binary64 := Number.readFloat? (trim s.toList)

/-! ## Storing -/

/-- The form of a value in a column of the given kind, if there is one. -/
def stored? : Kind → Value → Option Value
  | _, .null => some .null
  | .bool, .bool b => some (.bool b)
  | .bool, .int n => if n = 0 then some (.bool false) else if n = 1 then some (.bool true) else none
  | .bool, .text s => (boolOfText? s).map .bool
  | .int, .int n => some (.int n)
  | .int, .bool b => some (.int (if b then 1 else 0))
  | .int, .float x => (x.toInt?.bind int64?).map .int
  | .int, .text s => (intOfText? s).map .int
  | .float, .float x => some (.float x)
  | .float, .int n => some (.float (.ofInt n.toInt))
  | .float, .text s => (floatOfText? s).map .float
  | .text, .text s => some (.text s)
  | .text, .bool b => some (.text (boolText b))
  | .text, .int n => some (.text (intText n))
  | .text, .float x => some (.text (floatText x))
  | .text, .uuid id => some (.text (String.ofList id.toText))
  | .dateTime, .dateTime moment => some (.dateTime moment)
  | .dateTime, .text s => (DateTime.ofText? s.toList).map .dateTime
  | .uuid, .uuid id => some (.uuid id)
  | .uuid, .text s => (Uuid.ofText? s.toList).map .uuid
  | _, _ => none

def coerce (kind : Kind) (value : Value) : Except CoercionError Value :=
  match stored? kind value with
  | some stored => .ok stored
  | none => .error (.mismatch kind value)

theorem coerce_null (kind : Kind) : coerce kind .null = .ok .null := by
  cases kind <;> rfl

theorem coerce_eq_ok_iff {kind : Kind} {value stored : Value} :
    coerce kind value = .ok stored ↔ stored? kind value = some stored := by
  unfold coerce
  cases stored? kind value <;> simp

theorem null_or_kind_of_stored? {kind : Kind} {value stored : Value}
    (stores : stored? kind value = some stored) :
    value = .null ∧ stored = .null ∨ value ≠ .null ∧ stored.kind? = some kind := by
  unfold stored? at stores
  split at stores
  case h_3 n =>
      split at stores
      next =>
          cases stores
          exact .inr ⟨nofun, rfl⟩
      next =>
          split at stores
          next =>
              cases stores
              exact .inr ⟨nofun, rfl⟩
          next => contradiction
  all_goals
    first
    | contradiction
    | (rcases Option.map_eq_some_iff.mp stores with ⟨read, _, rfl⟩; exact .inr ⟨nofun, rfl⟩)
    | (cases stores; first | exact .inl ⟨rfl, rfl⟩ | exact .inr ⟨nofun, rfl⟩)

theorem kind_of_stored? {kind : Kind} {value stored : Value}
    (stores : stored? kind value = some stored) :
    stored = .null ∨ stored.kind? = some kind := by
  rcases null_or_kind_of_stored? stores with ⟨-, null⟩ | ⟨-, own⟩
  · exact .inl null
  · exact .inr own

end Value

end BoundSql
