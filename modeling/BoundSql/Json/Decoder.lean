import BoundSql.Json.Text
import BoundSql.Json.Numeral

/-!
Taking JSON trees apart. A record may be written as an object or as an array of its
fields in order; unknown members of an object are passed over unless the record is
strict, and no known member may be given twice. A nested tree costs its reader one
step of a budget for each array or object around it.
-/

namespace BoundSql.Json

def nestingLimit : Nat := 127

/-! ## Leaves -/

def string? : Json → Option String
  | .string inside => unquote? inside
  | _ => none

def bool? : Json → Option Bool
  | .bool value => some value
  | _ => none

def integer? (low bound : Int) : Json → Option Int
  | .numeral text =>
      match quantityOf? text with
      | some (.integer n) => if low ≤ n && n < bound then some n else none
      | _ => none
  | _ => none

def word? (json : Json) : Option UInt64 :=
  (integer? 0 UInt64.size json).map fun n => UInt64.ofNat n.toNat

/-! ## Arrays and names -/

def listOf? (decode : Json → Option α) : Json → Option (List α)
  | .array items => items.mapM decode
  | _ => none

def orNull? (decode : Json → Option α) : Json → Option (Option α)
  | .null => some none
  | json => (decode json).map some

def variant? : Json → Option (String × Json)
  | .object [(name, value)] => (unquote? name).map fun name => (name, value)
  | _ => none

/-- A name from a table, either as a string or as an object that gives it null. -/
def nameFrom? (table : List (String × α)) (budget : Nat) : Json → Option α
  | .object members =>
      if budget = 0 then none
      else
        match variant? (.object members) with
        | some (name, .null) => table.lookup name
        | _ => none
  | json => (string? json).bind fun name => table.lookup name

/-! ## Records -/

/-- The members of an object by name, in the order of `names`. -/
def gather? (names : List String) (strict : Bool) :
    List (List Char × Json) → Option (List (Option Json))
  | [] => some (names.map fun _ => none)
  | (inside, value) :: rest => do
      let name ← unquote? inside
      let found ← gather? names strict rest
      match names.idxOf? name with
      | none => if strict then none else some found
      | some index =>
          match found[index]? with
          | some none => some (found.set index (some value))
          | _ => none

def fields? (names : List String) (strict : Bool) : Json → Option (List (Option Json))
  | .object members => gather? names strict members
  | .array items =>
      if items.length ≤ names.length then
        some (items.map some ++ List.replicate (names.length - items.length) none)
      else none
  | _ => none

def required? (decode : Json → Option α) : Option Json → Option α
  | some json => decode json
  | none => none

def defaulted? (fallback : α) (decode : Json → Option α) : Option Json → Option α
  | some json => decode json
  | none => some fallback

def optional? (decode : Json → Option α) : Option Json → Option (Option α)
  | some json => orNull? decode json
  | none => some none

def nested? (decode : Nat → Json → Option α) : Nat → Json → Option α
  | 0, _ => none
  | budget + 1, json => decode budget json

end BoundSql.Json
