import BoundSql.Value.Json

/-!
Values by name. The names are distinct and stand in increasing order.
-/

namespace BoundSql

abbrev NamedValues := List (String × Value)

namespace NamedValues

open Json

/-- Puts a value under a name. A value that is there already gives way. -/
def put (name : String) (value : Value) : NamedValues → NamedValues
  | [] => [(name, value)]
  | (other, old) :: rest =>
      if name = other then (name, value) :: rest
      else if name < other then (name, value) :: (other, old) :: rest
      else (other, old) :: put name value rest

theorem lookup_put (name : String) (value : Value) (values : NamedValues) :
    (put name value values).lookup name = some value := by
  induction values with
  | nil => simp [put]
  | cons head rest induction =>
      obtain ⟨other, old⟩ := head
      rw [put]
      split
      · simp
      · split
        · simp
        · rename_i different _
          rw [List.lookup_cons, beq_false_of_ne different]
          exact induction

theorem lookup_put_of_ne {name other : String} (different : other ≠ name) (value : Value)
    (values : NamedValues) : (put name value values).lookup other = values.lookup other := by
  induction values with
  | nil => rw [put, List.lookup_cons, beq_false_of_ne different]
  | cons head rest induction =>
      obtain ⟨first, old⟩ := head
      rw [put]
      split
      · rename_i same
        subst same
        rw [List.lookup_cons, List.lookup_cons, beq_false_of_ne different]
      · split
        · rw [List.lookup_cons, beq_false_of_ne different]
        · rw [List.lookup_cons, List.lookup_cons, induction]

/-- The values of an object. Of two values with one name the last counts. -/
def ofMembers? (budget : Nat) :
    List (List Char × Json) → NamedValues → Option NamedValues
  | [], values => some values
  | (inside, json) :: rest, values => do
      let name ← unquote? inside
      let value ← Value.ofJson? budget json
      ofMembers? budget rest (put name value values)

def ofJson? : (budget : Nat) → Json → Option NamedValues :=
  nested? fun budget json =>
    match json with
    | .object members => ofMembers? budget members []
    | _ => none

def toJson (values : NamedValues) : Json :=
  .object (values.map fun (name, value) => (escape name.toList, value.toJson))

end NamedValues

end BoundSql
