import BoundSql.Entity.Schema
import BoundSql.Value.Coercion

/-!
Why an expression, a row or a choice cannot become part of a statement.
-/

namespace BoundSql.Sql

inductive Clause where
  | condition
  | update
  | insert
  | ordering
  | projection
  deriving DecidableEq

def Clause.name : Clause → String
  | .condition => "WHERE"
  | .update => "UPDATE SET"
  | .insert => "INSERT"
  | .ordering => "ORDER BY"
  | .projection => "SELECT"

inductive CompileError where
  | unsupported (clause : Clause) (detail : String)
  | nonMemberOperand (shape : String)
  | unknownMember (entity member : String)
  | readOnlyMember (member : String)
  | nullComparison (column symbol : String)
  | coercion (member : String) (cause : CoercionError)
  | missingMemberValue (member : String)
  | invalidPaging (detail : String)
  | emptyStatement (keyword : String)
  | missingKeyColumn (entity : String)
  | parameterCollision (name : String)
  | schema (cause : Entity.SchemaError)

namespace CompileError

def message : CompileError → String
  | .unsupported clause detail =>
      "Unsupported expression in " ++ clause.name ++ " clause: " ++ detail
  | .nonMemberOperand shape =>
      "Left side of a comparison must be a member of the entity, found " ++ shape
  | .unknownMember entity member =>
      "Member \x60" ++ member ++ "\x60 is not declared on \x60" ++ entity ++ "\x60"
  | .readOnlyMember member =>
      "Member \x60" ++ member ++ "\x60 is computed or read-only and cannot be written"
  | .nullComparison column symbol =>
      "Cannot compare \x60" ++ column ++ "\x60 " ++ symbol ++
        " NULL (only = and <> accept NULL)"
  | .coercion member cause =>
      "Value for \x60" ++ member ++ "\x60 does not fit its column: " ++ cause.message
  | .missingMemberValue member => "Entity value has no member \x60" ++ member ++ "\x60"
  | .invalidPaging detail => "Invalid paging: " ++ detail
  | .emptyStatement keyword => keyword ++ " statement has nothing to write"
  | .missingKeyColumn entity =>
      "Entity \x60" ++ entity ++ "\x60 has no key column to match rows on"
  | .parameterCollision name => "Parameter " ++ name ++ " was bound twice in one statement"
  | .schema cause => cause.message

def unsupportedIn (clause : Clause) (detail context : String) : CompileError :=
  .unsupported clause (Entity.SchemaError.inContext detail context)

end CompileError

def columnOf (schema : Entity.Schema) (member : String) : Except CompileError Entity.Column :=
  match schema.column? member with
  | some column => .ok column
  | none => .error (.unknownMember schema.entity member)

def coerceFor (column : Entity.Column) (value : Value) : Except CompileError Value :=
  match value.coerce column.kind with
  | .ok stored => .ok stored
  | .error cause => .error (.coercion column.member cause)

theorem coerceFor_eq_ok_iff {column : Entity.Column} {value stored : Value} :
    coerceFor column value = .ok stored ↔ Value.stored? column.kind value = some stored := by
  rw [← Value.coerce_eq_ok_iff, coerceFor]
  split
  next known coerced => simp [coerced]
  next failed => simp [failed]

end BoundSql.Sql
