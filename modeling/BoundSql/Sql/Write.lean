import BoundSql.Sql.Bindings
import BoundSql.Sql.Quote
import BoundSql.Expr

/-!
Writes: columns and what is written to them. An update may write a value, a column of
the same row or arithmetic over both; an insert writes values; a row of member values
writes every persisted column.
-/

namespace BoundSql.Sql

open Entity

inductive Term where
  | placeholder (name : String)
  | column (name : String)
  | compute (op : Arithmetic) (left right : Term)

namespace Term

def renderIn (nested : Bool) : Term → String
  | .placeholder name => name
  | .column name => quoteIdentifier name
  | .compute op left right =>
      let text := renderIn true left ++ " " ++ op.symbol ++ " " ++ renderIn true right
      if nested then "(" ++ text ++ ")" else text

def render (term : Term) : String := term.renderIn false

end Term

/-- Member values of one entity. Of two values for one member the first counts. -/
abbrev MemberValues := List (String × Value)

structure Write where
  column : String
  value : Term

namespace Write

def renderColumn (write : Write) : String := quoteIdentifier write.column

def renderValue (write : Write) : String := write.value.render

def render (write : Write) : String := write.renderColumn ++ "=" ++ write.renderValue

/-! ## Compiling -/

def bindingsOf (clause : Clause) : Expr → Except CompileError (List (String × Expr))
  | .assign bindings => .ok bindings
  | other =>
      .error (.unsupported clause ("expected a member initializer, found " ++ other.shape))

def targetOf (schema : Schema) (member : String) : Except CompileError Column := do
  let column ← columnOf schema member
  if column.isComputed || !column.isWritable then throw (.readOnlyMember member)
  return column

def bindStored (column : Column) (value : Value) : Compiler Write := do
  let stored ← MonadExcept.ofExcept (coerceFor column value)
  return { column := column.name, value := .placeholder (← Compiler.bind stored) }

/-- A term of an update. Its constants are bound as they are. -/
def compileTerm (schema : Schema) : Expr → Compiler Term
  | .unary .convert operand => compileTerm schema operand
  | .constant (.list _) =>
      throw (.unsupported .update "list value on the right side of an assignment")
  | .constant value => return .placeholder (← Compiler.bind value)
  | .member name => do
      let column ← MonadExcept.ofExcept (columnOf schema name)
      return .column column.name
  | .binary (.compute op) left right => do
      let left ← compileTerm schema left
      let right ← compileTerm schema right
      return .compute op left right
  | expr => throw (.unsupported .update expr.shape)

def compileUpdateItem (schema : Schema) (member : String) (value : Expr) : Compiler Write := do
  let column ← MonadExcept.ofExcept (targetOf schema member)
  match value.constant? with
  | some constant => bindStored column constant
  | none => return { column := column.name, value := ← compileTerm schema value }

def compileInsertItem (schema : Schema) (member : String) (value : Expr) : Compiler Write := do
  let column ← MonadExcept.ofExcept (targetOf schema member)
  match value.constant? with
  | some constant => bindStored column constant
  | none =>
      throw (.unsupported .insert
        ("value for \x60" ++ member ++ "\x60 must be a constant, found " ++ value.shape))

def compileEach (item : String → Expr → Compiler Write) :
    List (String × Expr) → Compiler (List Write)
  | [] => pure []
  | (member, value) :: rest => do
      let write ← item member value
      let writes ← compileEach item rest
      return write :: writes

def compileUpdate (schema : Schema) (expr : Expr) : Compiler (List Write) := do
  let bindings ← MonadExcept.ofExcept (bindingsOf .update expr)
  compileEach (compileUpdateItem schema) bindings

def compileInsert (schema : Schema) (expr : Expr) : Compiler (List Write) := do
  let bindings ← MonadExcept.ofExcept (bindingsOf .insert expr)
  compileEach (compileInsertItem schema) bindings

/-! ## Rows -/

def valueOf (values : MemberValues) (member : String) : Except CompileError Value :=
  match values.lookup member with
  | some value => .ok value
  | none => .error (.missingMemberValue member)

def compileColumns (values : MemberValues) : List Column → Compiler (List Write)
  | [] => pure []
  | column :: rest => do
      let value ← MonadExcept.ofExcept (valueOf values column.member)
      let write ← bindStored column value
      let writes ← compileColumns values rest
      return write :: writes

/-- Binds every persisted column of a row, in the order of the declaration. -/
def compileRow (schema : Schema) (values : MemberValues) : Compiler (List Write) :=
  compileColumns values schema.persisted

end Write

end BoundSql.Sql
