import BoundSql.Sql.Write

/-!
Bulk statements: many rows in one statement, with their values as literals. They are
meant for data that a program generates itself.
-/

namespace BoundSql.Sql

open Entity

/-! ## Literals -/

inductive Literal where
  | null
  | truth (b : Bool)
  | integer (n : Int64)
  | float (x : Binary64)
  | text (inside : String)

namespace Literal

def render : Literal → String
  | .null => "null"
  | .truth true => "1"
  | .truth false => "0"
  | .integer n => Value.intText n
  | .float x => Value.floatText x
  | .text inside => quoteText inside

/-- The literal of a value. Lists have none, and neither have floats that are not
finite. -/
def ofValue : Value → Except CompileError Literal
  | .null => .ok .null
  | .bool b => .ok (.truth b)
  | .int n => .ok (.integer n)
  | .float x =>
      if x.isFinite then .ok (.float x)
      else .error (.unsupported .insert ("non-finite float " ++ Value.floatText x))
  | .text s => .ok (.text s)
  | .dateTime moment => .ok (.text (Value.dateTime moment).display)
  | .uuid id => .ok (.text (Value.uuid id).display)
  | .list _ => .error (.unsupported .insert "list values cannot be written to a column")

end Literal

namespace Bulk

def literalFor (schema : Schema) (values : MemberValues) (member : String) :
    Except CompileError Literal :=
  match schema.column? member with
  | none => .error (.missingMemberValue member)
  | some column => do
      let value ← Write.valueOf values member
      let stored ← coerceFor column value
      Literal.ofValue stored

def literalsFor (schema : Schema) (columns : List Column) (values : MemberValues) :
    Except CompileError (List Literal) :=
  columns.mapM fun column => literalFor schema values column.member

def quotedNames (columns : List Column) : List String :=
  columns.map fun column => quoteIdentifier column.name

/-! ## Inserts -/

def renderTuple (literals : List Literal) : String :=
  "(" ++ ",".intercalate (literals.map Literal.render) ++ ")"

def renderInsert (table : String) (columns : List Column) (rows : List (List Literal)) : String :=
  "INSERT INTO " ++ quoteIdentifier table ++ " (" ++ ",".intercalate (quotedNames columns) ++
    ") VALUES " ++ ",".intercalate (rows.map renderTuple)

def insert (schema : Schema) (table : String) (rows : List MemberValues) :
    Except CompileError String := do
  let columns := schema.persisted
  if columns.isEmpty || rows.isEmpty then throw (.emptyStatement "INSERT")
  let literals ← rows.mapM (literalsFor schema columns)
  return renderInsert table columns literals

/-! ## Updates

The new values form a derived table, one SELECT for each row, which is joined with the
table on the key. -/

def renderSelect (columns : List Column) (literals : List Literal) : String :=
  "SELECT " ++ ",".intercalate
    ((literals.zip columns).map fun (literal, column) =>
      literal.render ++ " AS " ++ quoteIdentifier column.name)

def renderPair (column : Column) (operator : String) : String :=
  qualified "T1" column.name ++ operator ++ qualified "T2" column.name

def renderUpdate (table : String) (key : Column) (columns : List Column)
    (rows : List (List Literal)) : String :=
  "UPDATE " ++ quoteIdentifier table ++ " T1 JOIN (" ++
    " UNION ALL ".intercalate (rows.map (renderSelect (key :: columns))) ++ ") T2 ON " ++
    renderPair key " = " ++ " SET " ++
    ",".intercalate (columns.map fun column => renderPair column "=")

def update (schema : Schema) (table : String) (rows : List MemberValues) :
    Except CompileError String := do
  match schema.key? with
  | none => throw (.missingKeyColumn schema.entity)
  | some key =>
      let columns := schema.persisted
      if columns.isEmpty || rows.isEmpty then throw (.emptyStatement "UPDATE")
      let literals ← rows.mapM (literalsFor schema (key :: columns))
      return renderUpdate table key columns literals

end Bulk

end BoundSql.Sql
