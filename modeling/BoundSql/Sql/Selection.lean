import BoundSql.Sql.Error
import BoundSql.Sql.Quote
import BoundSql.Expr

/-!
What a statement selects and in which order: rows of fields, aggregates over one
column, and sort keys. All of them name members; nothing is bound.
-/

namespace BoundSql.Sql

open Entity

def columnNamed (schema : Schema) (otherwise : CompileError) (expr : Expr) :
    Except CompileError Column :=
  match expr.member? with
  | some member => columnOf schema member
  | none => .error otherwise

/-! ## Ordering -/

inductive Direction where
  | ascending
  | descending
  deriving DecidableEq

def Direction.keyword : Direction → String
  | .ascending => "ASC"
  | .descending => "DESC"

structure SortKey where
  column : String
  direction : Direction

namespace SortKey

def render (key : SortKey) : String :=
  quoteIdentifier key.column ++ " " ++ key.direction.keyword

def compile (schema : Schema) (expr : Expr) (direction : Direction) :
    Except CompileError SortKey := do
  let column ← columnNamed schema (.unsupported .ordering expr.shape) expr
  return { column := column.name, direction }

end SortKey

/-! ## Fields -/

inductive Aggregate where
  | distinct
  | max
  | sum
  deriving DecidableEq

def Aggregate.function : Aggregate → String
  | .distinct => "DISTINCT"
  | .max => "MAX"
  | .sum => "SUM"

inductive Selection where
  | everything
  | columns (names : List String)
  | aggregate (function : Aggregate) (column : String)

namespace Selection

def render : Selection → String
  | .everything => "*"
  | .columns names => ",".intercalate (names.map quoteIdentifier)
  | .aggregate function column => function.function ++ "(" ++ quoteIdentifier column ++ ")"

def compileItem (schema : Schema) (item : Expr) : Except CompileError String := do
  let column ← columnNamed schema (.unsupported .projection item.shape) item
  return column.name

/-- A row of fields, or a single field. -/
def compile (schema : Schema) (expr : Expr) : Except CompileError Selection := do
  let items ←
    match expr with
    | .fields [] => throw (.unsupported .projection "empty projection")
    | .fields items => pure items
    | single => pure [single]
  let names ← items.mapM (compileItem schema)
  return .columns names

def compileAggregate (schema : Schema) (function : Aggregate) (expr : Expr) :
    Except CompileError Selection := do
  let detail := function.function ++ " needs a single member, found " ++ expr.shape
  let column ← columnNamed schema (.unsupported .projection detail) expr
  return .aggregate function column.name

end Selection

end BoundSql.Sql
