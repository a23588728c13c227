import BoundSql.Sql.Draft
import BoundSql.Expr.Json
import BoundSql.Json.Reader
import BoundSql.Value.Named

/-!
Requests: one statement described in JSON. A request is a row of steps on an empty
draft; `Request.steps` says which ones and in which order.
-/

namespace BoundSql.Sql

open Json Entity

structure OrderItem where
  member : String
  direction : Direction := .ascending

structure Request where
  kind : StatementKind := .select
  table : Option String := none
  tableIndex : Option Nat := none
  filter : List Expr := []
  assignments : Option Expr := none
  values : Option NamedValues := none
  orderBy : List OrderItem := []
  projection : Option Expr := none
  aggregate : Option (Aggregate × String) := none
  top : Option UInt64 := none
  page : Option (UInt64 × UInt64) := none

/-! ## Names -/

namespace StatementKind

def tag : StatementKind → String
  | .select => "select"
  | .insert => "insert"
  | .update => "update"
  | .delete => "delete"
  | .count => "count"

def table : List (String × StatementKind) :=
  [.select, .insert, .update, .delete, .count].map fun kind => (kind.tag, kind)

end StatementKind

namespace Direction

def tag : Direction → String
  | .ascending => "asc"
  | .descending => "desc"

def table : List (String × Direction) :=
  [.ascending, .descending].map fun direction => (direction.tag, direction)

end Direction

namespace Aggregate

def tag : Aggregate → String
  | .distinct => "distinct"
  | .max => "max"
  | .sum => "sum"

def table : List (String × Aggregate) :=
  [.distinct, .max, .sum].map fun function => (function.tag, function)

end Aggregate

namespace Request

/-! ## Reading -/

def orderItemOfJson? : (budget : Nat) → Json → Option OrderItem :=
  nested? fun budget json => do
    match ← fields? ["member", "direction"] false json with
    | [member, direction] =>
        let member ← required? string? member
        let direction ← defaulted? .ascending (nameFrom? Direction.table budget) direction
        return { member, direction }
    | _ => none

def aggregateOfJson? : (budget : Nat) → Json → Option (Aggregate × String) :=
  nested? fun budget json => do
    match ← fields? ["function", "member"] false json with
    | [function, member] =>
        let function ← required? (nameFrom? Aggregate.table budget) function
        let member ← required? string? member
        return (function, member)
    | _ => none

def pageOfJson? : (budget : Nat) → Json → Option (UInt64 × UInt64) :=
  nested? fun _ json => do
    match ← fields? ["page", "size"] false json with
    | [page, size] =>
        let page ← required? word? page
        let size ← required? word? size
        return (page, size)
    | _ => none

def fieldNames : List String :=
  ["kind", "table", "table_index", "filter", "assignments", "values", "order_by",
   "projection", "aggregate", "top", "page"]

def ofJson? : (budget : Nat) → Json → Option Request :=
  nested? fun budget json => do
    match ← fields? fieldNames true json with
    | [kind, table, tableIndex, filter, assignments, values, orderBy, projection, aggregate,
       top, page] =>
        let kind ← defaulted? .select (nameFrom? StatementKind.table budget) kind
        let table ← optional? string? table
        let tableIndex ← optional? word? tableIndex
        let filter ← defaulted? []
          (nested? (fun budget => listOf? (Expr.ofJson? budget)) budget) filter
        let assignments ← optional? (Expr.ofJson? budget) assignments
        let values ← optional? (NamedValues.ofJson? budget) values
        let orderBy ← defaulted? []
          (nested? (fun budget => listOf? (orderItemOfJson? budget)) budget) orderBy
        let projection ← optional? (Expr.ofJson? budget) projection
        let aggregate ← optional? (aggregateOfJson? budget) aggregate
        let top ← optional? word? top
        let page ← optional? (pageOfJson? budget) page
        return { kind, table, tableIndex := tableIndex.map UInt64.toNat, filter, assignments,
                 values, orderBy, projection, aggregate, top, page }
    | _ => none

def ofText? (text : String) : Option Request := (read? text.toList).bind (ofJson? nestingLimit)

/-! ## Writing -/

def orNull (toJson : α → Json) : Option α → Json
  | some a => toJson a
  | none => .null

def wordToJson (n : UInt64) : Json := .ofNat n.toNat

def toJson (request : Request) : Json :=
  Expr.record
    [("kind", .ofString request.kind.tag),
     ("table", orNull .ofString request.table),
     ("table_index", orNull .ofNat request.tableIndex),
     ("filter", .array (request.filter.map Expr.toJson)),
     ("assignments", orNull Expr.toJson request.assignments),
     ("values", orNull NamedValues.toJson request.values),
     ("order_by", .array (request.orderBy.map fun item =>
       Expr.record
         [("member", .ofString item.member), ("direction", .ofString item.direction.tag)])),
     ("projection", orNull Expr.toJson request.projection),
     ("aggregate", request.aggregate |> orNull fun (function, member) =>
       Expr.record [("function", .ofString function.tag), ("member", .ofString member)]),
     ("top", orNull wordToJson request.top),
     ("page", request.page |> orNull fun (page, size) =>
       Expr.record [("page", wordToJson page), ("size", wordToJson size)])]

/-! ## Rendering -/

open Draft

/-- What a request writes: assignments, else a row of values, else nothing. -/
def writeSteps (request : Request) : List Step :=
  match request.kind, request.assignments, request.values with
  | .insert, some expr, _ => [.insert expr]
  | .insert, none, some values => [.insertRow values]
  | .update, some expr, _ => [.update expr]
  | .update, none, some values => [.updateRow values]
  | kind, _, _ => [.setKind kind]

def steps (request : Request) : List Step :=
  request.tableIndex.toList.map .setTableIndex ++
  request.table.toList.map .setTable ++
  request.writeSteps ++
  request.filter.map .filter ++
  (request.orderBy.map fun item => .order (.member item.member) item.direction) ++
  request.projection.toList.map .select ++
  (request.aggregate.toList.map fun (function, member) => .aggregate function (.member member)) ++
  request.top.toList.map .top ++
  request.page.toList.map fun (page, size) => .range page size

def draft (request : Request) (schema : Schema) (settings : Settings) :
    Except CompileError Draft × List Notice :=
  (Draft.empty schema settings).applyAll request.steps

structure Rendered where
  sql : String
  bindings : Bindings

def render (request : Request) (schema : Schema) (settings : Settings) :
    Except CompileError Rendered × List Notice :=
  match request.draft schema settings with
  | (.error e, notices) => (.error e, notices)
  | (.ok draft, notices) =>
      (draft.sql.map fun sql => { sql, bindings := draft.bindings },
       notices ++ draft.sqlNotices)

def Rendered.toJson (rendered : Rendered) : Json :=
  Expr.record [("sql", .ofString rendered.sql), ("parameters", rendered.bindings.toJson)]

end Request

end BoundSql.Sql
