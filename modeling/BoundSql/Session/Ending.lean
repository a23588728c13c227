import BoundSql.Session.Terminal

/-!
Links and endings as data. A link stands for steps on the draft of a chain, and so does an
ending before it settles what it sends; `Ending.steps` and `Ending.text` say what these are.
-/

namespace BoundSql.Session

open Entity Sql

/-! ## Links -/

inductive Link (E : Type) : Type 1 where
  | setTable (name : String)
  | setTableIndex (index : Nat)
  | filter (criterion : Criterion E)
  | find (criterion : Criterion E)
  | orderBy {V : Type} (field : Field E V)
  | orderByDescending {V : Type} (field : Field E V)
  | select (projection : Projection E)
  | top (size : UInt64)
  | range (page size : UInt64)

namespace Link

variable {E : Type}

def add (chain : Chain E) : Link E → Chain E
  | .setTable name => chain.setTable name
  | .setTableIndex index => chain.setTableIndex index
  | .filter criterion => chain.filter criterion
  | .find criterion => chain.find criterion
  | .orderBy field => chain.orderBy field
  | .orderByDescending field => chain.orderByDescending field
  | .select projection => chain.select projection
  | .top size => chain.top size
  | .range page size => chain.range page size

def steps : Link E → List Draft.Step
  | .setTable name => [.setTable name]
  | .setTableIndex index => [.setTableIndex index]
  | .filter criterion => [.filter criterion.expr]
  | .find criterion => [.filter criterion.expr, .top 1]
  | .orderBy field => [.order field.expr .ascending]
  | .orderByDescending field => [.order field.expr .descending]
  | .select projection => [.select projection.expr]
  | .top size => [.top size]
  | .range page size => [.range page size]

end Link

/-! ## Endings -/

inductive Ending (E : Type) : Type → Type 1 where
  | toList : Ending E (List E)
  | first : Ending E (Option E)
  | count : Ending E UInt64
  | max {V : Type} (field : Field E V) (host : HostType) : Ending E Value
  | sum {V : Type} (field : Field E V) (host : HostType) : Ending E Value
  | distinct {V : Type} (field : Field E V) (host : HostType) : Ending E (List Value)
  | insert (entity : E) : Ending E Bool
  | insertWith (assignments : Assignments E) : Ending E UInt64
  | update (criterion : Criterion E) (assignments : Assignments E) : Ending E UInt64
  | updateEntity (criterion : Criterion E) (entity : E) : Ending E UInt64
  | delete (criterion : Criterion E) : Ending E UInt64
  | bulkInsert (entities : List E) : Ending E UInt64
  | bulkUpdate (entities : List E) : Ending E UInt64

namespace Ending

variable {E : Type} [Record E]

def run (chain : Chain E) : Ending E α → Attempt α
  | .toList => chain.toList
  | .first => chain.first
  | .count => chain.count
  | .max field host => chain.max field host
  | .sum field host => chain.sum field host
  | .distinct field host => chain.distinct field host
  | .insert entity => chain.insert entity
  | .insertWith assignments => chain.insertWith assignments
  | .update criterion assignments => chain.update criterion assignments
  | .updateEntity criterion entity => chain.updateEntity criterion entity
  | .delete criterion => chain.delete criterion
  | .bulkInsert entities => chain.bulkInsert entities
  | .bulkUpdate entities => chain.bulkUpdate entities

def steps (draft : Draft) : Ending E α → List Draft.Step
  | .toList => [.setKind .select]
  | .first => (if draft.paging.isSome then [] else [.top 1]) ++ [.setKind .select]
  | .count => [.setKind .count]
  | .max field _ => [.aggregate .max field.expr, .setKind .select]
  | .sum field _ => [.aggregate .sum field.expr, .setKind .select]
  | .distinct field _ => [.aggregate .distinct field.expr, .setKind .select]
  | .insert entity => [.insertRow (Record.values entity)]
  | .insertWith assignments => [.insert assignments.expr]
  | .update criterion assignments => [.update assignments.expr, .filter criterion.expr]
  | .updateEntity criterion entity =>
      [.updateRow (Record.values entity), .filter criterion.expr]
  | .delete criterion => [.setKind .delete, .filter criterion.expr]
  | .bulkInsert _ => []
  | .bulkUpdate _ => []

def bulkText (draft : Draft) (render : Chain.BulkText) (entities : List E) :
    Except CompileError (Option String) :=
  if entities.isEmpty then .ok none
  else (render draft.schema draft.table (entities.map Record.values)).map some

/-- What an ending sends, if it has anything to send. -/
def text (draft : Draft) : Ending E α → Except CompileError (Option String)
  | .bulkInsert entities => bulkText draft Bulk.insert entities
  | .bulkUpdate entities => bulkText draft Bulk.update entities
  | _ => draft.sql.map some

end Ending

end BoundSql.Session
