import BoundSql.Sql.Statement
import BoundSql.Settings

/-!
Drafts: a statement in the making. Each step compiles its expression at once and either
adds to the draft or fails; a draft is a value, so a step that fails leaves no trace.
`Draft.statement` puts the parts together as the kind of statement asks for.
-/

namespace BoundSql.Sql

open Entity

structure Draft where
  schema : Schema
  logStatements : Bool
  kind : StatementKind := .select
  explicitTable : Option String := none
  chosenTable : Option String := none
  conditions : List Condition := []
  ordering : List SortKey := []
  updates : List Write := []
  inserts : List Write := []
  selection : Selection := .everything
  paging : Option Paging := none
  bindings : Bindings

namespace Draft

def empty (schema : Schema) (settings : Settings) : Draft :=
  { schema, logStatements := settings.logStatements, bindings := .empty settings.sigil }

/-! ## Tables -/

/-- The table given by name, else the one chosen by number, else the default one. -/
def table (draft : Draft) : String :=
  (draft.explicitTable.or draft.chosenTable).getD draft.schema.defaultTable

def setTable (draft : Draft) (name : String) : Except CompileError Draft :=
  match checkTableName name with
  | .ok () => .ok { draft with explicitTable := some name }
  | .error e => .error (.schema e)

def setTableIndex (draft : Draft) (index : Nat) : Except CompileError Draft :=
  match draft.schema.table? index with
  | .ok name => .ok { draft with chosenTable := some name }
  | .error e => .error (.schema e)

/-! ## Clauses that bind values -/

def compile (draft : Draft) (compiler : Compiler α) (add : Draft → α → Draft) :
    Except CompileError Draft × List Notice :=
  match compiler.run draft.bindings with
  | (.ok clause, scratch) =>
      (.ok (add { draft with bindings := scratch.bindings } clause), scratch.notices)
  | (.error e, scratch) => (.error e, scratch.notices)

def addCondition (draft : Draft) (condition : Condition) : Draft :=
  { draft with conditions := draft.conditions ++ [condition] }

def addUpdates (draft : Draft) (writes : List Write) : Draft :=
  { draft with kind := .update, updates := draft.updates ++ writes }

def addInserts (draft : Draft) (writes : List Write) : Draft :=
  { draft with kind := .insert, inserts := draft.inserts ++ writes }

/-! ## Paging -/

def setTop (draft : Draft) (size : UInt64) : Except CompileError Draft :=
  if size = 0 then .error (.invalidPaging "top(0) selects nothing")
  else .ok { draft with paging := some (.top size) }

/-- Pages are numbered from 1. The offset of a page has to fit 64 bits. -/
def setRange (draft : Draft) (page size : UInt64) : Except CompileError Draft :=
  let which := "page " ++ wordText page ++ " of size " ++ wordText size
  let offset := (page.toNat - 1) * size.toNat
  if page = 0 || size = 0 then .error (.invalidPaging (which ++ " (both start at 1)"))
  else if offset < UInt64.size then
    .ok { draft with paging := some (.page (UInt64.ofNat offset) size) }
  else .error (.invalidPaging (which ++ " overflows the row offset"))

/-! ## Steps -/

inductive Step where
  | setTable (name : String)
  | setTableIndex (index : Nat)
  | setKind (kind : StatementKind)
  | filter (condition : Expr)
  | update (assignments : Expr)
  | updateRow (values : MemberValues)
  | insert (assignments : Expr)
  | insertRow (values : MemberValues)
  | order (key : Expr) (direction : Direction)
  | select (fields : Expr)
  | aggregate (function : Aggregate) (field : Expr)
  | top (size : UInt64)
  | range (page size : UInt64)

def apply (draft : Draft) : Step → Except CompileError Draft × List Notice
  | .setTable name => (draft.setTable name, [])
  | .setTableIndex index => (draft.setTableIndex index, [])
  | .setKind kind => (.ok { draft with kind }, [])
  | .filter condition => draft.compile (Condition.compile draft.schema condition) addCondition
  | .update assignments => draft.compile (Write.compileUpdate draft.schema assignments) addUpdates
  | .updateRow values => draft.compile (Write.compileRow draft.schema values) addUpdates
  | .insert assignments => draft.compile (Write.compileInsert draft.schema assignments) addInserts
  | .insertRow values => draft.compile (Write.compileRow draft.schema values) addInserts
  | .order key direction =>
      ((SortKey.compile draft.schema key direction).map fun key =>
        { draft with ordering := draft.ordering ++ [key] }, [])
  | .select fields =>
      ((Selection.compile draft.schema fields).map fun selection => { draft with selection }, [])
  | .aggregate function field =>
      ((Selection.compileAggregate draft.schema function field).map fun selection =>
        { draft with selection }, [])
  | .top size => (draft.setTop size, [])
  | .range page size => (draft.setRange page size, [])

def applyAll (draft : Draft) : List Step → Except CompileError Draft × List Notice
  | [] => (.ok draft, [])
  | step :: rest =>
      match draft.apply step with
      | (.error e, notices) => (.error e, notices)
      | (.ok draft, notices) =>
          let (outcome, more) := draft.applyAll rest
          (outcome, notices ++ more)

/-- Takes the steps in order and passes over those that fail. -/
def attempt (draft : Draft) : List Step → Draft
  | [] => draft
  | step :: rest =>
      match (draft.apply step).1 with
      | .error _ => draft.attempt rest
      | .ok draft => draft.attempt rest

/-! ## The statement -/

/-- The parts that the kind of statement uses; a write needs something to write. -/
def statement (draft : Draft) : Except CompileError Statement :=
  match draft.kind with
  | .select =>
      .ok (.select draft.selection draft.table draft.conditions draft.ordering draft.paging)
  | .count => .ok (.count draft.table draft.conditions)
  | .insert =>
      if draft.inserts.isEmpty then .error (.emptyStatement "INSERT")
      else .ok (.insert draft.table draft.inserts)
  | .update =>
      if draft.updates.isEmpty then .error (.emptyStatement "UPDATE")
      else .ok (.update draft.table draft.updates draft.conditions)
  | .delete => .ok (.delete draft.table draft.conditions)

def sql (draft : Draft) : Except CompileError String := draft.statement.map Statement.render

def sqlNotices (draft : Draft) : List Notice :=
  match draft.sql with
  | .ok sql =>
      if draft.logStatements then
        [⟨.debug, sql ++ " (" ++ SchemaError.number draft.bindings.size ++ " parameters)"⟩]
      else []
  | .error _ => []

end Draft

end BoundSql.Sql
