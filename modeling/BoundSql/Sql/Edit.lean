import BoundSql.Sql.Draft

/-!
Edits: drafts that are worked on in place. What an edit has written stays written if the edit
fails later on. So an edit compiles over a copy of the bindings, and it does everything that
may fail before it writes to the draft. The columns of an insert and the values for them are two
rows, each of which grows by itself.
-/

namespace BoundSql.Sql

open Entity

/-- A draft that is worked on, with what was reported meanwhile. What it is to insert lies beside
it. -/
structure Desk where
  sheet : Draft
  columns : List String
  values : List Term
  notices : List Notice

namespace Desk

def of (draft : Draft) (notices : List Notice := []) : Desk where
  sheet := { draft with inserts := [] }
  columns := draft.inserts.map (·.column)
  values := draft.inserts.map (·.value)
  notices := notices

def draft (desk : Desk) : Draft :=
  { desk.sheet with inserts := desk.columns.zipWith Write.mk desk.values }

end Desk

abbrev Edit := ExceptT CompileError (StateM Desk)

namespace Edit

def on (edit : Edit α) (desk : Desk) : Except CompileError α × Desk :=
  StateT.run (ExceptT.run edit) desk

def write (change : Draft → Draft) : Edit Unit :=
  modify fun desk => { desk with sheet := change desk.sheet }

def report (notices : List Notice) : Edit Unit :=
  modify fun desk => { desk with notices := desk.notices ++ notices }

def need (found : Draft → Except CompileError α) : Edit α := do
  let desk ← get
  MonadExcept.ofExcept (found desk.sheet)

/-- Compiles a clause over a copy of the bindings, which replaces them in the end. -/
def clause (compiler : Schema → Compiler α) : Edit α := do
  let desk ← get
  let (outcome, scratch) := (compiler desk.sheet.schema).run desk.sheet.bindings
  report scratch.notices
  let clause ← MonadExcept.ofExcept outcome
  write fun draft => { draft with bindings := scratch.bindings }
  return clause

def pushUpdates (writes : List Write) : Edit Unit := do
  write fun draft => { draft with kind := .update }
  write fun draft => { draft with updates := draft.updates ++ writes }

def pushInsert (next : Write) : Edit Unit := do
  modify fun desk => { desk with columns := desk.columns ++ [next.column] }
  modify fun desk => { desk with values := desk.values ++ [next.value] }

def pushInserts (writes : List Write) : Edit Unit := do
  write fun draft => { draft with kind := .insert }
  forM writes pushInsert

open Draft (Step)

def perform : Step → Edit Unit
  | .setTable name => do
      need fun _ => (checkTableName name).mapError .schema
      write fun draft => { draft with explicitTable := some name }
  | .setTableIndex index => do
      let table ← need fun draft => (draft.schema.table? index).mapError .schema
      write fun draft => { draft with chosenTable := some table }
  | .setKind kind => write fun draft => { draft with kind }
  | .filter condition => do
      let condition ← clause (Condition.compile · condition)
      write fun draft => { draft with conditions := draft.conditions ++ [condition] }
  | .update assignments => do pushUpdates (← clause (Write.compileUpdate · assignments))
  | .updateRow values => do pushUpdates (← clause (Write.compileRow · values))
  | .insert assignments => do pushInserts (← clause (Write.compileInsert · assignments))
  | .insertRow values => do pushInserts (← clause (Write.compileRow · values))
  | .order key direction => do
      let key ← need fun draft => SortKey.compile draft.schema key direction
      write fun draft => { draft with ordering := draft.ordering ++ [key] }
  | .select fields => do
      let selection ← need fun draft => Selection.compile draft.schema fields
      write fun draft => { draft with selection }
  | .aggregate function field => do
      let selection ← need fun draft => Selection.compileAggregate draft.schema function field
      write fun draft => { draft with selection }
  | .top size => do
      let paging ← need fun draft => (draft.setTop size).map Draft.paging
      write fun draft => { draft with paging }
  | .range page size => do
      let paging ← need fun draft => (draft.setRange page size).map Draft.paging
      write fun draft => { draft with paging }

/-- Takes steps one after the other at the same desk, whether or not they fail. -/
def performEach (desk : Desk) : List Step → List (Except CompileError Unit) × Desk
  | [] => ([], desk)
  | step :: rest =>
      let (outcome, next) := (perform step).on desk
      let (outcomes, last) := performEach next rest
      (outcome :: outcomes, last)

def performAll (draft : Draft) (steps : List Step) : List (Except CompileError Unit) × Draft :=
  let (outcomes, desk) := performEach (.of draft) steps
  (outcomes, desk.draft)

end Edit

end BoundSql.Sql
