import BoundSql.Expr.Typed
import BoundSql.Session.Error
import BoundSql.Session.Record
import BoundSql.Sql.Draft

/-!
Chains: one statement on one type of entities, put together link by link. A chain keeps
the first error that one of its links meets; the links after it do nothing. What a chain
has to report waits in it until someone takes the notices.
-/

namespace BoundSql.Session

open Entity Sql

structure Chain (E : Type) where
  settings : Settings
  draft : Draft
  error : Option CompileError := none
  pending : List Notice := []

namespace Chain

variable {E : Type}

def of (schema : Schema) (settings : Settings) : Chain E :=
  { settings, draft := .empty schema settings }

def start [Record E] (settings : Settings) : Except SessionError (Chain E) :=
  match Schema.resolve (Record.declaration E) with
  | .ok schema => .ok (of schema settings)
  | .error cause => .error (.schema cause)

/-! ## Links -/

def deferral (error : CompileError) : Notice :=
  ⟨.debug, "Deferring query error: " ++ error.message⟩

/-- Adds a link, unless an earlier one failed. -/
def link (chain : Chain E) (step : Draft.Step) : Chain E :=
  match chain.error with
  | some _ => chain
  | none =>
      match chain.draft.apply step with
      | (.ok draft, notices) => { chain with draft, pending := chain.pending ++ notices }
      | (.error error, notices) =>
          { chain with
            error := some error
            pending := chain.pending ++ notices ++ [deferral error] }

def setTable (chain : Chain E) (name : String) : Chain E := chain.link (.setTable name)

def setTableIndex (chain : Chain E) (index : Nat) : Chain E := chain.link (.setTableIndex index)

def filter (chain : Chain E) (criterion : Criterion E) : Chain E :=
  chain.link (.filter criterion.expr)

def top (chain : Chain E) (size : UInt64) : Chain E := chain.link (.top size)

def range (chain : Chain E) (page size : UInt64) : Chain E := chain.link (.range page size)

def find (chain : Chain E) (criterion : Criterion E) : Chain E := (chain.filter criterion).top 1

def orderBy (chain : Chain E) (field : Field E V) : Chain E :=
  chain.link (.order field.expr .ascending)

def orderByDescending (chain : Chain E) (field : Field E V) : Chain E :=
  chain.link (.order field.expr .descending)

def select (chain : Chain E) (projection : Projection E) : Chain E :=
  chain.link (.select projection.expr)

theorem link_of_error {chain : Chain E} {error : CompileError}
    (failed : chain.error = some error) (step : Draft.Step) : chain.link step = chain := by
  rw [link, failed]

/-! ## What a chain would send -/

def sql (chain : Chain E) : Except CompileError String :=
  match chain.error with
  | some error => .error error
  | none => chain.draft.sql

def sqlNotices (chain : Chain E) : List Notice :=
  match chain.error with
  | some _ => []
  | none => chain.draft.sqlNotices

/-- Takes the notices out of a chain. -/
def handOver (chain : Chain E) : List Notice × Chain E :=
  (chain.pending, { chain with pending := [] })

end Chain

end BoundSql.Session
