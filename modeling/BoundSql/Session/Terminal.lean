import BoundSql.Session.Chain
import BoundSql.Sql.Bulk
import BoundSql.Value.Inspect

/-!
How a chain ends: it reads entities or a value, or it writes. Every ending first looks
for an error that the chain kept, then settles the text of the statement, and only then
calls the database; `Chain.checked` and `textOf` are these two steps.
-/

namespace BoundSql.Session

open Entity Sql

namespace Chain

variable {E : Type}

def checked (chain : Chain E) : Attempt Draft := do
  Attempt.notifyAll chain.pending
  match chain.error with
  | some error => throw (.compile error)
  | none => pure chain.draft

def textOf (draft : Draft) : Attempt String := do
  let sql ← Attempt.orFail .compile draft.sql
  Attempt.notifyAll draft.sqlNotices
  pure sql

/-! ## Reading entities -/

def toList [Record E] (chain : Chain E) : Attempt (List E) := do
  let draft := { ← chain.checked with kind := .select }
  let sql ← textOf draft
  let rows ← Attempt.query sql draft.bindings
  Attempt.orFail .row (rows.mapM Record.ofRow)

/-- The first entity of the window that a chain has set, or else of all. -/
def first [Record E] (chain : Chain E) : Attempt (Option E) := do
  let windowed := if chain.draft.paging.isSome then chain else chain.top 1
  let entities ← windowed.toList
  return entities.head?

/-! ## Reading values -/

/-- A count as a database gives it. Nothing counts as zero, and so does what is less. -/
def countOf : Option Value → Except CoercionError UInt64
  | none => .ok 0
  | some .null => .ok 0
  | some value => do
      match ← HostType.convert (.integer true 64) value with
      | .int n => return UInt64.ofNat n.toInt.toNat
      | _ => return 0

def count (chain : Chain E) : Attempt UInt64 := do
  let draft := { ← chain.checked with kind := .count }
  let sql ← textOf draft
  let found ← Attempt.scalar .shared sql draft.bindings
  Attempt.orFail .scalar (countOf found)

def aggregate (chain : Chain E) (function : Aggregate) (field : Field E V) (host : HostType) :
    Attempt Value := do
  let draft := { ← (chain.link (.aggregate function field.expr)).checked with kind := .select }
  let sql ← textOf draft
  let found ← Attempt.scalar .shared sql draft.bindings
  Attempt.orFail .scalar (host.convertOptional (found.getD .null))

def max (chain : Chain E) (field : Field E V) (host : HostType) : Attempt Value :=
  chain.aggregate .max field host

def sum (chain : Chain E) (field : Field E V) (host : HostType) : Attempt Value :=
  chain.aggregate .sum field host

def distinct (chain : Chain E) (field : Field E V) (host : HostType) : Attempt (List Value) := do
  let draft := { ← (chain.link (.aggregate .distinct field.expr)).checked with kind := .select }
  let sql ← textOf draft
  let rows ← Attempt.query sql draft.bindings
  Attempt.orFail .row (rows.mapM fun row => row.getAs host (columnName field.name))

/-! ## Writing -/

def write (chain : Chain E) : Attempt UInt64 := do
  let draft ← chain.checked
  let sql ← textOf draft
  Attempt.execute .shared sql draft.bindings

def insertWith (chain : Chain E) (assignments : Assignments E) : Attempt UInt64 :=
  (chain.link (.insert assignments.expr)).write

def update (chain : Chain E) (criterion : Criterion E) (assignments : Assignments E) :
    Attempt UInt64 :=
  ((chain.link (.update assignments.expr)).filter criterion).write

def updateEntity [Record E] (chain : Chain E) (criterion : Criterion E) (entity : E) :
    Attempt UInt64 :=
  ((chain.link (.updateRow (Record.values entity))).filter criterion).write

def delete (chain : Chain E) (criterion : Criterion E) : Attempt UInt64 :=
  ((chain.link (.setKind .delete)).filter criterion).write

/-! ## Inserting an entity

The key that the database made is asked for on the connection on which the entity was
inserted, and is given to the entity. -/

def noIdentityNotice (table : String) (affected : UInt64) (found : Option Value) : Notice :=
  ⟨.warn, "Insert into \x60" ++ table ++ "\x60 affected " ++ wordText affected ++
    " rows, identity " ++ Value.inspectOption found⟩

/-- The key that one inserted row got. -/
def identityOf (affected : UInt64) : Option Value → Option Value
  | some value => if !value.isNull && affected = 1 then some value else none
  | none => none

/-- Gives the entity the key that was found, if there is one, and says whether there was. -/
def storeIdentity (identity : Column) (table : String) (affected : UInt64)
    (found : Option Value) : Attempt Bool :=
  match identityOf affected found with
  | some key => do
      let stored ← Attempt.orFail (.identity identity.member) (key.coerce identity.kind)
      Attempt.assign identity.member stored
      return true
  | none => do
      Attempt.notifyAll [noIdentityNotice table affected found]
      return false

def insertWithIdentity (settings : Settings) (draft : Draft) (sql : String)
    (identity : Column) : Attempt Bool := do
  Attempt.connect
  let affected ← Attempt.execute .connection sql draft.bindings
  let found ← Attempt.scalar .connection settings.identityQuery (.empty settings.sigil)
  storeIdentity identity draft.table affected found

def insert [Record E] (chain : Chain E) (entity : E) : Attempt Bool := do
  let draft ← (chain.link (.insertRow (Record.values entity))).checked
  let sql ← textOf draft
  match draft.schema.identity? with
  | some identity => insertWithIdentity chain.settings draft sql identity
  | none =>
      let affected ← Attempt.execute .shared sql draft.bindings
      return 0 < affected

/-! ## Many entities at once -/

abbrev BulkText := Schema → (table : String) → List MemberValues → Except CompileError String

def bulkNotices (settings : Settings) (table sql : String) (rows : Nat) : List Notice :=
  ⟨.warn, "Bulk statement on \x60" ++ table ++ "\x60 with " ++ SchemaError.number rows ++
    " inline rows"⟩ ::
  (if settings.logStatements then [⟨.debug, sql⟩] else [])

/-- Sends one statement for all entities, on a connection of its own. -/
def bulk [Record E] (chain : Chain E) (render : BulkText) (entities : List E) :
    Attempt UInt64 := do
  let draft ← chain.checked
  if entities.isEmpty then return 0
  let sql ← Attempt.orFail .compile
    (render draft.schema draft.table (entities.map Record.values))
  Attempt.notifyAll (bulkNotices chain.settings draft.table sql entities.length)
  Attempt.connect
  Attempt.execute .connection sql (.empty chain.settings.sigil)

def bulkInsert [Record E] (chain : Chain E) (entities : List E) : Attempt UInt64 :=
  chain.bulk Bulk.insert entities

def bulkUpdate [Record E] (chain : Chain E) (entities : List E) : Attempt UInt64 :=
  chain.bulk Bulk.update entities

end Chain

end BoundSql.Session
