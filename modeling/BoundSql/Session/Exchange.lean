import BoundSql.Notice
import BoundSql.Session.Row
import BoundSql.Sql.Bindings

/-!
Exchanges with a database and with the entity that the caller holds, as trees: each node is a
call, and what comes next depends on the answer. What an exchange does is thereby settled for
every answer there may be, before anything is called; `Exchange.run` follows one path through
the tree.
-/

namespace BoundSql.Session

open Sql

structure DatabaseError where
  message : String
  source : Option String := none

namespace DatabaseError

def causedBy (message : String) (cause : DatabaseError) : DatabaseError :=
  { message, source := some cause.message }

end DatabaseError

/-! ## Calls -/

/-- Where a statement runs: anywhere, or on the connection that is open. -/
inductive Channel where
  | shared
  | connection
  deriving DecidableEq

inductive Call where
  | execute (channel : Channel) (sql : String) (bindings : Bindings)
  | query (sql : String) (bindings : Bindings)
  | scalar (channel : Channel) (sql : String) (bindings : Bindings)
  | connect
  | assign (member : String) (value : Value)

namespace Call

/-- What a call yields: a number of rows written, the rows found, the first value of the
first row if there is one, or nothing but an open connection or a member assigned. -/
def Yield : Call → Type
  | .execute _ _ _ => UInt64
  | .query _ _ => List Row
  | .scalar _ _ _ => Option Value
  | .connect => Unit
  | .assign _ _ => Unit

def Failure : Call → Type
  | .execute _ _ _ => DatabaseError
  | .query _ _ => DatabaseError
  | .scalar _ _ _ => DatabaseError
  | .connect => DatabaseError
  | .assign _ _ => CoercionError

abbrev Answer (call : Call) : Type := Except call.Failure call.Yield

def reachesDatabase : Call → Bool
  | .assign _ _ => false
  | _ => true

end Call

/-! ## Exchanges -/

inductive Exchange (α : Type) where
  | done (result : α)
  | notify (notice : Notice) (next : Exchange α)
  | ask (call : Call) (next : call.Answer → Exchange α)

namespace Exchange

def bind : Exchange α → (α → Exchange β) → Exchange β
  | .done result, next => next result
  | .notify notice rest, next => .notify notice (rest.bind next)
  | .ask call rest, next => .ask call fun answer => (rest answer).bind next

instance : Monad Exchange where
  pure := .done
  bind := bind

theorem bind_done (exchange : Exchange α) : exchange.bind .done = exchange := by
  induction exchange with
  | done result => rfl
  | notify notice rest induction => rw [bind, induction]
  | ask call rest induction => rw [bind]; congr; funext answer; exact induction answer

theorem bind_assoc (exchange : Exchange α) (first : α → Exchange β) (second : β → Exchange γ) :
    (exchange.bind first).bind second =
      exchange.bind fun result => (first result).bind second := by
  induction exchange with
  | done result => rfl
  | notify notice rest induction => simp only [bind, induction]
  | ask call rest induction => simp only [bind, induction]

def notifyAll : List Notice → Exchange Unit
  | [] => .done ()
  | notice :: rest => .notify notice (notifyAll rest)

/-! ## Running -/

structure Transcript (σ α : Type) where
  result : α
  calls : List Call
  notices : List Notice
  state : σ

/-- Runs an exchange whose calls are answered from a state, which they may change. -/
def run (answer : (call : Call) → σ → call.Answer × σ) :
    Exchange α → σ → Transcript σ α
  | .done result, state => { result, calls := [], notices := [], state }
  | .notify notice next, state =>
      let rest := run answer next state
      { rest with notices := notice :: rest.notices }
  | .ask call next, state =>
      let (reply, state) := answer call state
      let rest := run answer (next reply) state
      { rest with calls := call :: rest.calls }

end Exchange

end BoundSql.Session
