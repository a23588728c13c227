import BoundSql.Session.Exchange
import BoundSql.Sql.Error

/-!
Why a session does not come to its result.
-/

namespace BoundSql.Session

inductive SessionError where
  | schema (cause : Entity.SchemaError)
  | compile (cause : Sql.CompileError)
  | database (cause : DatabaseError)
  | row (cause : RowError)
  | scalar (cause : CoercionError)
  | identity (member : String) (cause : CoercionError)

def SessionError.message : SessionError → String
  | .schema cause => cause.message
  | .compile cause => cause.message
  | .database cause => cause.message
  | .row cause => cause.message
  | .scalar cause => "Unexpected scalar result: " ++ cause.message
  | .identity member cause =>
      "Cannot store generated id in \x60" ++ member ++ "\x60: " ++ cause.message

def Call.error : (call : Call) → call.Failure → SessionError
  | .execute _ _ _, cause => .database cause
  | .query _ _, cause => .database cause
  | .scalar _ _ _, cause => .database cause
  | .connect, cause => .database cause
  | .assign member _, cause => .identity member cause

abbrev Attempt := ExceptT SessionError Exchange

namespace Attempt

def notifyAll (notices : List Notice) : Attempt Unit := ExceptT.lift (Exchange.notifyAll notices)

/-- Makes a call and goes on with what it yields. -/
def ask (call : Call) : Attempt call.Yield := do
  match ← ExceptT.lift (Exchange.ask call .done) with
  | .ok found => pure found
  | .error cause => throw (call.error cause)

def execute (channel : Channel) (sql : String) (bindings : Sql.Bindings) : Attempt UInt64 :=
  ask (.execute channel sql bindings)

def query (sql : String) (bindings : Sql.Bindings) : Attempt (List Row) :=
  ask (.query sql bindings)

def scalar (channel : Channel) (sql : String) (bindings : Sql.Bindings) :
    Attempt (Option Value) :=
  ask (.scalar channel sql bindings)

def connect : Attempt Unit := ask .connect

/-- Gives a member of the entity that the caller holds a new value. -/
def assign (member : String) (value : Value) : Attempt Unit := ask (.assign member value)

def orFail (wrap : ε → SessionError) : Except ε α → Attempt α
  | .ok result => pure result
  | .error cause => throw (wrap cause)

end Attempt

end BoundSql.Session
