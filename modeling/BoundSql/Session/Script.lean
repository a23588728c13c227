import BoundSql.Session.Exchange

/-!
Scripts: databases that give prepared answers, each kind of call from a row of its own.
Where a row has run out, nothing is found, nothing is written and a connection opens. A call
to an entity leaves a script as it is.
-/

namespace BoundSql.Session

structure Script where
  written : List (Except DatabaseError UInt64) := []
  rows : List (Except DatabaseError (List Row)) := []
  scalars : List (Except DatabaseError (Option Value)) := []
  connections : List (Except DatabaseError Unit) := []

namespace Script

def pop (fallback : α) : List (Except ε α) → Except ε α × List (Except ε α)
  | [] => (.ok fallback, [])
  | answer :: rest => (answer, rest)

def answer : (call : Call) → Script → call.Answer × Script
  | .execute _ _ _, script =>
      let (answer, rest) := pop 0 script.written
      (answer, { script with written := rest })
  | .query _ _, script =>
      let (answer, rest) := pop [] script.rows
      (answer, { script with rows := rest })
  | .scalar _ _ _, script =>
      let (answer, rest) := pop none script.scalars
      (answer, { script with scalars := rest })
  | .connect, script =>
      let (answer, rest) := pop () script.connections
      (answer, { script with connections := rest })
  | .assign _ _, script => (.ok (), script)

end Script

end BoundSql.Session
