import BoundSql.Entity.Schema
import BoundSql.Session.Exchange
import BoundSql.Sql.Write

/-!
Records: the types that a program keeps the entities of one table in.
-/

namespace BoundSql.Session

class Record (E : Type) where
  declaration : Entity.Declaration
  /-- The values of the members, by name. -/
  values : E → Sql.MemberValues
  /-- Gives a member a new value. The entity is there afterwards even if this fails. -/
  assign : E → (member : String) → Value → Except CoercionError Unit × E
  ofRow : Row → Except RowError E

/-- Answers the calls to an entity from the entity, and those to a database from the database. -/
def Record.answer [Record E] (database : (call : Call) → σ → call.Answer × σ) :
    (call : Call) → σ × E → call.Answer × (σ × E)
  | .assign member value, (store, entity) =>
      ((Record.assign entity member value).1, store, (Record.assign entity member value).2)
  | call, (store, entity) => ((database call store).1, (database call store).2, entity)

end BoundSql.Session
