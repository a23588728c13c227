import BoundSql.Entity.Definition
import BoundSql.Session.Record

/-!
Loose records: entities whose declaration is only known when the program runs. A loose
record keeps the members that it was given, as they were given; a member that is
assigned is converted to its host type first.
-/

namespace BoundSql.Session

open Entity

structure LooseMember where
  declared : MemberDeclaration
  host : HostType
  isOptional : Bool := false

structure LooseEntity where
  name : String
  tables : Tables
  members : List LooseMember

/-- A record of an entity with some of its members. -/
structure Loose (entity : LooseEntity) where
  values : Sql.MemberValues

namespace LooseMember

def name (member : LooseMember) : String := member.declared.name

def plain (name : String) (host : HostType) : LooseMember :=
  { declared := .plain name host.kind, host }

def key (member : LooseMember) : LooseMember :=
  { member with declared := member.declared.key }

def computed (member : LooseMember) : LooseMember :=
  { member with declared := member.declared.computed }

def readOnly (member : LooseMember) : LooseMember :=
  { member with declared := member.declared.readOnly }

def optional (member : LooseMember) : LooseMember := { member with isOptional := true }

def convert (member : LooseMember) (value : Value) : Except CoercionError Value :=
  if member.isOptional then member.host.convertOptional value else member.host.convert value

def ofRow (row : Row) (member : LooseMember) : Except RowError (String × Value) := do
  let value ←
    if member.isOptional then row.optionalMember member.host member.name
    else row.member member.host member.name
  return (member.name, value)

end LooseMember

namespace LooseEntity

def declaration (entity : LooseEntity) : Declaration :=
  (entity.members.map LooseMember.declared).foldl Declaration.declare
    ((Declaration.named entity.name).place (some entity.tables))

end LooseEntity

namespace Loose

variable {entity : LooseEntity}

/-- Gives a member a new value, which comes last. -/
def assign (record : Loose entity) (name : String) (value : Value) :
    Except CoercionError Unit × Loose entity :=
  match entity.members.find? (·.name == name) with
  | none => (.ok (), record)
  | some member =>
      match member.convert value with
      | .error cause => (.error cause, record)
      | .ok converted =>
          (.ok (), ⟨record.values.filter (·.1 != name) ++ [(name, converted)]⟩)

def ofRow (row : Row) : Except RowError (Loose entity) := do
  let stored := entity.members.filter fun member => !member.declared.isComputed
  return ⟨← stored.mapM (LooseMember.ofRow row)⟩

instance : Record (Loose entity) where
  declaration := entity.declaration
  values := values
  assign := assign
  ofRow := ofRow

end Loose

end BoundSql.Session
