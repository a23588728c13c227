import BoundSql.Entity.Schema

/-!
The registry of resolved entities. A schema is derived when an entity type is first
asked for and kept from then on; whoever comes second gets what the first one stored,
and an entity that cannot be resolved leaves nothing behind.
-/

namespace BoundSql.Entity

structure Registry where
  entries : List (String × Schema) := []

namespace Registry

def find? (registry : Registry) (type : String) : Option Schema := registry.entries.lookup type

/-- Stores a schema unless the type has one, and gives the one that is stored. -/
def keep (registry : Registry) (type : String) (schema : Schema) : Registry × Schema :=
  match registry.find? type with
  | some stored => (registry, stored)
  | none => ({ entries := registry.entries ++ [(type, schema)] }, schema)

def resolve (registry : Registry) (type : String) (declaration : Declaration) :
    Registry × Except SchemaError Schema :=
  match registry.find? type with
  | some stored => (registry, .ok stored)
  | none =>
      match Schema.resolve declaration with
      | .error e => (registry, .error e)
      | .ok schema =>
          let (registry, stored) := registry.keep type schema
          (registry, .ok stored)

end Registry

end BoundSql.Entity
