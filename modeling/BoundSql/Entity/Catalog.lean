import BoundSql.Entity.Definition
import BoundSql.Entity.Schema
import BoundSql.Notice

/-!
Catalogs: the schemas of several entities, found by name.
-/

namespace BoundSql.Entity

structure Catalog where
  schemas : List (String × Schema) := []

namespace Catalog

def size (catalog : Catalog) : Nat := catalog.schemas.length

/-- Resolves definitions after those that `catalog` holds; no name may come again. -/
def extend (catalog : Catalog) : List Definition → Except SchemaError Catalog
  | [] => .ok catalog
  | definition :: rest => do
      let schema ← Schema.resolve definition.declaration
      if (catalog.schemas.lookup definition.name).isSome then
        .error (.definedTwice definition.name)
      else
        extend { schemas := catalog.schemas ++ [(definition.name, schema)] } rest

def ofDefinitions (definitions : List Definition) : Except SchemaError Catalog :=
  extend {} definitions

def loadedNotice (catalog : Catalog) : Notice :=
  ⟨.info, "Loaded " ++ SchemaError.number catalog.size ++ " entity definitions"⟩

def find (catalog : Catalog) (name : String) : Except SchemaError Schema :=
  match catalog.schemas.lookup name with
  | some schema => .ok schema
  | none => .error (.unknownEntity name)

def names (catalog : Catalog) : List String :=
  (catalog.schemas.map Prod.fst).mergeSort fun a b => decide (a ≤ b)

end Catalog

end BoundSql.Entity
