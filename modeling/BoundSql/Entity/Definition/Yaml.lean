import BoundSql.Entity.Catalog
import BoundSql.Yaml.Decoder
import BoundSql.Yaml.Reader

/-!
Definitions in YAML, as catalog files hold them.
-/

namespace BoundSql.Entity

open Yaml

def ColumnDefinition.ofYaml? (tree : Yaml) : Option ColumnDefinition := do
  match ← fields? fieldNames tree with
  | [member, kind, key, computed, readOnly] =>
      let member ← required? string? member
      let kind ← required? (fun tree => (string? tree).bind (kindTable.lookup ·)) kind
      let isKey ← defaulted? false bool? key
      let isComputed ← defaulted? false bool? computed
      let isReadOnly ← defaulted? false bool? readOnly
      return { member, kind, isKey, isComputed, isReadOnly }
  | _ => none

/-- One table or several. A scalar that denotes anything but a text names none. -/
def Tables.ofYaml? : Yaml → Option Tables
  | .sequence items => (items.mapM text?).map .several
  | tree => (text? tree).map .single

namespace Definition

def ofYaml? (tree : Yaml) : Option Definition := do
  match ← fields? fieldNames tree with
  | [name, tables, columns] =>
      let name ← required? string? name
      let tables ← optional? Tables.ofYaml? tables
      let columns ← defaulted? [] (listOf? ColumnDefinition.ofYaml?) columns
      return { name, tables, columns }
  | _ => none

def listOfYaml? (document : Yaml) : Option (List Definition) := do
  match ← fields? ["entities"] document with
  | [entities] => required? (listOf? ofYaml?) entities
  | _ => none

end Definition

namespace Catalog

def ofFile (text : String) : Except SchemaError Catalog :=
  match (Yaml.read? text.toList).bind Definition.listOfYaml? with
  | some definitions => ofDefinitions definitions
  | none => .error .malformedCatalog

end Catalog

end BoundSql.Entity
