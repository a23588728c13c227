import BoundSql.Entity.Declaration
import BoundSql.Json.Decoder

/-!
Definitions: entities as a catalog file describes them. A definition is read from the file as it
stands there; `Definition.declaration` then declares what it describes.
-/

namespace BoundSql.Entity

open Json

structure ColumnDefinition where
  member : String
  kind : Kind
  isKey : Bool := false
  isComputed : Bool := false
  isReadOnly : Bool := false

inductive Tables where
  | single (name : String)
  | several (names : List String)

structure Definition where
  name : String
  tables : Option Tables := none
  columns : List ColumnDefinition := []

/-! ## Declaring what is defined -/

def ColumnDefinition.declaration (column : ColumnDefinition) : MemberDeclaration := Id.run do
  let mut member := MemberDeclaration.plain column.member column.kind
  if column.isKey then
    member := member.key
  if column.isComputed then
    member := member.computed
  if column.isReadOnly then
    member := member.readOnly
  return member

def Declaration.place (declaration : Declaration) : Option Tables → Declaration
  | some (.single table) => declaration.inTable table
  | some (.several tables) => declaration.inTables tables
  | none => declaration

def Definition.declaration (definition : Definition) : Declaration := Id.run do
  let mut declaration := (Declaration.named definition.name).place definition.tables
  for column in definition.columns do
    declaration := declaration.declare column.declaration
  return declaration

/-! ## Reading from JSON -/

def kindTable : List (String × Kind) := Kind.all.map fun kind => (kind.tag, kind)

namespace ColumnDefinition

def fieldNames : List String := ["member", "kind", "key", "computed", "read_only"]

def ofJson? : (budget : Nat) → Json → Option ColumnDefinition :=
  nested? fun budget json => do
    match ← fields? fieldNames false json with
    | [member, kind, key, computed, readOnly] =>
        let member ← required? string? member
        let kind ← required? (nameFrom? kindTable budget) kind
        let isKey ← defaulted? false bool? key
        let isComputed ← defaulted? false bool? computed
        let isReadOnly ← defaulted? false bool? readOnly
        return { member, kind, isKey, isComputed, isReadOnly }
    | _ => none

end ColumnDefinition

def Tables.ofJson? (budget : Nat) : Json → Option Tables
  | .string inside => (unquote? inside).map .single
  | .array items => (nested? (fun _ => listOf? string?) budget (.array items)).map .several
  | _ => none

namespace Definition

def fieldNames : List String := ["name", "table", "columns"]

def ofJson? : (budget : Nat) → Json → Option Definition :=
  nested? fun budget json => do
    match ← fields? fieldNames false json with
    | [name, tables, columns] =>
        let name ← required? string? name
        let tables ← optional? (Tables.ofJson? budget) tables
        let columns ← defaulted? []
          (nested? (fun budget => listOf? (ColumnDefinition.ofJson? budget)) budget) columns
        return { name, tables, columns }
    | _ => none

def listOfJson? : (budget : Nat) → Json → Option (List Definition) :=
  nested? fun budget json => do
    match ← fields? ["entities"] false json with
    | [entities] =>
        required? (nested? (fun budget => listOf? (ofJson? budget)) budget) entities
    | _ => none

end Definition

end BoundSql.Entity
