import BoundSql.Entity.ColumnName
import BoundSql.Entity.Declaration
import BoundSql.Json.Numeral
import BoundSql.Json.Text

/-!
Schemas: what is known of an entity once its declaration is found sound. The main
definition is `Schema.resolve`, which checks the tables, then the members in order, and
derives the columns.
-/

namespace BoundSql.Entity

inductive SchemaError where
  | noTable (entity : String)
  | tableIndexOutOfRange (entity : String) (index count : Nat)
  | invalidTableName (name : String)
  | duplicateMember (entity member : String)
  | unknownEntity (name : String)
  | unreadableCatalog (reason : String)
  | malformedCatalog
  | definedTwice (entity : String)
  deriving DecidableEq

namespace SchemaError

def number (n : Nat) : String := String.ofList (Number.digits n)

def message : SchemaError → String
  | .noTable entity =>
      "Entity \x60" ++ entity ++ "\x60 declares no table name (add a table or a table set)"
  | .tableIndexOutOfRange entity index count =>
      "Table index " ++ number index ++ " is out of range for \x60" ++ entity ++ "\x60 (" ++
        number count ++ " candidate tables)"
  | .invalidTableName name =>
      "Invalid table name '" ++ name ++ "' (letters, digits, \x60_\x60 and \x60$\x60 only)"
  | .duplicateMember entity member =>
      "Member \x60" ++ member ++ "\x60 is declared twice on \x60" ++ entity ++ "\x60"
  | .unknownEntity name => "No entity named \x60" ++ name ++ "\x60 in catalog"
  | .unreadableCatalog reason => "Failed to read entity catalog: " ++ reason
  | .malformedCatalog => "Failed to parse entity catalog:"
  | .definedTwice entity =>
      "Failed to parse entity catalog: entity \x60" ++ entity ++ "\x60 is defined twice"

def inContext (text context : String) : String := text ++ "\n  Context: " ++ context

def unreadableFile (path context : String) : SchemaError :=
  .unreadableCatalog (inContext ("'" ++ path ++ "'") context)

def unknownEntityIn (name context : String) : SchemaError :=
  .unknownEntity (inContext name context)

end SchemaError

/-! ## Table names -/

def startsTableName (c : Char) : Bool := c.isAlpha || c = '_'

def continuesTableName (c : Char) : Bool := c.isAlphanum || c = '_' || c = '$'

def isTableName (name : String) : Bool :=
  match name.toList with
  | [] => false
  | first :: rest => startsTableName first && rest.all continuesTableName

def checkTableName (name : String) : Except SchemaError Unit :=
  if isTableName name then .ok () else .error (.invalidTableName name)

/-! ## Columns -/

structure Column where
  member : String
  name : String
  kind : Kind
  isIdentity : Bool
  isKey : Bool
  isComputed : Bool
  isWritable : Bool

def Column.isPersisted (column : Column) : Bool :=
  column.isWritable && !column.isKey && !column.isComputed

/-- The identity column of an entity is its first writable key. -/
def MemberDeclaration.toColumn (member : MemberDeclaration) (identityKnown : Bool) : Column :=
  { member := member.name
    name := columnName member.name
    kind := member.kind
    isIdentity := !identityKnown && member.isKey && !member.isReadOnly
    isKey := member.isKey
    isComputed := member.isComputed
    isWritable := !member.isReadOnly }

/-- The columns of members in order, after members with the names `seen`. -/
def columnsOf (entity : String) (seen : List String) (identityKnown : Bool) :
    List MemberDeclaration → Except SchemaError (List Column)
  | [] => .ok []
  | member :: rest =>
      if seen.contains member.name then .error (.duplicateMember entity member.name)
      else do
        let column := member.toColumn identityKnown
        let columns ←
          columnsOf entity (member.name :: seen) (identityKnown || column.isIdentity) rest
        return column :: columns

/-! ## Schemas -/

structure Schema where
  entity : String
  defaultTable : String
  otherTables : List String
  columns : List Column

namespace Schema

def tables (schema : Schema) : List String := schema.defaultTable :: schema.otherTables

/-- Resolves a declaration. The tables are checked before the members, each in order. -/
def resolve (declaration : Declaration) : Except SchemaError Schema :=
  match declaration.candidates with
  | [] => .error (.noTable declaration.name)
  | defaultTable :: otherTables => do
      (defaultTable :: otherTables).forM checkTableName
      let columns ← columnsOf declaration.name [] false declaration.members
      return { entity := declaration.name, defaultTable, otherTables, columns }

def table? (schema : Schema) (index : Nat) : Except SchemaError String :=
  match schema.tables[index]? with
  | some table => .ok table
  | none => .error (.tableIndexOutOfRange schema.entity index schema.tables.length)

def identity? (schema : Schema) : Option Column := schema.columns.find? (·.isIdentity)

def identityIndex? (schema : Schema) : Option Nat := schema.columns.findIdx? (·.isIdentity)

/-- The first key, read-only or not; rows of a bulk update are joined on it. -/
def key? (schema : Schema) : Option Column := schema.columns.find? (·.isKey)

def column? (schema : Schema) (member : String) : Option Column :=
  schema.columns.find? (·.member == member)

def persisted (schema : Schema) : List Column := schema.columns.filter (·.isPersisted)

end Schema

/-! ## JSON -/

open Json

def Column.toJson (column : Column) : Json :=
  .object
    [("member_name".toList, .ofString column.member),
     ("column_name".toList, .ofString column.name),
     ("kind".toList, .ofString column.kind.tag),
     ("is_identity".toList, .bool column.isIdentity),
     ("is_key".toList, .bool column.isKey),
     ("is_computed".toList, .bool column.isComputed),
     ("writable".toList, .bool column.isWritable)]

def Schema.toJson (schema : Schema) : Json :=
  .object
    [("entity_name".toList, .ofString schema.entity),
     ("table_name_candidates".toList, .array (schema.tables.map .ofString)),
     ("columns".toList, .array (schema.columns.map Column.toJson)),
     ("identity_index".toList,
      match schema.identityIndex? with
      | some index => .ofNat index
      | none => .null)]

end BoundSql.Entity
