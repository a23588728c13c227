import BoundSql.Value

/-!
Declarations: what an entity says of itself. It names the table it lives in, or several
tables of which one is chosen later, and its members with their kinds and flags. A declaration
is put together piece by piece.
-/

namespace BoundSql.Entity

structure MemberDeclaration where
  name : String
  kind : Kind
  isKey : Bool := false
  isComputed : Bool := false
  isReadOnly : Bool := false

namespace MemberDeclaration

def plain (name : String) (kind : Kind) : MemberDeclaration := { name, kind }

def key (member : MemberDeclaration) : MemberDeclaration := { member with isKey := true }

def computed (member : MemberDeclaration) : MemberDeclaration := { member with isComputed := true }

def readOnly (member : MemberDeclaration) : MemberDeclaration := { member with isReadOnly := true }

end MemberDeclaration

/-- A single table takes precedence over a set of tables. -/
structure Declaration where
  name : String
  table : Option String := none
  tableSet : List String := []
  members : List MemberDeclaration := []

namespace Declaration

def named (name : String) : Declaration := { name }

def inTable (declaration : Declaration) (table : String) : Declaration :=
  { declaration with table := some table }

def inTables (declaration : Declaration) (tables : List String) : Declaration :=
  { declaration with tableSet := tables }

def declare (declaration : Declaration) (member : MemberDeclaration) : Declaration :=
  { declaration with members := declaration.members ++ [member] }

def candidates (declaration : Declaration) : List String :=
  match declaration.table with
  | some table => [table]
  | none => declaration.tableSet

end Declaration

end BoundSql.Entity
