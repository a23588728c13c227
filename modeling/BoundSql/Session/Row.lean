import BoundSql.Entity.ColumnName
import BoundSql.Value.Host
import BoundSql.Value.Named

/-!
Rows: what a query returns, value by value under the names of the columns. A value is
taken out as the host type that the program wants, by column or by the member that the
column holds.
-/

namespace BoundSql.Session

inductive RowError where
  | missingColumn (column : String)
  | value (column : String) (cause : CoercionError)

def RowError.message : RowError → String
  | .missingColumn column => "Result row has no column \x60" ++ column ++ "\x60"
  | .value column cause => "Column \x60" ++ column ++ "\x60: " ++ cause.message

structure Row where
  cells : NamedValues := []

namespace Row

def size (row : Row) : Nat := row.cells.length

def insert (row : Row) (column : String) (value : Value) : Row :=
  ⟨row.cells.put column value⟩

def get? (row : Row) (column : String) : Option Value := row.cells.lookup column

def ofJson? (budget : Nat) (json : Json) : Option Row :=
  (NamedValues.ofJson? budget json).map Row.mk

def decode (row : Row) (column : String) (decoding : Value → Except CoercionError Value) :
    Except RowError Value :=
  match row.get? column with
  | none => .error (.missingColumn column)
  | some value =>
      match decoding value with
      | .ok decoded => .ok decoded
      | .error cause => .error (.value column cause)

def getAs (row : Row) (host : HostType) (column : String) : Except RowError Value :=
  row.decode column host.convert

/-- As `getAs`, for an optional type. A column that is not there is still an error. -/
def getOptional (row : Row) (host : HostType) (column : String) : Except RowError Value :=
  row.decode column host.convertOptional

def member (row : Row) (host : HostType) (name : String) : Except RowError Value :=
  row.getAs host (Entity.columnName name)

def optionalMember (row : Row) (host : HostType) (name : String) : Except RowError Value :=
  row.getOptional host (Entity.columnName name)

theorem get?_insert (row : Row) (column : String) (value : Value) :
    (row.insert column value).get? column = some value :=
  NamedValues.lookup_put column value row.cells

end Row

end BoundSql.Session
