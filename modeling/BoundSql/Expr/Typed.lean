import BoundSql.Expr

/-!
Constructors that keep the two sides of an expression together: a field carries the
entity it belongs to and the type of its values, so a condition on one entity takes
only fields of that entity and only values of their type.
-/

namespace BoundSql

/-- Types whose values can be captured in an expression. -/
class ToValue (α : Type u) where
  toValue : α → Value

namespace ToValue

instance : ToValue Value := ⟨id⟩
instance : ToValue Bool := ⟨.bool⟩
instance : ToValue Int64 := ⟨.int⟩
instance : ToValue Int32 := ⟨fun n => .int (Int64.ofInt n.toInt)⟩
instance : ToValue Int16 := ⟨fun n => .int (Int64.ofInt n.toInt)⟩
instance : ToValue Int8 := ⟨fun n => .int (Int64.ofInt n.toInt)⟩
instance : ToValue UInt32 := ⟨fun n => .int (Int64.ofNat n.toNat)⟩
instance : ToValue UInt16 := ⟨fun n => .int (Int64.ofNat n.toNat)⟩
instance : ToValue UInt8 := ⟨fun n => .int (Int64.ofNat n.toNat)⟩
instance : ToValue Binary64 := ⟨.float⟩
instance : ToValue String := ⟨.text⟩
instance : ToValue DateTime := ⟨.dateTime⟩
instance : ToValue Uuid := ⟨.uuid⟩

instance [ToValue α] : ToValue (Option α) where
  toValue
    | some a => toValue a
    | none => .null

instance [ToValue α] : ToValue (List α) where
  toValue items := .list (items.map toValue)

end ToValue

open ToValue (toValue)

/-! ## Fields and conditions -/

structure Field (E : Type u) (V : Type v) where
  name : String

structure Criterion (E : Type u) where
  expr : Expr

namespace Criterion

variable {E : Type u}

def and (left right : Criterion E) : Criterion E := ⟨.binary .and left.expr right.expr⟩

def or (left right : Criterion E) : Criterion E := ⟨.binary .or left.expr right.expr⟩

def not (criterion : Criterion E) : Criterion E := ⟨.unary .not criterion.expr⟩

end Criterion

namespace Field

variable {E : Type u} {V : Type v}

def expr (field : Field E V) : Expr := .member field.name

def compare [ToValue V] (field : Field E V) (op : Comparison) (value : V) : Criterion E :=
  ⟨.binary (.compare op) field.expr (.constant (toValue value))⟩

/-- The same condition as an equality, as a call. -/
def equals [ToValue V] (field : Field E V) (value : V) : Criterion E :=
  ⟨.call field.expr .equals [.constant (toValue value)]⟩

def isIn [ToValue V] (field : Field E V) (values : List V) : Criterion E :=
  ⟨.call (.constant (.list (values.map toValue))) .contains [field.expr]⟩

def isTrue (field : Field E Bool) : Criterion E := ⟨field.expr⟩

end Field

class TextLike (V : Type v) : Prop

instance : TextLike String := ⟨⟩
instance : TextLike (Option String) := ⟨⟩

namespace Field

variable {E : Type u} {V : Type v} [TextLike V]

def contains (field : Field E V) (part : String) : Criterion E :=
  ⟨.call field.expr .contains [.constant (.text part)]⟩

def startsWith (field : Field E V) (part : String) : Criterion E :=
  ⟨.call field.expr .startsWith [.constant (.text part)]⟩

def endsWith (field : Field E V) (part : String) : Criterion E :=
  ⟨.call field.expr .endsWith [.constant (.text part)]⟩

end Field

/-! ## Operands, assignments and projections -/

structure Operand (E : Type u) where
  expr : Expr

namespace Operand

variable {E : Type u} {V : Type v}

def value [ToValue V] (v : V) : Operand E := ⟨.constant (toValue v)⟩

def field (f : Field E V) : Operand E := ⟨f.expr⟩

def compute (op : Arithmetic) (left right : Operand E) : Operand E :=
  ⟨.binary (.compute op) left.expr right.expr⟩

instance : Add (Operand E) := ⟨compute .add⟩
instance : Sub (Operand E) := ⟨compute .subtract⟩
instance : Mul (Operand E) := ⟨compute .multiply⟩
instance : Div (Operand E) := ⟨compute .divide⟩

instance : CoeOut (Field E V) (Operand E) := ⟨field⟩

end Operand

structure Assignments (E : Type u) where
  bindings : List (String × Expr) := []

namespace Assignments

variable {E : Type u} {V : Type v}

def set (assignments : Assignments E) (field : Field E V) (operand : Operand E) :
    Assignments E :=
  ⟨assignments.bindings ++ [(field.name, operand.expr)]⟩

def setValue [ToValue V] (assignments : Assignments E) (field : Field E V) (value : V) :
    Assignments E :=
  assignments.set field (.value value)

def expr (assignments : Assignments E) : Expr := .assign assignments.bindings

end Assignments

/-- Members of the entity `E`, in order; there is at least one. -/
structure Projection (E : Type u) where
  first : String
  others : List String := []

namespace Projection

variable {E : Type u} {V : Type v}

def of (field : Field E V) : Projection E := ⟨field.name, []⟩

def and (projection : Projection E) (field : Field E V) : Projection E :=
  ⟨projection.first, projection.others ++ [field.name]⟩

def expr (projection : Projection E) : Expr :=
  .fields ((projection.first :: projection.others).map .member)

end Projection

end BoundSql
