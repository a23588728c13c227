import BoundSql.Value

/-!
Expressions over the members of one entity. A tree stands for a condition, a row of
assignments, a sort key or a row of fields; what it stands for is decided where it is
used. Everything computed elsewhere is captured as a constant.
-/

namespace BoundSql

inductive Comparison where
  | equal
  | notEqual
  | greaterThan
  | greaterThanOrEqual
  | lessThan
  | lessThanOrEqual
  deriving DecidableEq

inductive Arithmetic where
  | add
  | subtract
  | multiply
  | divide
  deriving DecidableEq

inductive BinaryOp where
  | and
  | or
  | compare (op : Comparison)
  | compute (op : Arithmetic)
  deriving DecidableEq

/-- A conversion changes nothing but the type that a program sees. -/
inductive UnaryOp where
  | convert
  | not
  deriving DecidableEq

inductive Method where
  | contains
  | startsWith
  | endsWith
  | equals
  deriving DecidableEq

inductive Expr where
  | constant (value : Value)
  | member (name : String)
  | binary (op : BinaryOp) (left right : Expr)
  | unary (op : UnaryOp) (operand : Expr)
  | call (target : Expr) (method : Method) (args : List Expr)
  | assign (bindings : List (String × Expr))
  | fields (items : List Expr)
  deriving Inhabited

/-! ## Words and symbols -/

namespace Comparison

def word : Comparison → String
  | .equal => "Equal"
  | .notEqual => "NotEqual"
  | .greaterThan => "GreaterThan"
  | .greaterThanOrEqual => "GreaterThanOrEqual"
  | .lessThan => "LessThan"
  | .lessThanOrEqual => "LessThanOrEqual"

def symbol : Comparison → String
  | .equal => "="
  | .notEqual => "<>"
  | .greaterThan => ">"
  | .greaterThanOrEqual => ">="
  | .lessThan => "<"
  | .lessThanOrEqual => "<="

def holds : Comparison → Ordering → Bool
  | .equal, order => order == .eq
  | .notEqual, order => order != .eq
  | .greaterThan, order => order == .gt
  | .greaterThanOrEqual, order => order != .lt
  | .lessThan, order => order == .lt
  | .lessThanOrEqual, order => order != .gt

end Comparison

namespace Arithmetic

def word : Arithmetic → String
  | .add => "Add"
  | .subtract => "Subtract"
  | .multiply => "Multiply"
  | .divide => "Divide"

def symbol : Arithmetic → String
  | .add => "+"
  | .subtract => "-"
  | .multiply => "*"
  | .divide => "/"

end Arithmetic

def BinaryOp.word : BinaryOp → String
  | .and => "AndAlso"
  | .or => "OrElse"
  | .compare op => op.word
  | .compute op => op.word

def UnaryOp.word : UnaryOp → String
  | .convert => "Convert"
  | .not => "Not"

def Method.word : Method → String
  | .contains => "Contains"
  | .startsWith => "StartsWith"
  | .endsWith => "EndsWith"
  | .equals => "Equals"

namespace Expr

/-! ## Looking through conversions -/

def bare : Expr → Expr
  | .unary .convert operand => bare operand
  | expr => expr

def member? (expr : Expr) : Option String :=
  match expr.bare with
  | .member name => some name
  | _ => none

def constant? (expr : Expr) : Option Value :=
  match expr.bare with
  | .constant value => some value
  | _ => none

def shape : Expr → String
  | .constant value => "constant " ++ value.typeName
  | .member name => "member \x60" ++ name ++ "\x60"
  | .binary op _ _ => "binary " ++ op.word
  | .unary op _ => "unary " ++ op.word
  | .call _ method _ => "call " ++ method.word ++ "()"
  | .assign _ => "member initializer"
  | .fields _ => "projection"

theorem bare_convert (expr : Expr) : (Expr.unary .convert expr).bare = expr.bare := by
  rw [bare]

theorem bare_bare (expr : Expr) : expr.bare.bare = expr.bare := by
  fun_induction bare expr with
  | case1 operand ih => exact ih
  | case2 expr notConvert => rw [bare]; exact notConvert

end Expr

end BoundSql
