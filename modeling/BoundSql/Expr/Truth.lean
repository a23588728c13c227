import BoundSql.Expr
import BoundSql.Value.Order
import BoundSql.Text.Search

/-!
Conditions evaluated over member values that are already at hand. Truth has three
values: a condition over null is neither true nor false but unknown, and a row counts
as selected only if the condition is true.
-/

namespace BoundSql

/-- True, false, or (none) unknown. -/
abbrev Truth := Option Bool

namespace Truth

def and : Truth → Truth → Truth
  | some false, _ => some false
  | _, some false => some false
  | some true, some true => some true
  | _, _ => none

def or : Truth → Truth → Truth
  | some true, _ => some true
  | _, some true => some true
  | some false, some false => some false
  | _, _ => none

def not (truth : Truth) : Truth := truth.map (!·)

theorem not_not (truth : Truth) : truth.not.not = truth := by
  cases truth <;> simp [not]

theorem not_and (a b : Truth) : (a.and b).not = a.not.or b.not := by
  rcases a with - | (- | -) <;> rcases b with - | (- | -) <;> rfl

end Truth

inductive EvalError where
  | unsupported (shape : String)
  deriving DecidableEq

def EvalError.message : EvalError → String
  | .unsupported shape => "Cannot evaluate " ++ shape ++ " as a condition"

namespace Expr

/-! ## Leaves -/

/-- Compares a member's value with a constant. Null as a constant asks whether the value
is null; otherwise values that cannot be ordered give unknown. -/
def compareValues (op : Comparison) (value constant : Value) : Truth :=
  if constant.isNull then
    match op with
    | .equal => some value.isNull
    | .notEqual => some (!value.isNull)
    | _ => none
  else
    (value.compare? constant).map op.holds

def isAmong (value : Value) (items : List Value) : Truth :=
  if value.isNull then none
  else some (items.any fun item => value.compare? item == some .eq)

def matchText (method : Method) : Value → Value → Truth
  | .text whole, .text part =>
      match method with
      | .contains => some (Text.occursIn part.toList whole.toList)
      | .startsWith => some (part.toList.isPrefixOf whole.toList)
      | _ => some (part.toList.isSuffixOf whole.toList)
  | _, _ => none

/-- A member on its own: a truth value, or an integer that is true if it is one. -/
def truthOf (expr : Expr) : Value → Except EvalError Truth
  | .bool b => .ok (some b)
  | .int n => .ok (some (n == 1))
  | .null => .ok none
  | _ => .error (.unsupported expr.shape)

def orUnsupported (shape : String) : Option α → Except EvalError α
  | some found => .ok found
  | none => .error (.unsupported shape)

/-! ## Trees -/

section

variable (lookup : String → Value)

def evaluateComparison (op : Comparison) (left right : Expr) : Except EvalError Truth := do
  let member ← orUnsupported left.shape left.member?
  let constant ← orUnsupported right.shape right.constant?
  return compareValues op (lookup member) constant

def evaluateCall (target : Expr) (method : Method) (args : List Expr) :
    Except EvalError Truth :=
  let shape := (Expr.call target method args).shape
  match method, target.constant? with
  | .contains, some (.list items) => do
      let member ← orUnsupported shape (args.head?.bind member?)
      return isAmong (lookup member) items
  | _, _ => do
      let member ← orUnsupported shape target.member?
      let arg ← orUnsupported shape (args.head?.bind constant?)
      match method with
      | .equals => return compareValues .equal (lookup member) arg
      | _ => return matchText method (lookup member) arg

/-- The truth of a condition. Both sides of a connective are evaluated. -/
def evaluate : Expr → Except EvalError Truth
  | .binary .and left right => do
      let left ← evaluate left
      let right ← evaluate right
      return left.and right
  | .binary .or left right => do
      let left ← evaluate left
      let right ← evaluate right
      return left.or right
  | .binary (.compare op) left right => evaluateComparison lookup op left right
  | .unary .not operand => do
      let truth ← evaluate operand
      return truth.not
  | .unary .convert operand => evaluate operand
  | .call target method args => evaluateCall lookup target method args
  | .member name => truthOf (.member name) (lookup name)
  | .constant (.bool b) => .ok (some b)
  | expr => .error (.unsupported expr.shape)

def selects (condition : Expr) : Except EvalError Bool := do
  let truth ← evaluate lookup condition
  return truth == some true

end

end Expr

end BoundSql
