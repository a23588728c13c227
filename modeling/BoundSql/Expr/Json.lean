import BoundSql.Expr
import BoundSql.Value.Json

/-!
Expressions in JSON: an object whose only member names the form of the tree.
-/

namespace BoundSql

open Json

/-! ## Tags of operations -/

namespace Comparison

def tag : Comparison → String
  | .equal => "equal"
  | .notEqual => "not_equal"
  | .greaterThan => "greater_than"
  | .greaterThanOrEqual => "greater_than_or_equal"
  | .lessThan => "less_than"
  | .lessThanOrEqual => "less_than_or_equal"

def all : List Comparison :=
  [.equal, .notEqual, .greaterThan, .greaterThanOrEqual, .lessThan, .lessThanOrEqual]

end Comparison

namespace Arithmetic

def tag : Arithmetic → String
  | .add => "add"
  | .subtract => "subtract"
  | .multiply => "multiply"
  | .divide => "divide"

def all : List Arithmetic := [.add, .subtract, .multiply, .divide]

end Arithmetic

namespace BinaryOp

def tag : BinaryOp → String
  | .and => "and_also"
  | .or => "or_else"
  | .compare op => op.tag
  | .compute op => op.tag

def all : List BinaryOp :=
  [.and, .or] ++ Comparison.all.map .compare ++ Arithmetic.all.map .compute

def table : List (String × BinaryOp) := all.map fun op => (op.tag, op)

theorem lookup_tag (op : BinaryOp) : table.lookup op.tag = some op := by
  cases op with
  | and => decide
  | or => decide
  | compare op => cases op <;> decide
  | compute op => cases op <;> decide

end BinaryOp

namespace UnaryOp

def tag : UnaryOp → String
  | .convert => "convert"
  | .not => "not"

def table : List (String × UnaryOp) := [.convert, .not].map fun op => (op.tag, op)

theorem lookup_tag (op : UnaryOp) : table.lookup op.tag = some op := by
  cases op <;> decide

end UnaryOp

namespace Method

def tag : Method → String
  | .contains => "contains"
  | .startsWith => "starts_with"
  | .endsWith => "ends_with"
  | .equals => "equals"

def all : List Method := [.contains, .startsWith, .endsWith, .equals]

def table : List (String × Method) := all.map fun method => (method.tag, method)

theorem lookup_tag (method : Method) : table.lookup method.tag = some method := by
  cases method <;> decide

end Method

namespace Expr

/-! ## Writing -/

def record (members : List (String × Json)) : Json :=
  .object (members.map fun (name, value) => (escape name.toList, value))

mutual
def toJson : Expr → Json
  | .constant value => record [("constant", value.toJson)]
  | .member name => record [("member", .ofString name)]
  | .binary op left right =>
      record [("binary", record
        [("op", .ofString op.tag), ("left", toJson left), ("right", toJson right)])]
  | .unary op operand =>
      record [("unary", record [("op", .ofString op.tag), ("operand", toJson operand)])]
  | .call target method args =>
      record [("method_call", record
        [("target", toJson target), ("method", .ofString method.tag),
         ("args", .array (itemsToJson args))])]
  | .assign bindings => record [("member_init", .array (bindingsToJson bindings))]
  | .fields items => record [("new", .array (itemsToJson items))]

def itemsToJson : List Expr → List Json
  | [] => []
  | item :: rest => toJson item :: itemsToJson rest

def bindingsToJson : List (String × Expr) → List Json
  | [] => []
  | (name, expr) :: rest =>
      record [("member", .ofString name), ("value", toJson expr)] :: bindingsToJson rest
end

/-! ## Reading

Every reader of a part gets the reader for the trees inside it. -/

def binaryOfJson? (inner : Json → Option Expr) (budget : Nat) (json : Json) : Option Expr := do
  match ← fields? ["op", "left", "right"] false json with
  | [op, left, right] =>
      let op ← required? (nameFrom? BinaryOp.table budget) op
      let left ← required? inner left
      let right ← required? inner right
      return .binary op left right
  | _ => none

def unaryOfJson? (inner : Json → Option Expr) (budget : Nat) (json : Json) : Option Expr := do
  match ← fields? ["op", "operand"] false json with
  | [op, operand] =>
      let op ← required? (nameFrom? UnaryOp.table budget) op
      let operand ← required? inner operand
      return .unary op operand
  | _ => none

def callOfJson? (inner : Json → Option Expr) (items : Json → Option (List Expr)) (budget : Nat)
    (json : Json) : Option Expr := do
  match ← fields? ["target", "method", "args"] false json with
  | [target, method, args] =>
      let target ← required? inner target
      let method ← required? (nameFrom? Method.table budget) method
      let args ← required? items args
      return .call target method args
  | _ => none

def bindingOfJson? (inner : Json → Option Expr) (json : Json) : Option (String × Expr) := do
  match ← fields? ["member", "value"] false json with
  | [name, value] =>
      let name ← required? string? name
      let value ← required? inner value
      return (name, value)
  | _ => none

/-- Reads a tree. The budget is spent step by step: on the tree itself, on its record,
and on a list inside that. -/
def ofJson? : (budget : Nat) → Json → Option Expr
  | 0, _ => none
  | inside + 1, json =>
      match variant? json with
      | some ("constant", value) => (Value.ofJson? inside value).map .constant
      | some ("member", name) => (string? name).map .member
      | some ("binary", parts) =>
          match inside with
          | 0 => none
          | deeper + 1 => binaryOfJson? (ofJson? deeper) deeper parts
      | some ("unary", parts) =>
          match inside with
          | 0 => none
          | deeper + 1 => unaryOfJson? (ofJson? deeper) deeper parts
      | some ("method_call", parts) =>
          match inside with
          | 0 | 1 => none
          | deepest + 2 =>
              callOfJson? (ofJson? (deepest + 1)) (listOf? (ofJson? deepest)) (deepest + 1) parts
      | some ("member_init", list) =>
          match inside with
          | 0 => none
          | 1 => (listOf? (fun _ => none) list).map .assign
          | deepest + 2 => (listOf? (bindingOfJson? (ofJson? deepest)) list).map .assign
      | some ("new", list) =>
          match inside with
          | 0 => none
          | deeper + 1 => (listOf? (ofJson? deeper) list).map .fields
      | _ => none

end Expr

end BoundSql
