import BoundSql.Sql.Bindings
import BoundSql.Sql.Quote
import BoundSql.Expr

/-!
Conditions of a WHERE clause. A condition compares columns with placeholders; no value
of an expression becomes part of its text. `Condition.render` writes it so that OR is
always in parentheses and the operand of NOT is too, which leaves AND as the only
connective in the open.
-/

namespace BoundSql.Sql

open Entity

inductive Condition where
  | always (truth : Bool)
  | compare (column : String) (op : Comparison) (placeholder : String)
  | isNull (column : String) (negated : Bool) (placeholder : String)
  | like (column : String) (placeholder : String)
  | among (column : String) (placeholders : List String)
  | and (left right : Condition)
  | or (left right : Condition)
  | not (operand : Condition)

namespace Condition

def render : Condition → String
  | .always true => "1 = 1"
  | .always false => "1 = 0"
  | .compare column op placeholder =>
      quoteIdentifier column ++ " " ++ op.symbol ++ " " ++ placeholder
  | .isNull column false placeholder => quoteIdentifier column ++ " IS " ++ placeholder
  | .isNull column true placeholder => quoteIdentifier column ++ " IS NOT " ++ placeholder
  | .like column placeholder => quoteIdentifier column ++ " LIKE " ++ placeholder
  | .among column placeholders =>
      quoteIdentifier column ++ " IN (" ++ ",".intercalate placeholders ++ ")"
  | .and left right => render left ++ " AND " ++ render right
  | .or left right => "(" ++ render left ++ " OR " ++ render right ++ ")"
  | .not operand => "NOT (" ++ render operand ++ ")"

def renderAll (conditions : List Condition) : String :=
  " AND ".intercalate (conditions.map render)

/-! ## Compiling expressions -/

def unsupported (detail : String) : CompileError := .unsupported .condition detail

def orFail (e : CompileError) : Option α → Compiler α
  | some found => pure found
  | none => throw e

/-- The value that a condition binds: texts meant for dates and identifiers are read as
such, lists are refused, and every other value is bound as it is. -/
def boundValue (column : Column) (value : Value) : Except CompileError Value :=
  match column.kind, value with
  | .dateTime, .text _ | .uuid, .text _ => coerceFor column value
  | _, .list _ => .error (unsupported ("list value compared with \x60" ++ column.name ++ "\x60"))
  | _, _ => .ok value

/-- A column compared with a value. Null is compared with IS and IS NOT only. -/
def compileAgainst (column : Column) (op : Comparison) (value : Value) : Compiler Condition :=
  if value.isNull then
    match op with
    | .equal => return .isNull column.name false (← Compiler.bind .null)
    | .notEqual => return .isNull column.name true (← Compiler.bind .null)
    | _ => throw (.nullComparison column.name op.symbol)
  else do
    let value ← MonadExcept.ofExcept (boundValue column value)
    return .compare column.name op (← Compiler.bind value)

def compileComparison (schema : Schema) (op : Comparison) (left right : Expr) :
    Compiler Condition := do
  let member ← orFail (.nonMemberOperand left.shape) left.member?
  let column ← MonadExcept.ofExcept (columnOf schema member)
  let value ← orFail
    (unsupported ("right side of " ++ op.word ++ " must be a value, found " ++ right.shape))
    right.constant?
  compileAgainst column op value

def bindAll (column : Column) : List Value → Compiler (List String)
  | [] => pure []
  | item :: rest => do
      let value ← MonadExcept.ofExcept (boundValue column item)
      let placeholder ← Compiler.bind value
      let placeholders ← bindAll column rest
      return placeholder :: placeholders

def emptyListNotice (column : Column) : Notice :=
  ⟨.warn, "Empty IN list for \x60" ++ column.name ++ "\x60; predicate always false"⟩

/-- Membership of a member in a captured list. Nothing is in an empty list. -/
def compileMembership (schema : Schema) (target : Value) (args : List Expr) :
    Compiler Condition :=
  match target with
  | .list items => do
      let member ← orFail (unsupported "list Contains() must test a member of the entity")
        (args.head?.bind Expr.member?)
      let column ← MonadExcept.ofExcept (columnOf schema member)
      if items.isEmpty then
        Compiler.report (emptyListNotice column)
        return .always false
      else
        return .among column.name (← bindAll column items)
  | other => throw (unsupported ("Contains() on a " ++ other.typeName ++ " value"))

def patternOf (method : Method) (text : String) : String :=
  match method with
  | .contains => "%" ++ escapePattern text ++ "%"
  | .startsWith => escapePattern text ++ "%"
  | _ => "%" ++ escapePattern text

def onlyArg (method : Method) (args : List Expr) : Compiler Expr :=
  match args with
  | [arg] => pure arg
  | _ =>
      throw (unsupported
        (method.word ++ "() takes one argument, got " ++ SchemaError.number args.length))

def compileMethod (schema : Schema) (target : Expr) (method : Method) (args : List Expr) :
    Compiler Condition := do
  let member ← orFail (.nonMemberOperand target.shape) target.member?
  let arg ← onlyArg method args
  let value ← orFail
    (unsupported ("argument of " ++ method.word ++ "() must be a value, found " ++ arg.shape))
    arg.constant?
  let column ← MonadExcept.ofExcept (columnOf schema member)
  match method, value with
  | .equals, _ => compileAgainst column .equal value
  | _, .text text => return .like column.name (← Compiler.bind (.text (patternOf method text)))
  | _, _ =>
      throw (unsupported
        (method.word ++ "() needs a text argument, found " ++ value.typeName))

def compileCall (schema : Schema) (target : Expr) (method : Method) (args : List Expr) :
    Compiler Condition :=
  match method, target.constant? with
  | .contains, some value => compileMembership schema value args
  | _, _ => compileMethod schema target method args

def compileMember (schema : Schema) (member : String) : Compiler Condition := do
  let column ← MonadExcept.ofExcept (columnOf schema member)
  if column.kind = .bool then
    return .compare column.name .equal (← Compiler.bind (.bool true))
  else
    throw (unsupported
      (column.kind.name ++ " member \x60" ++ member ++ "\x60 used as a condition"))

def compile (schema : Schema) : Expr → Compiler Condition
  | .unary .convert operand => compile schema operand
  | .binary .and left right => do
      let left ← compile schema left
      let right ← compile schema right
      return .and left right
  | .binary .or left right => do
      let left ← compile schema left
      let right ← compile schema right
      return .or left right
  | .binary (.compare op) left right => compileComparison schema op left right
  | .binary (.compute op) _ _ =>
      throw (unsupported ("arithmetic " ++ op.word ++ " is not a condition"))
  | .unary .not operand => do
      let operand ← compile schema operand
      return .not operand
  | .call target method args => compileCall schema target method args
  | .member name => compileMember schema name
  | .constant (.bool truth) => return .always truth
  | expr => throw (unsupported expr.shape)

end Condition

end BoundSql.Sql
