import BoundSql.Sql.Error
import BoundSql.Value.Json
import BoundSql.Notice

/-!
Bindings: the values of a statement's placeholders. One counter names the placeholders
of all clauses of a statement, so a name never comes twice and the order of the names is
the order of binding.
-/

namespace BoundSql.Sql

structure Bindings where
  sigil : String
  next : Nat := 0
  entries : List (String × Value) := []

namespace Bindings

def nameOf (sigil : String) (number : Nat) : String :=
  sigil ++ "p" ++ String.ofList (Number.digits number)

def empty (sigil : String) : Bindings := { sigil }

def size (bindings : Bindings) : Nat := bindings.entries.length

def names (bindings : Bindings) : List String := bindings.entries.map Prod.fst

def get? (bindings : Bindings) (name : String) : Option Value := bindings.entries.lookup name

/-- Binds a value to the next placeholder. The counter moves on in any case. -/
def bind (bindings : Bindings) (value : Value) : Except CompileError String × Bindings :=
  let name := nameOf bindings.sigil bindings.next
  let moved := { bindings with next := bindings.next + 1 }
  if bindings.names.contains name then (.error (.parameterCollision name), moved)
  else (.ok name, { moved with entries := bindings.entries ++ [(name, value)] })

def toJson (bindings : Bindings) : Json :=
  .object (bindings.entries.map fun (name, value) => (Json.escape name.toList, value.toJson))

end Bindings

/-! ## Compiling

A compiler turns an expression into a clause while it binds values. What it has bound
when it fails stays bound, and so does what it has reported. -/

/-- What a compiler leaves behind apart from its clause. -/
structure Scratch where
  bindings : Bindings
  notices : List Notice := []

abbrev Compiler := ExceptT CompileError (StateM Scratch)

namespace Compiler

def bind (value : Value) : Compiler String := do
  let scratch ← get
  let (outcome, bindings) := scratch.bindings.bind value
  set { scratch with bindings }
  MonadExcept.ofExcept outcome

def report (notice : Notice) : Compiler Unit :=
  modify fun scratch => { scratch with notices := scratch.notices ++ [notice] }

def run (compiler : Compiler α) (bindings : Bindings) : Except CompileError α × Scratch :=
  StateT.run (ExceptT.run compiler) { bindings }

end Compiler

end BoundSql.Sql
