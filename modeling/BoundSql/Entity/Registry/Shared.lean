import BoundSql.Entity.Registry

/-!
A registry that many use at the same time. An inquiry takes three steps, and others may take
theirs in between: it looks for its type, it derives the schema if there is none, and it stores
what it derived unless somebody was faster. `Registry.resolve` is an inquiry that is left alone.
-/

namespace BoundSql.Entity.Registry

inductive Inquiry where
  | asking
  | missed
  | derived (schema : Schema)
  | answered (answer : Except SchemaError Schema)

/-- The next step of an inquiry. What its type declares counts only where it is derived. -/
def Inquiry.step (registry : Registry) (type : String) (declaration : Declaration) :
    Inquiry → Registry × Inquiry
  | .asking =>
      match registry.find? type with
      | some stored => (registry, .answered (.ok stored))
      | none => (registry, .missed)
  | .missed =>
      match Schema.resolve declaration with
      | .error e => (registry, .answered (.error e))
      | .ok schema => (registry, .derived schema)
  | .derived schema =>
      let (registry, stored) := registry.keep type schema
      (registry, .answered (.ok stored))
  | .answered answer => (registry, .answered answer)

structure Shared where
  registry : Registry := {}
  inquiries : Nat → Inquiry := fun _ => .asking

/-- The step of a caller, whose type declares itself in this way if it is asked now. -/
structure Turn where
  caller : Nat
  declaration : Declaration

namespace Shared

def take (types : Nat → String) (shared : Shared) (turn : Turn) : Shared :=
  let (registry, inquiry) := (shared.inquiries turn.caller).step shared.registry
    (types turn.caller) turn.declaration
  { registry
    inquiries := fun caller => if caller = turn.caller then inquiry else shared.inquiries caller }

def run (types : Nat → String) (shared : Shared) (turns : List Turn) : Shared :=
  turns.foldl (take types) shared

end Shared

end BoundSql.Entity.Registry
