import BoundSql.Proofs.Write
import BoundSql.Sql.Selection

/-!
Compiled selections and sort keys. They name declared columns, and which ones depends on
nothing but the members that their expressions name.
-/

namespace BoundSql.Sql

open Entity

variable {schema : Schema}

def NamesColumn (schema : Schema) (expr : Expr) (name : String) : Prop :=
  ∃ column, expr.member?.bind schema.column? = some column ∧ column.name = name

theorem NamesColumn.hasColumn {expr : Expr} {name : String}
    (names : NamesColumn schema expr name) : schema.HasColumn name := by
  rcases names with ⟨column, found, rfl⟩
  rcases Option.bind_eq_some_iff.mp found with ⟨member, _, declared⟩
  exact hasColumn_of_column? declared

theorem NamesColumn.unique {left right : Expr} {name name' : String}
    (same : left.member? = right.member?) (names : NamesColumn schema left name)
    (names' : NamesColumn schema right name') : name = name' := by
  rcases names with ⟨column, found, rfl⟩
  rcases names' with ⟨column', found', rfl⟩
  rw [same, found'] at found
  rw [Option.some.inj found]

theorem columnNamed_eq_ok_iff {otherwise : CompileError} {expr : Expr} {column : Column} :
    columnNamed schema otherwise expr = .ok column ↔
      expr.member?.bind schema.column? = some column := by
  rw [columnNamed]
  cases expr.member? with
  | none => simp
  | some member => exact columnOf_eq_ok_iff

theorem namesColumn_of_columnNamed {otherwise : CompileError} {expr : Expr} {column : Column}
    (named : columnNamed schema otherwise expr = .ok column) :
    NamesColumn schema expr column.name :=
  ⟨column, columnNamed_eq_ok_iff.mp named, rfl⟩

theorem SortKey.namesColumn_of_compile {expr : Expr} {direction : Direction} {key : SortKey}
    (compiled : compile schema expr direction = .ok key) :
    ∃ name, NamesColumn schema expr name ∧ key = ⟨name, direction⟩ := by
  rcases except_bind_eq_ok.mp compiled with ⟨column, named, rest⟩
  exact ⟨column.name, namesColumn_of_columnNamed named, (Except.ok.inj rest).symm⟩

namespace Selection

def names : Selection → List String
  | .everything => []
  | .columns names => names
  | .aggregate _ column => [column]

def fieldsOf : Expr → List Expr
  | .fields items => items
  | single => [single]

theorem namesColumns_of_compileItems {items : List Expr} {names : List String}
    (compiled : items.mapM (compileItem schema) = .ok names) :
    List.Forall₂ (NamesColumn schema) items names := by
  refine (forall₂_of_mapM compiled).imp ?_
  intro item name made
  rcases except_bind_eq_ok.mp made with ⟨column, named, found⟩
  rcases Except.ok.inj found with rfl
  exact namesColumn_of_columnNamed named

theorem compile_eq_ok_iff {expr : Expr} {selection : Selection} :
    compile schema expr = .ok selection ↔ fieldsOf expr ≠ [] ∧
      ((fieldsOf expr).mapM (compileItem schema) >>= fun names => .ok (.columns names)) =
        .ok selection := by
  rw [compile.eq_def]
  split
  next => simp [fieldsOf, throw, throwThe, MonadExceptOf.throw, Bind.bind, Except.bind]
  next items notEmpty => exact (and_iff_right notEmpty).symm
  next notFields =>
      have single : fieldsOf expr = [expr] := by
        cases expr with
        | fields items => exact absurd rfl (notFields items)
        | _ => rfl
      rw [single]
      exact (and_iff_right (List.cons_ne_nil _ _)).symm

theorem namesColumns_of_compile {expr : Expr} {selection : Selection}
    (compiled : compile schema expr = .ok selection) :
    ∃ names, selection = .columns names ∧
      List.Forall₂ (NamesColumn schema) (fieldsOf expr) names := by
  rcases except_bind_eq_ok.mp (compile_eq_ok_iff.mp compiled).2 with ⟨names, mapped, rest⟩
  exact ⟨names, (Except.ok.inj rest).symm, namesColumns_of_compileItems mapped⟩

theorem namesColumn_of_compileAggregate {function : Aggregate} {expr : Expr}
    {selection : Selection} (compiled : compileAggregate schema function expr = .ok selection) :
    ∃ name, selection = .aggregate function name ∧ NamesColumn schema expr name := by
  rcases except_bind_eq_ok.mp compiled with ⟨column, named, rest⟩
  exact ⟨column.name, (Except.ok.inj rest).symm, namesColumn_of_columnNamed named⟩

end Selection

end BoundSql.Sql
