import BoundSql.Proofs.Compiler
import BoundSql.Proofs.Condition.Reader

/-!
What the condition compiled from an expression says. `StandsFor` relates an expression,
leaf by leaf, to a condition over the columns of its members and over placeholders that
hold its constants. Every compiled condition stands for its expression.
-/

def BoundSql.Entity.Schema.HasColumn (schema : BoundSql.Entity.Schema) (name : String) : Prop :=
  ∃ column ∈ schema.columns, column.name = name

namespace BoundSql.Sql

open Entity

def guests : Schema where
  entity := "Guest"
  defaultTable := "guests"
  otherTables := []
  columns :=
    [{ member := "Id", name := "id", kind := .int, isIdentity := true, isKey := true
       isComputed := false, isWritable := true },
     { member := "Name", name := "name", kind := .text, isIdentity := false, isKey := false
       isComputed := false, isWritable := true },
     { member := "Age", name := "age", kind := .int, isIdentity := false, isKey := false
       isComputed := false, isWritable := true }]

/-- Guests older than 17, or with a name that has no "50%" in it. -/
def guestFilter : Expr :=
  .binary .or
    (.binary (.compare .greaterThan) (.member "Age") (.constant (.int 17)))
    (.unary .not (.call (.member "Name") .contains [.constant (.text "50%")]))

theorem forall₂_right {R : α → β → Prop} {left : List α} {right : List β}
    (related : List.Forall₂ R left right) : ∀ b ∈ right, ∃ a ∈ left, R a b := by
  induction related with
  | nil => simp
  | cons first _ induction =>
      intro b member
      rcases List.mem_cons.mp member with rfl | member
      · exact ⟨_, List.mem_cons_self .., first⟩
      · rcases induction b member with ⟨a, inside, holds⟩
        exact ⟨a, List.mem_cons_of_mem _ inside, holds⟩

theorem columnOf_eq_ok_iff {schema : Schema} {member : String} {column : Column} :
    columnOf schema member = .ok column ↔ schema.column? member = some column := by
  unfold columnOf
  cases schema.column? member <;> simp

theorem hasColumn_of_column? {schema : Schema} {member : String} {column : Column}
    (declared : schema.column? member = some column) : schema.HasColumn column.name :=
  ⟨column, List.mem_of_find?_eq_some declared, rfl⟩

theorem Bindings.Grows.isNumbered {before after : Bindings} (grows : before.Grows after)
    {name : String} (knows : after.Knows name) : IsNumbered before.sigil name := by
  rcases knows.1 with ⟨number, equal⟩
  rw [grows.sigil] at equal
  exact ⟨number, equal⟩

namespace Condition

inductive Tests (bindings : Bindings) (column : Column) :
    Comparison → Value → Condition → Prop
  | value (solid : value.isNull = false) (read : boundValue column value = .ok stored)
      (holds : bindings.Holds name stored) :
      Tests bindings column op value (.compare column.name op name)
  | isNull (holds : bindings.Holds name .null) :
      Tests bindings column .equal .null (.isNull column.name false name)
  | isNotNull (holds : bindings.Holds name .null) :
      Tests bindings column .notEqual .null (.isNull column.name true name)

/-- A condition that says what an expression says, conversions aside. -/
inductive StandsFor (schema : Schema) (bindings : Bindings) : Expr → Condition → Prop
  | convert (inner : StandsFor schema bindings operand condition) :
      StandsFor schema bindings (.unary .convert operand) condition
  | and (first : StandsFor schema bindings left a) (second : StandsFor schema bindings right b) :
      StandsFor schema bindings (.binary .and left right) (.and a b)
  | or (first : StandsFor schema bindings left a) (second : StandsFor schema bindings right b) :
      StandsFor schema bindings (.binary .or left right) (.or a b)
  | not (inner : StandsFor schema bindings operand condition) :
      StandsFor schema bindings (.unary .not operand) (.not condition)
  | comparison (named : left.member? = some member)
      (declared : schema.column? member = some column)
      (captured : right.constant? = some value)
      (tests : Tests bindings column op value condition) :
      StandsFor schema bindings (.binary (.compare op) left right) condition
  | equals (named : target.member? = some member)
      (declared : schema.column? member = some column)
      (captured : arg.constant? = some value)
      (tests : Tests bindings column .equal value condition) :
      StandsFor schema bindings (.call target .equals [arg]) condition
  | like (named : target.member? = some member)
      (declared : schema.column? member = some column)
      (captured : arg.constant? = some (.text text)) (textual : method ≠ .equals)
      (holds : bindings.Holds name (.text (patternOf method text))) :
      StandsFor schema bindings (.call target method [arg]) (.like column.name name)
  | among (captured : target.constant? = some (.list items)) (nonempty : items ≠ [])
      (named : args.head?.bind Expr.member? = some member)
      (declared : schema.column? member = some column)
      (held : List.Forall₂ (fun item name => ∃ stored,
        boundValue column item = .ok stored ∧ bindings.Holds name stored) items names) :
      StandsFor schema bindings (.call target .contains args) (.among column.name names)
  | nowhere (captured : target.constant? = some (.list []))
      (named : args.head?.bind Expr.member? = some member)
      (declared : schema.column? member = some column) :
      StandsFor schema bindings (.call target .contains args) (.always false)
  | member (declared : schema.column? member = some column) (truth : column.kind = .bool)
      (holds : bindings.Holds name (.bool true)) :
      StandsFor schema bindings (.member member) (.compare column.name .equal name)
  | constant (truth : Bool) :
      StandsFor schema bindings (.constant (.bool truth)) (.always truth)

theorem Tests.grows {before after : Bindings} (grows : before.Grows after) {column : Column}
    {op : Comparison} {value : Value} {condition : Condition}
    (tests : Tests before column op value condition) :
    Tests after column op value condition := by
  cases tests with
  | value solid read holds => exact .value solid read (grows.holds holds)
  | isNull holds => exact .isNull (grows.holds holds)
  | isNotNull holds => exact .isNotNull (grows.holds holds)

theorem StandsFor.grows {before after : Bindings} (grows : before.Grows after) {schema : Schema}
    {expr : Expr} {condition : Condition} (stands : StandsFor schema before expr condition) :
    StandsFor schema after expr condition := by
  induction stands with
  | convert _ inner => exact .convert inner
  | and _ _ first second => exact .and first second
  | or _ _ first second => exact .or first second
  | not _ inner => exact .not inner
  | comparison named declared captured tests =>
      exact .comparison named declared captured (tests.grows grows)
  | equals named declared captured tests =>
      exact .equals named declared captured (tests.grows grows)
  | like named declared captured textual holds =>
      exact .like named declared captured textual (grows.holds holds)
  | among captured nonempty named declared held =>
      refine .among captured nonempty named declared (held.imp ?_)
      intro item name found
      rcases found with ⟨stored, read, holds⟩
      exact ⟨stored, read, grows.holds holds⟩
  | nowhere captured named declared => exact .nowhere captured named declared
  | member declared truth holds => exact .member declared truth (grows.holds holds)
  | constant truth => exact .constant truth

/-! ## Columns and placeholders -/

theorem Tests.uses {bindings : Bindings} {column : Column} {op : Comparison} {value : Value}
    {condition : Condition} {columns : String → Prop} (known : columns column.name)
    (tests : Tests bindings column op value condition) :
    condition.Over columns bindings.Knows := by
  cases tests with
  | value _ _ holds => exact ⟨known, holds.knows⟩
  | isNull holds => exact ⟨known, holds.knows⟩
  | isNotNull holds => exact ⟨known, holds.knows⟩

theorem StandsFor.uses {schema : Schema} {bindings : Bindings} {expr : Expr}
    {condition : Condition} (stands : StandsFor schema bindings expr condition) :
    condition.Over schema.HasColumn bindings.Knows := by
  induction stands with
  | convert _ inner => exact inner
  | and _ _ first second => exact ⟨first, second⟩
  | or _ _ first second => exact ⟨first, second⟩
  | not _ inner => exact inner
  | comparison _ declared _ tests => exact tests.uses (hasColumn_of_column? declared)
  | equals _ declared _ tests => exact tests.uses (hasColumn_of_column? declared)
  | like _ declared _ _ holds => exact ⟨hasColumn_of_column? declared, holds.knows⟩
  | among _ nonempty _ declared held =>
      refine ⟨hasColumn_of_column? declared, ?_, ?_⟩
      · intro equal
        subst equal
        cases held
        contradiction
      · intro name member
        rcases forall₂_right held name member with ⟨item, _, stored, _, holds⟩
        exact holds.knows
  | nowhere _ _ _ => trivial
  | member declared _ holds => exact ⟨hasColumn_of_column? declared, holds.knows⟩
  | constant _ => trivial

/-! ## Compiled conditions -/

section

open Compiler

variable {schema : Schema} {before after : Scratch} {condition : Condition}

theorem yields_compileAgainst {column : Column} {op : Comparison} {value : Value}
    (yields : (compileAgainst column op value).Yields before condition after) :
    before.bindings.Grows after.bindings ∧
      Tests after.bindings column op value condition := by
  rw [compileAgainst.eq_def] at yields
  split at yields
  next null =>
      have same : value = .null := by cases value <;> simp_all [Value.isNull]
      subst same
      split at yields
      next =>
          simp only [yields_bind, yields_pure] at yields
          rcases yields with ⟨name, _, bound, rfl, rfl⟩
          rcases bound.held with ⟨grows, holds⟩
          exact ⟨grows, .isNull holds⟩
      next =>
          simp only [yields_bind, yields_pure] at yields
          rcases yields with ⟨name, _, bound, rfl, rfl⟩
          rcases bound.held with ⟨grows, holds⟩
          exact ⟨grows, .isNotNull holds⟩
      next => exact absurd yields yields_throw
  next solid =>
      simp only [yields_bind, yields_pure, yields_ofExcept] at yields
      rcases yields with ⟨stored, _, ⟨read, rfl⟩, name, _, bound, rfl, rfl⟩
      rcases bound.held with ⟨grows, holds⟩
      exact ⟨grows, .value (by simpa using solid) read holds⟩

theorem yields_bindAll {column : Column} {items : List Value} {names : List String}
    (yields : (bindAll column items).Yields before names after) :
    before.bindings.Grows after.bindings ∧
      List.Forall₂ (fun item name => ∃ stored,
        boundValue column item = .ok stored ∧ after.bindings.Holds name stored) items names := by
  induction items generalizing before names with
  | nil =>
      rw [bindAll, yields_pure] at yields
      rcases yields with ⟨rfl, rfl⟩
      exact ⟨.refl _, .nil⟩
  | cons item items induction =>
      simp only [bindAll, yields_bind, yields_pure, yields_ofExcept] at yields
      rcases yields with ⟨stored, _, ⟨read, rfl⟩, name, middle, bound, names, _, others, rfl, rfl⟩
      rcases bound.held with ⟨grows, holds⟩
      rcases induction others with ⟨more, held⟩
      exact ⟨grows.trans more, .cons ⟨stored, read, more.holds holds⟩ held⟩

theorem yields_compileMembership {target : Expr} {value : Value} {args : List Expr}
    (captured : target.constant? = some value)
    (yields : (compileMembership schema value args).Yields before condition after) :
    before.bindings.Grows after.bindings ∧
      StandsFor schema after.bindings (.call target .contains args) condition := by
  rw [compileMembership.eq_def] at yields
  split at yields
  next items =>
      simp only [yields_bind, yields_orFail, yields_ofExcept, columnOf_eq_ok_iff] at yields
      rcases yields with ⟨member, _, ⟨named, rfl⟩, column, _, ⟨declared, rfl⟩, yields⟩
      split at yields
      next empty =>
          rcases List.isEmpty_iff.mp empty with rfl
          simp only [yields_bind, yields_report, yields_pure] at yields
          rcases yields with ⟨_, _, rfl, rfl, rfl⟩
          exact ⟨.refl _, .nowhere captured named declared⟩
      next nonempty =>
          simp only [yields_bind, yields_pure] at yields
          rcases yields with ⟨names, _, bound, rfl, rfl⟩
          rcases yields_bindAll bound with ⟨grows, held⟩
          exact ⟨grows, .among captured (by simpa using nonempty) named declared held⟩
  next => exact absurd yields yields_throw

theorem yields_onlyArg {method : Method} {args : List Expr} {arg : Expr} :
    (onlyArg method args).Yields before arg after ↔ args = [arg] ∧ before = after := by
  rw [onlyArg.eq_def]
  split
  next only => simp [yields_pure]
  next several =>
      apply iff_of_false yields_throw
      intro found
      rcases found with ⟨rfl, -⟩
      exact several arg rfl

theorem yields_compileMethod {target : Expr} {method : Method} {args : List Expr}
    (yields : (compileMethod schema target method args).Yields before condition after) :
    before.bindings.Grows after.bindings ∧
      StandsFor schema after.bindings (.call target method args) condition := by
  simp only [compileMethod, yields_bind, yields_orFail, yields_onlyArg, yields_ofExcept,
    columnOf_eq_ok_iff] at yields
  rcases yields with
    ⟨member, _, ⟨named, rfl⟩, arg, _, ⟨rfl, rfl⟩, value, _, ⟨captured, rfl⟩, column, _,
     ⟨declared, rfl⟩, yields⟩
  split at yields
  next =>
      rcases yields_compileAgainst yields with ⟨grows, tests⟩
      exact ⟨grows, .equals named declared captured tests⟩
  next textual =>
      simp only [yields_bind, yields_pure] at yields
      rcases yields with ⟨name, _, bound, rfl, rfl⟩
      rcases bound.held with ⟨grows, holds⟩
      exact ⟨grows, .like named declared captured textual holds⟩
  next => exact absurd yields yields_throw

theorem yields_compile {expr : Expr}
    (yields : (compile schema expr).Yields before condition after) :
    before.bindings.Grows after.bindings ∧ StandsFor schema after.bindings expr condition := by
  fun_induction compile schema expr generalizing before condition after with
  | case1 operand inner =>
      rcases inner yields with ⟨grows, stands⟩
      exact ⟨grows, .convert stands⟩
  | case2 left right first second =>
      simp only [yields_bind, yields_pure] at yields
      rcases yields with ⟨a, middle, left, b, _, right, rfl, rfl⟩
      rcases first left with ⟨grows, standsLeft⟩
      rcases second right with ⟨more, standsRight⟩
      exact ⟨grows.trans more, .and (standsLeft.grows more) standsRight⟩
  | case3 left right first second =>
      simp only [yields_bind, yields_pure] at yields
      rcases yields with ⟨a, middle, left, b, _, right, rfl, rfl⟩
      rcases first left with ⟨grows, standsLeft⟩
      rcases second right with ⟨more, standsRight⟩
      exact ⟨grows.trans more, .or (standsLeft.grows more) standsRight⟩
  | case4 op left right =>
      simp only [compileComparison, yields_bind, yields_orFail, yields_ofExcept,
        columnOf_eq_ok_iff] at yields
      rcases yields with
        ⟨member, _, ⟨named, rfl⟩, column, _, ⟨declared, rfl⟩, value, _, ⟨captured, rfl⟩, yields⟩
      rcases yields_compileAgainst yields with ⟨grows, tests⟩
      exact ⟨grows, .comparison named declared captured tests⟩
  | case5 op left right => exact absurd yields yields_throw
  | case6 operand inner =>
      simp only [yields_bind, yields_pure] at yields
      rcases yields with ⟨condition, _, yields, rfl, rfl⟩
      rcases inner yields with ⟨grows, stands⟩
      exact ⟨grows, .not stands⟩
  | case7 target method args =>
      rw [compileCall.eq_def] at yields
      split at yields
      next captured => exact yields_compileMembership captured yields
      next => exact yields_compileMethod yields
  | case8 name =>
      simp only [compileMember, yields_bind, yields_ofExcept, columnOf_eq_ok_iff] at yields
      rcases yields with ⟨column, _, ⟨declared, rfl⟩, yields⟩
      split at yields
      next truth =>
          simp only [yields_bind, yields_pure] at yields
          rcases yields with ⟨placeholder, _, bound, rfl, rfl⟩
          rcases bound.held with ⟨grows, holds⟩
          exact ⟨grows, .member declared truth holds⟩
      next => exact absurd yields yields_throw
  | case9 truth =>
      rcases yields_pure.mp yields with ⟨rfl, rfl⟩
      exact ⟨.refl _, .constant truth⟩
  | case10 expr => exact absurd yields yields_throw

end

end Condition

end BoundSql.Sql
