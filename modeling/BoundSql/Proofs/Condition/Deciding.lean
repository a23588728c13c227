import BoundSql.Proofs.Condition.Language
import BoundSql.Proofs.Numbering

/-!
What compiling makes of an expression. `Compiler.Decides` says of a compiler on what it succeeds
and with which errors it fails, and goes through a compiler step by step; `decides_compile` says
that conditions are compiled and that everything else fails with its first fault.
-/

namespace BoundSql.Sql

open Entity

/-! ## Compilers that decide -/

namespace Compiler

/-- Over numbered bindings a compiler succeeds exactly on what is accepted, and it fails exactly
with the errors with which it is refused. -/
def Decides (compiler : Compiler α) (accepted : Prop) (refused : CompileError → Prop) : Prop :=
  ∀ before : Scratch, before.bindings.Numbered →
    (compiler.outcome before).2.bindings.Numbered ∧
      ((∃ result, (compiler.outcome before).1 = .ok result) ↔ accepted) ∧
      ∀ error, (compiler.outcome before).1 = .error error ↔ refused error

variable {accepted accepted' : Prop} {refused refused' : CompileError → Prop}

theorem Decides.congr {compiler : Compiler α} (decides : compiler.Decides accepted refused)
    (same : accepted ↔ accepted') (same' : ∀ error, refused error ↔ refused' error) :
    compiler.Decides accepted' refused' := by
  intro before numbered
  rcases decides before numbered with ⟨still, accepts, refuses⟩
  exact ⟨still, accepts.trans same, fun error => (refuses error).trans (same' error)⟩

theorem decides_pure (result : α) : Decides (pure result) True fun _ => False := by
  intro before numbered
  have run : (pure result : Compiler α).outcome before = (.ok result, before) := rfl
  simp [run, numbered]

theorem decides_throw (e : CompileError) :
    Decides (throw e : Compiler α) False fun error => error = e := by
  intro before numbered
  have run : (throw e : Compiler α).outcome before = (.error e, before) := rfl
  simp [run, numbered, eq_comm]

theorem decides_bind {first : Compiler α} {next : α → Compiler β}
    (start : first.Decides accepted refused)
    (finish : ∀ value, (next value).Decides accepted' refused') :
    (first >>= next).Decides (accepted ∧ accepted')
      fun error => refused error ∨ accepted ∧ refused' error := by
  intro before numbered
  rcases start before numbered with ⟨still, accepts, refuses⟩
  rw [outcome_bind]
  rcases outcome : first.outcome before with ⟨e | value, middle⟩
  case error =>
      rw [outcome] at still accepts refuses
      have not : ¬ accepted := by simp [← accepts]
      simp only [not, ← refuses]
      simp [still]
  case ok =>
      rw [outcome] at still accepts refuses
      have yes : accepted := accepts.mp ⟨value, rfl⟩
      have never (error) : ¬ refused error := by simp [← refuses]
      simpa [yes, never] using finish value middle still

theorem decides_ofExcept {given : Except CompileError α} {next : α → Compiler β}
    {accepted : α → Prop} {refused : α → CompileError → Prop}
    (rest : ∀ value, given = .ok value → (next value).Decides (accepted value) (refused value)) :
    (MonadExcept.ofExcept given >>= next).Decides (∃ value, given = .ok value ∧ accepted value)
      fun error => given = .error error ∨ ∃ value, given = .ok value ∧ refused value error := by
  cases given with
  | error e =>
      exact (decides_throw e).congr (by simp) fun error => by simp [eq_comm]
  | ok value =>
      exact (rest value rfl).congr (by simp) fun error => by simp

theorem decides_orFail {e : CompileError} {found : Option α} {next : α → Compiler β}
    {accepted : α → Prop} {refused : α → CompileError → Prop}
    (rest : ∀ value, found = some value → (next value).Decides (accepted value) (refused value)) :
    (Condition.orFail e found >>= next).Decides (∃ value, found = some value ∧ accepted value)
      fun error => (found = none ∧ error = e) ∨
        ∃ value, found = some value ∧ refused value error := by
  cases found with
  | none => exact (decides_throw e).congr (by simp) fun error => by simp
  | some value => exact (rest value rfl).congr (by simp) fun error => by simp

theorem decides_bindValue (value : Value) :
    (Compiler.bind value).Decides True fun _ => False := by
  intro before numbered
  rcases numbered.bind value with ⟨after, bound, still, -⟩
  rw [outcome_bindValue, bound]
  simp [still]

theorem decides_bindValue_bind {value : Value} {next : String → Compiler β}
    (rest : ∀ name, (next name).Decides accepted refused) :
    (Compiler.bind value >>= next).Decides accepted refused :=
  (decides_bind (decides_bindValue value) rest).congr (by simp) fun error => by simp

theorem decides_report (notice : Notice) : (report notice).Decides True fun _ => False := by
  intro before numbered
  have run : (report notice).outcome before =
      (.ok (), { before with notices := before.notices ++ [notice] }) := rfl
  simp [run, numbered]

end Compiler

open Compiler

namespace Condition

variable {schema : Schema} {column : Column}

/-! ## Tests -/

/-- Compiling succeeds on the conditions, and refuses everything else for its first fault. -/
theorem decides_compileAgainst (op : Comparison) (value : Value) :
    (compileAgainst column op value).Decides (Comparable column op value)
      (Incomparable column op value) := by
  by_cases null : value = .null
  · subst null
    have bound (negated : Bool) :
        (Compiler.bind .null >>= fun name =>
          pure (Condition.isNull column.name negated name)).Decides True fun _ => False :=
      decides_bindValue_bind fun _ => decides_pure _
    have ordered := decides_throw (α := Condition) (.nullComparison column.name op.symbol)
    have accepts : Comparable column op .null ↔ _ := comparable_null_iff
    have refuses (error) : Incomparable column op .null error ↔ _ := incomparable_null_iff
    cases op with
    | equal => exact (bound false).congr (by simp [accepts]) fun error => by simp [refuses]
    | notEqual => exact (bound true).congr (by simp [accepts]) fun error => by simp [refuses]
    | _ => exact ordered.congr (by simp [accepts]) fun error => by simp [refuses]
  · have solid : ¬ value.isNull = true := by
      cases value <;> first | exact absurd rfl null | exact Bool.noConfusion
    unfold compileAgainst
    rw [if_neg solid]
    refine (decides_ofExcept fun stored _ => decides_bindValue_bind fun _ =>
      decides_pure _).congr ?_ fun error => ?_
    · simp only [and_true, comparable_iff_fits null, exists_boundValue_iff]
    · simp only [and_false, exists_false, or_false, incomparable_iff_misfit null,
        boundValue_eq_error_iff]

theorem decides_columnOf {member : String} {next : Column → Compiler β}
    {accepted : Column → Prop} {refused : Column → CompileError → Prop}
    (rest : ∀ column, (next column).Decides (accepted column) (refused column)) :
    (MonadExcept.ofExcept (columnOf schema member) >>= next).Decides
      (∃ column, schema.column? member = some column ∧ accepted column)
      fun error =>
        (schema.column? member = none ∧ error = .unknownMember schema.entity member) ∨
          ∃ column, schema.column? member = some column ∧ refused column error := by
  have failed (error : CompileError) : columnOf schema member = .error error ↔
      schema.column? member = none ∧ error = .unknownMember schema.entity member := by
    unfold columnOf
    cases schema.column? member <;> simp [eq_comm]
  refine (decides_ofExcept fun column _ => rest column).congr ?_ fun error => ?_
  · simp only [columnOf_eq_ok_iff]
  · simp only [columnOf_eq_ok_iff, failed]

theorem decides_compileComparison (op : Comparison) (left right : Expr) :
    (compileComparison schema op left right).Decides
      (∃ member column value, left.member? = some member ∧
        schema.column? member = some column ∧ right.constant? = some value ∧
          Comparable column op value)
      (ComparisonFault schema op left right) := by
  refine (decides_orFail fun member _ => decides_columnOf fun column => decides_orFail
    fun value _ => decides_compileAgainst op value).congr ?_ fun error => ⟨?_, ?_⟩
  · constructor
    · rintro ⟨member, named, column, declared, value, captured, comparable⟩
      exact ⟨member, column, value, named, declared, captured, comparable⟩
    · rintro ⟨member, column, value, named, declared, captured, comparable⟩
      exact ⟨member, named, column, declared, value, captured, comparable⟩
  · rintro (⟨unnamed, rfl⟩ | ⟨member, named, ⟨undeclared, rfl⟩ | ⟨column, declared,
      ⟨uncaptured, rfl⟩ | ⟨value, captured, incomparable⟩⟩⟩)
    · exact .unnamed unnamed
    · exact .undeclared named undeclared
    · exact .uncaptured named declared uncaptured
    · exact .incomparable named declared captured incomparable
  · intro fault
    cases fault with
    | unnamed unnamed => exact .inl ⟨unnamed, rfl⟩
    | undeclared named undeclared => exact .inr ⟨_, named, .inl ⟨undeclared, rfl⟩⟩
    | uncaptured named declared uncaptured =>
        exact .inr ⟨_, named, .inr ⟨_, declared, .inl ⟨uncaptured, rfl⟩⟩⟩
    | incomparable named declared captured incomparable =>
        exact .inr ⟨_, named, .inr ⟨_, declared, .inr ⟨_, captured, incomparable⟩⟩⟩

theorem decides_bindAll (items : List Value) :
    (bindAll column items).Decides (∀ item ∈ items, Fits column item) fun error =>
      ∃ before item after, items = before ++ item :: after ∧
        (∀ item ∈ before, Fits column item) ∧ Misfit column item error := by
  induction items with
  | nil => exact (decides_pure _).congr (by simp) fun error => by simp
  | cons item items induction =>
      refine (decides_ofExcept fun stored _ => decides_bindValue_bind fun _ =>
        decides_bind induction fun _ => decides_pure _).congr ?_ fun error => ⟨?_, ?_⟩
      · rw [List.forall_mem_cons, ← exists_boundValue_iff]
        simp
      · simp only [and_false, or_false, boundValue_eq_error_iff]
        rintro (misfit | ⟨stored, bound, before, item', after, rfl, fit, misfit⟩)
        · exact ⟨[], item, items, rfl, by simp, misfit⟩
        · have first := (exists_boundValue_iff column item).mp ⟨stored, bound⟩
          exact ⟨item :: before, item', after, rfl, List.forall_mem_cons.mpr ⟨first, fit⟩, misfit⟩
      · simp only [and_false, or_false, boundValue_eq_error_iff]
        rintro ⟨before, item', after, split, fit, misfit⟩
        cases before with
        | nil =>
            rcases List.cons.inj split with ⟨rfl, -⟩
            exact .inl misfit
        | cons first before =>
            rcases List.cons.inj split with ⟨rfl, rest⟩
            rcases List.forall_mem_cons.mp fit with ⟨fits, others⟩
            rcases (exists_boundValue_iff column item).mpr fits with ⟨stored, bound⟩
            exact .inr ⟨stored, bound, before, item', after, rest, others, misfit⟩

theorem decides_compileMembership (target : Value) (args : List Expr) :
    (compileMembership schema target args).Decides
      (∃ items member column, target = .list items ∧
        args.head?.bind Expr.member? = some member ∧ schema.column? member = some column ∧
          ∀ item ∈ items, Fits column item)
      (MembershipFault schema target args) := by
  unfold compileMembership
  split
  next items =>
      have among (column : Column) :
          (if items.isEmpty then do
              Compiler.report (emptyListNotice column)
              return .always false
            else return .among column.name (← bindAll column items) :
            Compiler Condition).Decides (∀ item ∈ items, Fits column item) fun error =>
              ∃ before item after, items = before ++ item :: after ∧
                (∀ item ∈ before, Fits column item) ∧ Misfit column item error := by
        split
        next empty =>
            rw [List.isEmpty_iff.mp empty]
            exact (decides_bind (decides_report _) fun _ => decides_pure _).congr (by simp)
              fun error => by simp
        next =>
            exact (decides_bind (decides_bindAll items) fun _ => decides_pure _).congr (by simp)
              fun error => by simp
      refine (decides_orFail fun member _ => decides_columnOf among).congr ?_
        fun error => ⟨?_, ?_⟩
      · constructor
        · rintro ⟨member, named, column, declared, fit⟩
          exact ⟨items, member, column, rfl, named, declared, fit⟩
        · rintro ⟨_, member, column, ⟨⟩, named, declared, fit⟩
          exact ⟨member, named, column, declared, fit⟩
      · rintro (⟨unnamed, rfl⟩ | ⟨member, named, ⟨undeclared, rfl⟩ | ⟨column, declared, before,
          item, after, rfl, fit, misfit⟩⟩)
        · exact .unnamed rfl unnamed
        · exact .undeclared rfl named undeclared
        · exact .misfit rfl named declared fit misfit
      · intro fault
        cases fault with
        | single single => exact absurd rfl (single items)
        | unnamed _ unnamed => exact .inl ⟨unnamed, rfl⟩
        | undeclared _ named undeclared => exact .inr ⟨_, named, .inl ⟨undeclared, rfl⟩⟩
        | misfit isList named declared fit misfit =>
            exact .inr ⟨_, named, .inr ⟨_, declared, _, _, _, Value.list.inj isList, fit, misfit⟩⟩
  next single =>
      refine (decides_throw _).congr ?_ fun error => ⟨?_, ?_⟩
      · refine iff_of_false id ?_
        rintro ⟨items, _, _, isList, -⟩
        exact single items isList
      · rintro rfl
        exact .single single
      · intro fault
        cases fault with
        | single => rfl
        | unnamed isList => exact absurd isList (single _)
        | undeclared isList => exact absurd isList (single _)
        | misfit isList => exact absurd isList (single _)

theorem decides_onlyArg (method : Method) {args : List Expr} {next : Expr → Compiler β}
    {accepted : Expr → Prop} {refused : Expr → CompileError → Prop}
    (rest : ∀ arg, (next arg).Decides (accepted arg) (refused arg)) :
    (onlyArg method args >>= next).Decides (∃ arg, args = [arg] ∧ accepted arg)
      fun error =>
        (args.length ≠ 1 ∧ error = unsupported (method.word ++ "() takes one argument, got " ++
          SchemaError.number args.length)) ∨ ∃ arg, args = [arg] ∧ refused arg error := by
  unfold onlyArg
  split
  next arg => exact (rest arg).congr (by simp) fun error => by simp
  next crowded =>
      have not (arg : Expr) : args ≠ [arg] := crowded arg
      have length : args.length ≠ 1 := by
        rw [Ne, List.length_eq_one_iff]
        exact fun ⟨arg, only⟩ => not arg only
      exact (decides_throw (α := β) _).congr (by simp [not]) fun error => by simp [not, length]

/-- What a method makes of its argument: `Equals` compares with any value, the other methods
need a text. -/
def compileArgument (method : Method) (value : Value) (column : Column) : Compiler Condition := do
  match method, value with
  | .equals, _ => compileAgainst column .equal value
  | _, .text text => return .like column.name (← Compiler.bind (.text (patternOf method text)))
  | _, _ =>
      throw (unsupported
        (method.word ++ "() needs a text argument, found " ++ value.typeName))

theorem decides_compileArgument (method : Method) (value : Value) (column : Column) :
    (compileArgument method value column).Decides
      ((method = .equals ∧ Comparable column .equal value) ∨
        (method ≠ .equals ∧ ∃ text, value = .text text))
      fun error => (method = .equals ∧ Incomparable column .equal value error) ∨
        (method ≠ .equals ∧ (∀ text, value ≠ .text text) ∧ error = unsupported
          (method.word ++ "() needs a text argument, found " ++ value.typeName)) := by
  unfold compileArgument
  split
  next => exact (decides_compileAgainst .equal value).congr (by simp) fun error => by simp
  next text other =>
      have textual : method ≠ .equals := other
      exact (decides_bindValue_bind fun _ => decides_pure _).congr (by simp [textual])
        fun error => by simp [textual]
  next other textless =>
      have textual : method ≠ .equals := other
      have lacks : ∀ text, value ≠ .text text := textless
      exact (decides_throw _).congr (by simp [textual, lacks])
        fun error => by simp [textual, lacks]

theorem decides_compileMethod (target : Expr) (method : Method) (args : List Expr) :
    (compileMethod schema target method args).Decides
      (∃ member arg value column, target.member? = some member ∧ args = [arg] ∧
        arg.constant? = some value ∧ schema.column? member = some column ∧
          ((method = .equals ∧ Comparable column .equal value) ∨
            (method ≠ .equals ∧ ∃ text, value = .text text)))
      (MethodFault schema target method args) := by
  refine (decides_orFail fun member _ => decides_onlyArg method fun arg => decides_orFail
    fun value _ => decides_columnOf fun column =>
      decides_compileArgument method value column).congr ?_
      fun error => ⟨?_, ?_⟩
  · constructor
    · rintro ⟨member, named, arg, only, value, captured, column, declared, takes⟩
      exact ⟨member, arg, value, column, named, only, captured, declared, takes⟩
    · rintro ⟨member, arg, value, column, named, only, captured, declared, takes⟩
      exact ⟨member, named, arg, only, value, captured, column, declared, takes⟩
  · rintro (⟨unnamed, rfl⟩ | ⟨member, named, ⟨crowded, rfl⟩ | ⟨arg, only, ⟨uncaptured, rfl⟩ |
      ⟨value, captured, ⟨undeclared, rfl⟩ | ⟨column, declared, ⟨equals, incomparable⟩ |
        ⟨textual, textless, rfl⟩⟩⟩⟩⟩)
    · exact .unnamed unnamed
    · exact .crowded named crowded
    · exact .uncaptured named only uncaptured
    · exact .undeclared named only captured undeclared
    · exact .incomparable named only captured declared equals incomparable
    · exact .textless named only captured declared textual textless
  · intro fault
    cases fault with
    | unnamed unnamed => exact .inl ⟨unnamed, rfl⟩
    | crowded named crowded => exact .inr ⟨_, named, .inl ⟨crowded, rfl⟩⟩
    | uncaptured named only uncaptured =>
        exact .inr ⟨_, named, .inr ⟨_, only, .inl ⟨uncaptured, rfl⟩⟩⟩
    | undeclared named only captured undeclared =>
        exact .inr ⟨_, named, .inr ⟨_, only, .inr ⟨_, captured, .inl ⟨undeclared, rfl⟩⟩⟩⟩
    | incomparable named only captured declared equals incomparable =>
        exact .inr ⟨_, named, .inr ⟨_, only, .inr ⟨_, captured, .inr ⟨_, declared,
          .inl ⟨equals, incomparable⟩⟩⟩⟩⟩
    | textless named only captured declared textual textless =>
        exact .inr ⟨_, named, .inr ⟨_, only, .inr ⟨_, captured, .inr ⟨_, declared,
          .inr ⟨textual, textless, rfl⟩⟩⟩⟩⟩

theorem decides_compileCall (target : Expr) (method : Method) (args : List Expr) :
    (compileCall schema target method args).Decides (Accepts schema (.call target method args))
      (Refuses schema (.call target method args)) := by
  by_cases onMember : method = .contains → target.constant? = none
  · have same : compileCall schema target method args =
        compileMethod schema target method args := by
      unfold compileCall
      split
      next _ _ captured =>
          rw [onMember rfl] at captured
          contradiction
      next => rfl
    rw [same]
    exact (decides_compileMethod target method args).congr (accepts_method_iff onMember).symm
      fun error => (refuses_method_iff onMember).symm
  · push Not at onMember
    rcases onMember with ⟨rfl, listed⟩
    rcases Option.ne_none_iff_exists'.mp listed with ⟨value, captured⟩
    have same : compileCall schema target .contains args =
        compileMembership schema value args := by
      unfold compileCall
      rw [captured]
    rw [same]
    exact (decides_compileMembership value args).congr (accepts_membership_iff captured).symm
      fun error => (refuses_membership_iff captured).symm

theorem decides_compileMember (name : String) :
    (compileMember schema name).Decides (Accepts schema (.member name))
      (Refuses schema (.member name)) := by
  have last (column : Column) :
      (if column.kind = .bool then do
          return .compare column.name .equal (← Compiler.bind (.bool true))
        else
          throw (unsupported (column.kind.name ++ " member \x60" ++ name ++
            "\x60 used as a condition")) : Compiler Condition).Decides (column.kind = .bool)
        fun error => column.kind ≠ .bool ∧ error = unsupported
          (column.kind.name ++ " member \x60" ++ name ++ "\x60 used as a condition") := by
    split
    next bool =>
        exact (decides_bindValue_bind fun _ => decides_pure _).congr (by simp [bool])
          fun error => by simp [bool]
    next valued => exact (decides_throw _).congr (by simp [valued]) fun error => by simp [valued]
  refine (decides_columnOf last).congr ⟨?_, ?_⟩ fun error => ⟨?_, ?_⟩
  · rintro ⟨column, declared, bool⟩
    exact .member declared bool
  · intro accepted
    cases accepted with
    | member declared bool => exact ⟨_, declared, bool⟩
  · rintro (⟨undeclared, rfl⟩ | ⟨column, declared, valued, rfl⟩)
    · exact .undeclared undeclared
    · exact .member declared valued
  · intro refused
    cases refused with
    | undeclared undeclared => exact .inl ⟨undeclared, rfl⟩
    | member declared valued => exact .inr ⟨_, declared, valued, rfl⟩

/-! ## Expressions -/

theorem decides_arithmetic (op : Arithmetic) (left right : Expr) :
    (compile schema (.binary (.compute op) left right)).Decides
      (Accepts schema (.binary (.compute op) left right))
      (Refuses schema (.binary (.compute op) left right)) := by
  rw [compile]
  refine (decides_throw _).congr (iff_of_false id ?_) fun error => ⟨?_, ?_⟩
  · intro accepted
    cases accepted with
    | connective connects => simp at connects
  · rintro rfl
    exact .arithmetic
  · intro refused
    cases refused with
    | left connects => simp at connects
    | right connects => simp at connects
    | arithmetic => rfl

theorem decides_constant (value : Value) :
    (compile schema (.constant value)).Decides (Accepts schema (.constant value))
      (Refuses schema (.constant value)) := by
  by_cases isTruth : ∃ truth, value = .bool truth
  · rcases isTruth with ⟨truth, rfl⟩
    rw [compile]
    refine (decides_pure _).congr (iff_of_true trivial (.constant truth))
      fun error => iff_of_false id ?_
    intro refused
    cases refused with
    | constant valued => exact valued truth rfl
  · have valued : ∀ truth, value ≠ .bool truth := fun truth equal => isTruth ⟨truth, equal⟩
    have thrown : compile schema (.constant value) =
        throw (unsupported (Expr.constant value).shape) := by
      cases value <;> first | rfl | exact absurd rfl (valued _)
    rw [thrown]
    refine (decides_throw _).congr (iff_of_false id ?_) fun error => ⟨?_, ?_⟩
    · intro accepted
      cases accepted with
      | constant truth => exact valued truth rfl
    · rintro rfl
      exact .constant valued
    · intro refused
      cases refused with
      | constant => rfl

theorem decides_compile :
    ∀ expr, (compile schema expr).Decides (Accepts schema expr) (Refuses schema expr)
  | .unary .convert operand => by
      rw [compile]
      exact (decides_compile operand).congr accepts_convert_iff.symm
        fun error => refuses_convert_iff.symm
  | .unary .not operand => by
      rw [compile]
      exact (decides_bind (decides_compile operand) fun _ => decides_pure _).congr
        (by simp [accepts_not_iff]) fun error => by simp [refuses_not_iff]
  | .binary .and left right => by
      rw [compile]
      refine (decides_bind (decides_compile left) fun _ =>
        decides_bind (decides_compile right) fun _ => decides_pure _).congr ?_ fun error => ?_
      · rw [accepts_connective_iff (.inl rfl), and_true]
      · rw [refuses_connective_iff (.inl rfl), and_false, or_false]
  | .binary .or left right => by
      rw [compile]
      refine (decides_bind (decides_compile left) fun _ =>
        decides_bind (decides_compile right) fun _ => decides_pure _).congr ?_ fun error => ?_
      · rw [accepts_connective_iff (.inr rfl), and_true]
      · rw [refuses_connective_iff (.inr rfl), and_false, or_false]
  | .binary (.compare op) left right => by
      rw [compile]
      exact (decides_compileComparison op left right).congr accepts_comparison_iff.symm
        fun error => refuses_comparison_iff.symm
  | .binary (.compute op) left right => decides_arithmetic op left right
  | .call target method args => by
      rw [compile]
      exact decides_compileCall target method args
  | .member name => by
      rw [compile]
      exact decides_compileMember name
  | .constant value => decides_constant value
  | .assign bindings =>
      (decides_throw _).congr (iff_of_false id nofun)
        fun error => ⟨fun thrown => thrown ▸ .assign bindings, fun | .assign _ => rfl⟩
  | .fields items =>
      (decides_throw _).congr (iff_of_false id nofun)
        fun error => ⟨fun thrown => thrown ▸ .fields items, fun | .fields _ => rfl⟩

/-- An expression is compiled over bindings made by binding exactly if it stands for a condition,
and an error is that of its first fault. -/
theorem compile_accepts_exactly (schema : Schema) (sigil : String) (values : List Value)
    (expr : Expr) :
    let bindings := values.foldl (fun bindings value => (bindings.bind value).2) (.empty sigil)
    let outcome := ((compile schema expr).run bindings).1
    ((∃ condition, outcome = .ok condition) ↔ Accepts schema expr) ∧
      ((∃ error, outcome = .error error) ↔ ¬ Accepts schema expr) ∧
        ∀ error, outcome = .error error ↔ Refuses schema expr error := by
  intro bindings outcome
  have decides : (compile schema expr).Decides _ _ := decides_compile expr
  rcases decides { bindings } (Bindings.numbered_foldl sigil values) with ⟨-, accepts, refuses⟩
  refine ⟨accepts, ?_, refuses⟩
  rw [← accepts]
  change (∃ error, outcome = _) ↔ ¬ ∃ condition, outcome = _
  cases outcome <;> simp

end Condition

end BoundSql.Sql
