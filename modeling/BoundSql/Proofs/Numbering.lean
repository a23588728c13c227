import Mathlib.Data.List.Nodup
import BoundSql.Proofs.Write
import BoundSql.Proofs.Number.Digits

/-!
The numbers of placeholders. Bindings that start empty have names numbered from zero without
a gap, so the next name is always new. `Compiler.Emits` says of a compiler that it gives out
fresh names in the order in which its result has them, and that no name ever comes twice.
-/

namespace BoundSql.Sql

open Entity

/-! ## Numbered bindings -/

namespace Bindings

structure Numbered (bindings : Bindings) : Prop where
  next : bindings.next = bindings.size
  names : bindings.names = (List.range bindings.size).map (nameOf bindings.sigil)

/-- What binding values makes of bindings, with the names that are added. -/
structure Adds (before : Bindings) (added : List String) (after : Bindings) : Prop where
  sigil : after.sigil = before.sigil
  entries : ∃ more, after.entries = before.entries ++ more ∧ more.map Prod.fst = added

theorem nameOf_injective (sigil : String) : Function.Injective (nameOf sigil) := by
  intro first second equal
  have row := congrArg String.toList equal
  simp only [nameOf, String.toList_append, String.toList_ofList] at row
  exact Number.digits_injective (List.append_cancel_left row)

theorem numbered_empty (sigil : String) : (empty sigil).Numbered := ⟨rfl, rfl⟩

variable {bindings before after : Bindings}

theorem Numbered.nodup (numbered : bindings.Numbered) : bindings.names.Nodup := by
  rw [numbered.names]
  exact List.nodup_range.map (nameOf_injective _)

theorem Adds.refl (bindings : Bindings) : bindings.Adds [] bindings :=
  ⟨rfl, [], by simp⟩

theorem Adds.trans {last : Bindings} {added more : List String} (first : before.Adds added after)
    (second : after.Adds more last) : before.Adds (added ++ more) last := by
  rcases first.entries with ⟨entries, equal, names⟩
  rcases second.entries with ⟨others, equal', names'⟩
  refine ⟨second.sigil.trans first.sigil, entries ++ others, ?_, ?_⟩
  · rw [equal', equal, List.append_assoc]
  · rw [List.map_append, names, names']

theorem Adds.names {added : List String} (adds : before.Adds added after) :
    after.names = before.names ++ added := by
  rcases adds.entries with ⟨more, equal, names⟩
  rw [Bindings.names, equal, List.map_append, names, Bindings.names]

theorem Adds.nodup {added : List String} (adds : before.Adds added after)
    (numbered : after.Numbered) : added.Nodup := by
  have all := numbered.nodup
  rw [adds.names] at all
  exact List.Nodup.of_append_right all

theorem Numbered.bind (numbered : bindings.Numbered) (value : Value) :
    ∃ after, bindings.bind value = (.ok (nameOf bindings.sigil bindings.size), after) ∧
      after.Numbered ∧ bindings.Adds [nameOf bindings.sigil bindings.size] after := by
  have fresh : nameOf bindings.sigil bindings.size ∉ bindings.names := by
    rw [numbered.names]
    intro member
    rcases List.mem_map.mp member with ⟨number, inside, equal⟩
    rw [nameOf_injective _ equal, List.mem_range] at inside
    exact Nat.lt_irrefl _ inside
  have names := numbered.names
  rw [Bindings.bind, numbered.next, if_neg (by simpa using fresh)]
  refine ⟨_, rfl, ⟨?_, ?_⟩, ⟨rfl, _, rfl, rfl⟩⟩
  · simp [size]
  · simp only [Bindings.names, size] at names
    simp [Bindings.names, size, names, List.range_succ]

theorem numbered_foldl (sigil : String) (values : List Value) :
    (values.foldl (fun bindings value => (bindings.bind value).2) (empty sigil)).Numbered := by
  have still : ∀ bindings : Bindings, bindings.Numbered →
      (values.foldl (fun bindings value => (bindings.bind value).2) bindings).Numbered := by
    induction values with
    | nil => exact fun _ numbered => numbered
    | cons value values induction =>
        intro bindings numbered
        rcases numbered.bind value with ⟨after, bound, kept, _⟩
        rw [List.foldl_cons, bound]
        exact induction after kept
  exact still _ (numbered_empty sigil)

end Bindings

/-! ## Compilers that give out numbers -/

def CompileError.isCollision : CompileError → Bool
  | .parameterCollision _ => true
  | _ => false

def Safe (given : Except CompileError α) : Prop := ∀ e, given = .error e → e.isCollision = false

theorem Safe.ok {value : α} : Safe (.ok value) := by
  intro e equal
  contradiction

theorem Safe.error {e : CompileError} (other : e.isCollision = false) :
    Safe (.error e : Except CompileError α) := by
  intro e' equal
  rcases Except.error.inj equal with rfl
  exact other

theorem Safe.bind {given : Except CompileError α} {next : α → Except CompileError β}
    (first : Safe given) (rest : ∀ value, Safe (next value)) : Safe (given >>= next) := by
  cases given with
  | error e => exact Safe.error (first e rfl)
  | ok value => exact rest value

theorem safe_columnOf (schema : Schema) (member : String) : Safe (columnOf schema member) := by
  unfold columnOf
  split
  next => exact Safe.ok
  next => exact Safe.error rfl

theorem safe_coerceFor (column : Column) (value : Value) : Safe (coerceFor column value) := by
  unfold coerceFor
  split
  next => exact Safe.ok
  next => exact Safe.error rfl

namespace Compiler

/-- A compiler that binds to numbered names what its result has: the names that it adds go
with the result, and it never fails because of a name. -/
def Emits (compiler : Compiler α) (goesWith : α → List String → Prop) : Prop :=
  ∀ before : Scratch, before.bindings.Numbered →
    (compiler.outcome before).2.bindings.Numbered ∧
      match (compiler.outcome before).1 with
      | .ok result => ∃ added, goesWith result added ∧
          before.bindings.Adds added (compiler.outcome before).2.bindings
      | .error e => e.isCollision = false

variable {goesWith : α → List String → Prop} {others : β → List String → Prop}

theorem emits_pure {result : α} (holds : goesWith result []) : Emits (pure result) goesWith :=
  fun _ numbered => ⟨numbered, [], holds, .refl _⟩

theorem emits_throw {e : CompileError} (other : e.isCollision = false) :
    Emits (throw e) goesWith :=
  fun _ numbered => ⟨numbered, other⟩

theorem emits_bind {first : Compiler α} {next : α → Compiler β} (start : Emits first goesWith)
    (finish : ∀ value names, goesWith value names →
      Emits (next value) fun result more => others result (names ++ more)) :
    Emits (first >>= next) others := by
  intro before numbered
  have begun := start before numbered
  rw [outcome_bind]
  revert begun
  rcases first.outcome before with ⟨e | value, middle⟩ <;> intro begun
  · exact begun
  · rcases begun with ⟨still, names, holds, adds⟩
    have ended := finish value names holds middle still
    refine ⟨ended.1, ?_⟩
    revert ended
    dsimp only
    rcases (next value).outcome middle with ⟨e | result, after⟩ <;> intro ended
    · exact ended.2
    · rcases ended.2 with ⟨more, holds', adds'⟩
      exact ⟨names ++ more, holds', adds.trans adds'⟩

theorem emits_ofExcept {given : Except CompileError α} {next : α → Compiler β}
    (safe : Safe given) (finish : ∀ value, given = .ok value → Emits (next value) others) :
    Emits (MonadExcept.ofExcept given >>= next) others := by
  cases given with
  | error e => exact emits_throw (safe e rfl)
  | ok value => exact finish value rfl

theorem emits_orFail {e : CompileError} {found : Option α} {next : α → Compiler β}
    (other : e.isCollision = false) (finish : ∀ value, Emits (next value) others) :
    Emits (Condition.orFail e found >>= next) others := by
  cases found with
  | none => exact emits_throw other
  | some value => exact finish value

theorem emits_report {notice : Notice} {next : Unit → Compiler β}
    (finish : Emits (next ()) others) : Emits (report notice >>= next) others := by
  have silent : Emits (report notice) fun _ names => names = [] :=
    fun _ numbered => ⟨numbered, [], rfl, .refl _⟩
  apply emits_bind silent
  intro _ names equal
  subst equal
  exact finish

theorem emits_bindValue {value : Value} {next : String → Compiler β}
    (finish : ∀ name, Emits (next name) fun result more => others result (name :: more)) :
    Emits (Compiler.bind value >>= next) others := by
  have once : Emits (Compiler.bind value) fun name names => names = [name] := by
    intro before numbered
    rcases numbered.bind value with ⟨after, bound, still, adds⟩
    have run : (Compiler.bind value).outcome before =
        (.ok (Bindings.nameOf before.bindings.sigil before.bindings.size),
          { before with bindings := after }) := by
      rw [outcome_bindValue, bound]
    rw [run]
    exact ⟨still, _, rfl, adds⟩
  apply emits_bind once
  intro name names equal
  subst equal
  exact finish name

end Compiler

open Compiler

/-! ## Conditions -/

namespace Condition

def placeholders : Condition → List String
  | .always _ => []
  | .compare _ _ name => [name]
  | .isNull _ _ name => [name]
  | .like _ name => [name]
  | .among _ names => names
  | .and left right => placeholders left ++ placeholders right
  | .or left right => placeholders left ++ placeholders right
  | .not operand => placeholders operand

variable {schema : Schema}

theorem safe_boundValue (column : Column) (value : Value) : Safe (boundValue column value) := by
  unfold boundValue
  split
  next => exact safe_coerceFor _ _
  next => exact safe_coerceFor _ _
  next => exact Safe.error rfl
  next => exact Safe.ok

theorem emits_compileAgainst (column : Column) (op : Comparison) (value : Value) :
    Emits (compileAgainst column op value) (placeholders · = ·) := by
  unfold compileAgainst
  split
  next =>
      split
      next => exact emits_bindValue fun _ => emits_pure rfl
      next => exact emits_bindValue fun _ => emits_pure rfl
      next => exact emits_throw rfl
  next =>
      apply emits_ofExcept (safe_boundValue column value)
      intro stored _
      exact emits_bindValue fun _ => emits_pure rfl

theorem emits_bindAll (column : Column) (items : List Value) :
    Emits (bindAll column items) (· = ·) := by
  induction items with
  | nil => exact emits_pure rfl
  | cons item items induction =>
      apply emits_ofExcept (safe_boundValue column item)
      intro stored _
      apply emits_bindValue
      intro name
      apply emits_bind induction
      intro rest names equal
      subst equal
      exact emits_pure (by simp)

theorem emits_compileComparison (op : Comparison) (left right : Expr) :
    Emits (compileComparison schema op left right) (placeholders · = ·) := by
  apply emits_orFail rfl
  intro member
  apply emits_ofExcept (safe_columnOf schema member)
  intro column _
  apply emits_orFail rfl
  intro value
  exact emits_compileAgainst column op value

theorem emits_compileMembership (target : Value) (args : List Expr) :
    Emits (compileMembership schema target args) (placeholders · = ·) := by
  unfold compileMembership
  split
  next items =>
      apply emits_orFail rfl
      intro member
      apply emits_ofExcept (safe_columnOf schema member)
      intro column _
      split
      next => exact emits_report (emits_pure rfl)
      next =>
          apply emits_bind (emits_bindAll column items)
          intro rest names equal
          subst equal
          exact emits_pure (by simp [placeholders])
  next => exact emits_throw rfl

theorem emits_compileMethod (target : Expr) (method : Method) (args : List Expr) :
    Emits (compileMethod schema target method args) (placeholders · = ·) := by
  apply emits_orFail rfl
  intro member
  have only : Emits (onlyArg method args) fun _ names => names = [] := by
    unfold onlyArg
    split
    next => exact emits_pure rfl
    next => exact emits_throw rfl
  apply emits_bind only
  intro arg names equal
  subst equal
  apply emits_orFail rfl
  intro value
  apply emits_ofExcept (safe_columnOf schema member)
  intro column _
  split
  next => exact emits_compileAgainst column .equal value
  next => exact emits_bindValue fun _ => emits_pure rfl
  next => exact emits_throw rfl

theorem emits_compile (expr : Expr) : Emits (compile schema expr) (placeholders · = ·) := by
  fun_induction compile schema expr with
  | case1 operand inner => exact inner
  | case2 left right first second =>
      apply emits_bind first
      intro a names equal
      apply emits_bind second
      intro b more equal'
      exact emits_pure (by simp [placeholders, equal, equal'])
  | case3 left right first second =>
      apply emits_bind first
      intro a names equal
      apply emits_bind second
      intro b more equal'
      exact emits_pure (by simp [placeholders, equal, equal'])
  | case4 op left right => exact emits_compileComparison op left right
  | case5 op left right => exact emits_throw rfl
  | case6 operand inner =>
      apply emits_bind inner
      intro condition names equal
      exact emits_pure (by simp [placeholders, equal])
  | case7 target method args =>
      unfold compileCall
      split
      next => exact emits_compileMembership _ args
      next => exact emits_compileMethod target _ args
  | case8 name =>
      apply emits_ofExcept (safe_columnOf schema name)
      intro column _
      split
      next => exact emits_bindValue fun _ => emits_pure rfl
      next => exact emits_throw rfl
  | case9 truth => exact emits_pure rfl
  | case10 expr => exact emits_throw rfl

end Condition

/-! ## Writes -/

def Term.placeholders : Term → List String
  | .placeholder name => [name]
  | .column _ => []
  | .compute _ left right => placeholders left ++ placeholders right

namespace Write

def placeholders (write : Write) : List String := write.value.placeholders

variable {schema : Schema}

theorem safe_targetOf (schema : Schema) (member : String) : Safe (targetOf schema member) := by
  apply Safe.bind (safe_columnOf schema member)
  intro column
  split
  next => exact Safe.error rfl
  next => exact Safe.ok

theorem safe_bindingsOf (clause : Clause) (expr : Expr) : Safe (bindingsOf clause expr) := by
  unfold bindingsOf
  split
  next => exact Safe.ok
  next => exact Safe.error rfl

theorem safe_valueOf (values : MemberValues) (member : String) :
    Safe (valueOf values member) := by
  unfold valueOf
  split
  next => exact Safe.ok
  next => exact Safe.error rfl

theorem emits_bindStored (column : Column) (value : Value) :
    Emits (bindStored column value) (placeholders · = ·) := by
  apply emits_ofExcept (safe_coerceFor column value)
  intro stored _
  exact emits_bindValue fun _ => emits_pure rfl

theorem emits_compileTerm (expr : Expr) :
    Emits (compileTerm schema expr) (Term.placeholders · = ·) := by
  fun_induction compileTerm schema expr with
  | case1 operand inner => exact inner
  | case2 items => exact emits_throw rfl
  | case3 value notList => exact emits_bindValue fun _ => emits_pure rfl
  | case4 member =>
      apply emits_ofExcept (safe_columnOf schema member)
      intro column _
      exact emits_pure rfl
  | case5 op left right first second =>
      apply emits_bind first
      intro a names equal
      apply emits_bind second
      intro b more equal'
      exact emits_pure (by simp [Term.placeholders, equal, equal'])
  | case6 => exact emits_throw rfl

theorem emits_compileUpdateItem (member : String) (value : Expr) :
    Emits (compileUpdateItem schema member value) (placeholders · = ·) := by
  apply emits_ofExcept (safe_targetOf schema member)
  intro column _
  split
  next constant _ => exact emits_bindStored column constant
  next =>
      apply emits_bind (emits_compileTerm value)
      intro term names equal
      exact emits_pure (by simp [placeholders, equal])

theorem emits_compileInsertItem (member : String) (value : Expr) :
    Emits (compileInsertItem schema member value) (placeholders · = ·) := by
  apply emits_ofExcept (safe_targetOf schema member)
  intro column _
  split
  next constant _ => exact emits_bindStored column constant
  next => exact emits_throw rfl

theorem emits_compileEach {item : String → Expr → Compiler Write}
    (emits : ∀ member value, Emits (item member value) (placeholders · = ·))
    (assignments : List (String × Expr)) :
    Emits (compileEach item assignments) (·.flatMap placeholders = ·) := by
  induction assignments with
  | nil => exact emits_pure rfl
  | cons assignment assignments induction =>
      apply emits_bind (emits assignment.1 assignment.2)
      intro write names equal
      apply emits_bind induction
      intro writes more equal'
      exact emits_pure (by simp [equal, equal'])

theorem emits_compileUpdate (expr : Expr) :
    Emits (compileUpdate schema expr) (·.flatMap placeholders = ·) := by
  apply emits_ofExcept (safe_bindingsOf .update expr)
  intro assignments _
  exact emits_compileEach emits_compileUpdateItem assignments

theorem emits_compileInsert (expr : Expr) :
    Emits (compileInsert schema expr) (·.flatMap placeholders = ·) := by
  apply emits_ofExcept (safe_bindingsOf .insert expr)
  intro assignments _
  exact emits_compileEach emits_compileInsertItem assignments

theorem emits_compileColumns (values : MemberValues) (columns : List Column) :
    Emits (compileColumns values columns) (·.flatMap placeholders = ·) := by
  induction columns with
  | nil => exact emits_pure rfl
  | cons column columns induction =>
      apply emits_ofExcept (safe_valueOf values column.member)
      intro value _
      apply emits_bind (emits_bindStored column value)
      intro write names equal
      apply emits_bind induction
      intro writes more equal'
      exact emits_pure (by simp [equal, equal'])

theorem emits_compileRow (values : MemberValues) :
    Emits (compileRow schema values) (·.flatMap placeholders = ·) :=
  emits_compileColumns values schema.persisted

end Write

end BoundSql.Sql
