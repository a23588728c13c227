import BoundSql.Proofs.Write
import BoundSql.Sql.Draft

/-!
Drafts step by step. `Takes` says everything that a step does to a draft when it succeeds,
so what a run of steps preserves follows from what each single step preserves.
-/

namespace BoundSql.Sql.Draft

open Entity Compiler

variable {draft next : Draft}

/-! ## One step -/

def withBindings (draft : Draft) (after : Scratch) : Draft :=
  { draft with bindings := after.bindings }

/-- A step that succeeds, with what it leaves behind. -/
inductive Takes (draft : Draft) : Step → Draft → Prop
  | setTable (sound : checkTableName name = .ok ()) :
      Takes draft (.setTable name) { draft with explicitTable := some name }
  | setTableIndex (name : String) (chosen : draft.schema.table? index = .ok name) :
      Takes draft (.setTableIndex index) { draft with chosenTable := some name }
  | setKind (kind : StatementKind) : Takes draft (.setKind kind) { draft with kind }
  | filter (yields : (Condition.compile draft.schema expr).Yields { bindings := draft.bindings }
        condition after) :
      Takes draft (.filter expr) ((draft.withBindings after).addCondition condition)
  | update (yields : (Write.compileUpdate draft.schema expr).Yields { bindings := draft.bindings }
        writes after) :
      Takes draft (.update expr) ((draft.withBindings after).addUpdates writes)
  | updateRow (yields : (Write.compileRow draft.schema values).Yields { bindings := draft.bindings }
        writes after) :
      Takes draft (.updateRow values) ((draft.withBindings after).addUpdates writes)
  | insert (yields : (Write.compileInsert draft.schema expr).Yields { bindings := draft.bindings }
        writes after) :
      Takes draft (.insert expr) ((draft.withBindings after).addInserts writes)
  | insertRow (yields : (Write.compileRow draft.schema values).Yields { bindings := draft.bindings }
        writes after) :
      Takes draft (.insertRow values) ((draft.withBindings after).addInserts writes)
  | order (key : SortKey) (compiled : SortKey.compile draft.schema expr direction = .ok key) :
      Takes draft (.order expr direction) { draft with ordering := draft.ordering ++ [key] }
  | select {selection : Selection}
      (compiled : Selection.compile draft.schema expr = .ok selection) :
      Takes draft (.select expr) { draft with selection }
  | aggregate {selection : Selection}
      (compiled : Selection.compileAggregate draft.schema function expr = .ok selection) :
      Takes draft (.aggregate function expr) { draft with selection }
  | top (some : size ≠ 0) :
      Takes draft (.top size) { draft with paging := .some (.top size) }
  | range (page_pos : page ≠ 0) (size_pos : size ≠ 0)
      (fits : (page.toNat - 1) * size.toNat < UInt64.size) :
      Takes draft (.range page size)
        { draft with
          paging := some (.page (UInt64.ofNat ((page.toNat - 1) * size.toNat)) size) }

theorem compile_eq_ok {compiler : Compiler α} {add : Draft → α → Draft}
    (compiled : (draft.compile compiler add).1 = .ok next) :
    ∃ clause after, compiler.Yields { bindings := draft.bindings } clause after ∧
      add (draft.withBindings after) clause = next := by
  unfold compile at compiled
  split at compiled
  next clause after run =>
      exact ⟨clause, after, Compiler.run_eq_ok_iff.mp run, Except.ok.inj compiled⟩
  next => contradiction

theorem map_eq_ok {given : Except CompileError α} {add : α → Draft}
    (mapped : given.map add = .ok next) : ∃ clause, given = .ok clause ∧ add clause = next := by
  cases given with
  | error e => contradiction
  | ok clause => exact ⟨clause, rfl, Except.ok.inj mapped⟩

theorem takes_of_apply {step : Step} (applied : (draft.apply step).1 = .ok next) :
    draft.Takes step next := by
  cases step with
  | setTable name =>
      simp only [apply, Draft.setTable] at applied
      split at applied
      next sound =>
          rcases Except.ok.inj applied with rfl
          exact .setTable sound
      next => contradiction
  | setTableIndex index =>
      simp only [apply, Draft.setTableIndex] at applied
      split at applied
      next name chosen =>
          rcases Except.ok.inj applied with rfl
          exact .setTableIndex name chosen
      next => contradiction
  | setKind kind =>
      rcases Except.ok.inj applied with rfl
      exact .setKind kind
  | filter expr =>
      rcases compile_eq_ok applied with ⟨condition, after, yields, rfl⟩
      exact .filter yields
  | update expr =>
      rcases compile_eq_ok applied with ⟨writes, after, yields, rfl⟩
      exact .update yields
  | updateRow values =>
      rcases compile_eq_ok applied with ⟨writes, after, yields, rfl⟩
      exact .updateRow yields
  | insert expr =>
      rcases compile_eq_ok applied with ⟨writes, after, yields, rfl⟩
      exact .insert yields
  | insertRow values =>
      rcases compile_eq_ok applied with ⟨writes, after, yields, rfl⟩
      exact .insertRow yields
  | order expr direction =>
      rcases map_eq_ok applied with ⟨key, compiled, rfl⟩
      exact .order key compiled
  | select expr =>
      rcases map_eq_ok applied with ⟨selection, compiled, rfl⟩
      exact .select compiled
  | aggregate function expr =>
      rcases map_eq_ok applied with ⟨selection, compiled, rfl⟩
      exact .aggregate compiled
  | top size =>
      simp only [apply, setTop] at applied
      split at applied
      next => contradiction
      next some =>
          rcases Except.ok.inj applied with rfl
          exact .top some
  | range page size =>
      simp only [apply, setRange] at applied
      split at applied
      next => contradiction
      next starts =>
          split at applied
          next fits =>
              rcases Except.ok.inj applied with rfl
              simp only [Bool.or_eq_true, decide_eq_true_eq, not_or] at starts
              exact .range starts.1 starts.2 fits
          next => contradiction

theorem Takes.grows {step : Step} (takes : draft.Takes step next) :
    next.schema = draft.schema ∧ draft.bindings.Grows next.bindings := by
  cases takes with
  | filter yields => exact ⟨rfl, (Condition.yields_compile yields).1⟩
  | update yields => exact ⟨rfl, (Write.yields_compileUpdate yields).1⟩
  | updateRow yields => exact ⟨rfl, (Write.yields_compileRow yields).1⟩
  | insert yields => exact ⟨rfl, (Write.yields_compileInsert yields).1⟩
  | insertRow yields => exact ⟨rfl, (Write.yields_compileRow yields).1⟩
  | _ => exact ⟨rfl, .refl _⟩

/-! ## Runs of steps -/

/-- What every step preserves holds after any run. -/
theorem attempt_preserves {motive : Draft → Prop}
    (preserves : ∀ {draft step next}, motive draft → draft.Takes step next → motive next)
    (start : motive draft) (steps : List Step) : motive (draft.attempt steps) := by
  induction steps generalizing draft with
  | nil => exact start
  | cons step steps induction =>
      rw [attempt]
      split
      next => exact induction start
      next applied => exact induction (preserves start (takes_of_apply applied))

theorem attempt_append (draft : Draft) (steps others : List Step) :
    draft.attempt (steps ++ others) = (draft.attempt steps).attempt others := by
  induction steps generalizing draft with
  | nil => rfl
  | cons step steps induction =>
      rw [List.cons_append, attempt, attempt]
      cases (draft.apply step).1 with
      | error e => exact induction draft
      | ok next => exact induction next

theorem attempt_grows (draft : Draft) (steps : List Step) :
    (draft.attempt steps).schema = draft.schema ∧
      draft.bindings.Grows (draft.attempt steps).bindings := by
  refine attempt_preserves (motive := fun next => next.schema = draft.schema ∧
    draft.bindings.Grows next.bindings) ?_ ⟨rfl, .refl _⟩ steps
  intro middle step next grows takes
  rcases takes.grows with ⟨schema, more⟩
  exact ⟨schema.trans grows.1, grows.2.trans more⟩

/-! ## Runs in which every step succeeds -/

theorem applyAll_cons (draft : Draft) (step : Step) (steps : List Step) :
    (draft.applyAll (step :: steps)).1 =
      (draft.apply step).1 >>= fun next => (next.applyAll steps).1 := by
  rw [applyAll]
  split
  next applied => rw [applied]; rfl
  next applied => rw [applied]; rfl

theorem applyAll_append (draft : Draft) (steps others : List Step) :
    (draft.applyAll (steps ++ others)).1 =
      (draft.applyAll steps).1 >>= fun next => (next.applyAll others).1 := by
  induction steps generalizing draft with
  | nil => rfl
  | cons step steps induction =>
      rw [List.cons_append, applyAll_cons, applyAll_cons]
      cases (draft.apply step).1 with
      | error e => rfl
      | ok next => exact induction next

theorem applyAll_cons_eq_ok {final : Draft} {step : Step} {steps : List Step}
    (ran : (draft.applyAll (step :: steps)).1 = .ok final) :
    ∃ next, draft.Takes step next ∧ (next.applyAll steps).1 = .ok final := by
  rw [applyAll_cons, except_bind_eq_ok] at ran
  rcases ran with ⟨next, applied, rest⟩
  exact ⟨next, takes_of_apply applied, rest⟩

theorem applyAll_eq_error {before : List Step} {step : Step} (after : List Step)
    (ran : (draft.applyAll before).1 = .ok next) (failed : (next.apply step).1 = .error error) :
    (draft.applyAll (before ++ step :: after)).1 = .error error := by
  rw [applyAll_append, ran]
  exact (applyAll_cons next step after).trans (by rw [failed]; rfl)

theorem attempt_of_applyAll {steps : List Step} (ran : (draft.applyAll steps).1 = .ok next) :
    draft.attempt steps = next := by
  induction steps generalizing draft with
  | nil => exact Except.ok.inj ran
  | cons step steps induction =>
      rw [applyAll_cons, except_bind_eq_ok] at ran
      rcases ran with ⟨middle, applied, rest⟩
      rw [attempt, applied]
      exact induction rest

/-! ## Filters -/

def Step.filters : Step → List Expr
  | .filter condition => [condition]
  | _ => []

def accepted (draft : Draft) : List Step → List Expr
  | [] => []
  | step :: rest =>
      match (draft.apply step).1 with
      | .error _ => draft.accepted rest
      | .ok next => step.filters ++ next.accepted rest

end BoundSql.Sql.Draft
