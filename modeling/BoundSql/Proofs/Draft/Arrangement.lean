import BoundSql.Proofs.Draft.Run
import BoundSql.Proofs.Statement.Meaning

/-!
What order and window are to a draft. A step that arranges the rows changes nothing but these two
and cannot fail if it is sound; no other step looks at them. So a run without its arranging steps
comes to the same draft, order and window aside.
-/

namespace BoundSql.Sql.Draft

open Entity

def unarranged (draft : Draft) : Draft := { draft with ordering := [], paging := none }

def arrangement (draft : Draft) : String :=
  Statement.renderOrdering draft.ordering ++ Statement.renderPaging draft.paging

/-! ## Steps -/

def Step.arranges : Step → Bool
  | .order _ _ | .top _ | .range _ _ => true
  | _ => false

/-- Whether an arranging step is as it should be: it orders by a member that is declared, or its
window has rows and an offset that fits. -/
def Step.Sound (schema : Schema) : Step → Prop
  | .order key _ => ∃ member column, key.member? = some member ∧
      schema.column? member = some column
  | .top size => size ≠ 0
  | .range page size =>
      page ≠ 0 ∧ size ≠ 0 ∧ (page.toNat - 1) * size.toNat < UInt64.size
  | _ => True

variable {draft next : Draft}

theorem unarranged_schema (draft : Draft) : draft.unarranged.schema = draft.schema := rfl

theorem unarranged_bindings (draft : Draft) : draft.unarranged.bindings = draft.bindings := rfl

/-- A sound arranging step succeeds in silence and changes order or window only. -/
theorem apply_of_arranges {step : Step} (arranges : step.arranges = true)
    (sound : step.Sound draft.schema) :
    ∃ next, draft.apply step = (.ok next, []) ∧ next.unarranged = draft.unarranged := by
  cases step with
  | order key direction =>
      rcases sound with ⟨member, column, named, declared⟩
      have compiled : SortKey.compile draft.schema key direction =
          .ok { column := column.name, direction } := by
        unfold SortKey.compile columnNamed columnOf
        rw [named]
        dsimp only
        rw [declared]
        rfl
      simp only [apply, compiled]
      exact ⟨_, rfl, rfl⟩
  | top size =>
      simp only [apply, setTop, if_neg sound]
      exact ⟨_, rfl, rfl⟩
  | range page size =>
      rcases sound with ⟨page_pos, size_pos, fits⟩
      simp only [apply, setRange, page_pos, size_pos, fits, decide_false, Bool.or_self, if_true,
        Bool.false_eq_true, if_false]
      exact ⟨_, rfl, rfl⟩
  | _ => contradiction

theorem compile_unarranged (draft : Draft) (compiler : Compiler α) {add : Draft → α → Draft}
    (same : ∀ draft clause, (add draft clause).unarranged = add draft.unarranged clause) :
    draft.unarranged.compile compiler add =
      ((draft.compile compiler add).1.map unarranged, (draft.compile compiler add).2) := by
  unfold compile
  rw [unarranged_bindings]
  rcases compiler.run draft.bindings with ⟨error | clause, scratch⟩
  · rfl
  · have added := (same { draft with bindings := scratch.bindings } clause).symm
    exact congrArg (fun next => (Except.ok next, scratch.notices)) added

theorem apply_unarranged {step : Step} (plain : step.arranges = false) :
    draft.unarranged.apply step =
      ((draft.apply step).1.map unarranged, (draft.apply step).2) := by
  cases step with
  | order | top | range => contradiction
  | setTable name =>
      simp only [apply, Draft.setTable]
      cases checkTableName name <;> rfl
  | setTableIndex index =>
      simp only [apply, Draft.setTableIndex, unarranged_schema]
      cases draft.schema.table? index <;> rfl
  | setKind kind => rfl
  | filter condition => exact compile_unarranged _ _ fun _ _ => rfl
  | update assignments => exact compile_unarranged _ _ fun _ _ => rfl
  | updateRow values => exact compile_unarranged _ _ fun _ _ => rfl
  | insert assignments => exact compile_unarranged _ _ fun _ _ => rfl
  | insertRow values => exact compile_unarranged _ _ fun _ _ => rfl
  | select fields =>
      simp only [apply, unarranged_schema]
      cases Selection.compile draft.schema fields <;> rfl
  | aggregate function field =>
      simp only [apply, unarranged_schema]
      cases Selection.compileAggregate draft.schema function field <;> rfl

/-! ## Windows -/

theorem Takes.opens {step : Step} (takes : draft.Takes step next)
    (opens : Paging.Opens draft.paging) : Paging.Opens next.paging := by
  cases takes with
  | top some => exact some
  | range _ size_pos _ => exact size_pos
  | _ => exact opens

theorem opens_of_applyAll {steps : List Step} (ran : (draft.applyAll steps).1 = .ok next)
    (opens : Paging.Opens draft.paging) : Paging.Opens next.paging := by
  rw [← attempt_of_applyAll ran]
  exact attempt_preserves (fun opens takes => takes.opens opens) opens steps

/-! ## Texts -/

def condensed (draft : Draft) (function : Aggregate) (column : String) : Draft :=
  { draft with selection := .aggregate function column, kind := .select }

variable {function : Aggregate} {column : String}

theorem statement_condensed :
    (draft.condensed function column).statement =
      .ok (.select (.aggregate function column) draft.table draft.conditions draft.ordering
        draft.paging) := rfl

theorem sql_condensed :
    (draft.condensed function column).sql = .ok
      ((Statement.select (.aggregate function column) draft.table draft.conditions [] none).render
        ++ draft.arrangement) := by
  have split : (Statement.select (.aggregate function column) draft.table draft.conditions
        draft.ordering draft.paging).render =
      (Statement.select (.aggregate function column) draft.table draft.conditions [] none).render ++
        draft.arrangement := by
    have unordered : Statement.renderOrdering [] = "" := rfl
    have unwindowed : Statement.renderPaging none = "" := rfl
    simp only [Statement.render.eq_def, arrangement, unordered, unwindowed, String.append_empty,
      String.append_assoc]
  rw [sql, statement_condensed, ← split]
  rfl

end BoundSql.Sql.Draft
