import BoundSql.Proofs.Draft.Editing

/-!
The order of steps. A draft falls into slots, and a step reads and writes one slot only. So what
a run makes of a slot depends on the steps for this slot, and runs that have the same steps for
every slot, in the same order, end with the same draft.
-/

namespace BoundSql.Sql.Draft

open Entity

/-- The parts of a draft that steps write apart from each other. All that binds values shares
one slot, together with the kind of statement. -/
inductive Slot where
  | tableName
  | tableNumber
  | clauses
  | ordering
  | selection
  | paging
  deriving DecidableEq

def Step.slot : Step → Slot
  | .setTable _ => .tableName
  | .setTableIndex _ => .tableNumber
  | .setKind _ => .clauses
  | .filter _ => .clauses
  | .update _ => .clauses
  | .updateRow _ => .clauses
  | .insert _ => .clauses
  | .insertRow _ => .clauses
  | .order _ _ => .ordering
  | .select _ => .selection
  | .aggregate _ _ => .selection
  | .top _ => .paging
  | .range _ _ => .paging

/-- A draft with nothing in it but one slot. -/
def only (draft : Draft) (slot : Slot) : Draft :=
  let blank : Draft :=
    { schema := draft.schema, logStatements := draft.logStatements, bindings := .empty "" }
  match slot with
  | .tableName => { blank with explicitTable := draft.explicitTable }
  | .tableNumber => { blank with chosenTable := draft.chosenTable }
  | .clauses =>
      { blank with
        kind := draft.kind
        conditions := draft.conditions
        updates := draft.updates
        inserts := draft.inserts
        bindings := draft.bindings }
  | .ordering => { blank with ordering := draft.ordering }
  | .selection => { blank with selection := draft.selection }
  | .paging => { blank with paging := draft.paging }

variable {draft next : Draft}

theorem eq_of_only (same : ∀ slot, draft.only slot = next.only slot) : draft = next := by
  have tableName := same .tableName
  have tableNumber := same .tableNumber
  have clauses := same .clauses
  have ordering := same .ordering
  have selection := same .selection
  have paging := same .paging
  simp only [only, Draft.mk.injEq] at *
  cases draft
  cases next
  simp_all

/-! ## One step -/

theorem compile_only (compiler : Compiler α) (add : Draft → α → Draft)
    (frames : ∀ draft clause, add (only draft .clauses) clause = (add draft clause).only .clauses) :
    ((draft.only .clauses).compile compiler add).1 =
      (draft.compile compiler add).1.map (only · .clauses) := by
  simp only [compile, only]
  rcases compiler.run draft.bindings with ⟨- | clause, scratch⟩
  · rfl
  · exact congrArg Except.ok (frames { draft with bindings := scratch.bindings } clause)

/-- A step does to its slot what it does to a draft that has nothing else in it. -/
theorem apply_only (draft : Draft) (step : Step) :
    ((draft.only step.slot).apply step).1 = (draft.apply step).1.map (only · step.slot) := by
  cases step with
  | setTable name =>
      simp only [apply, Draft.setTable]
      cases checkTableName name <;> rfl
  | setTableIndex index =>
      simp only [apply, Draft.setTableIndex, only, Step.slot]
      cases draft.schema.table? index <;> rfl
  | setKind kind => rfl
  | filter condition => exact compile_only _ _ fun _ _ => rfl
  | update assignments => exact compile_only _ _ fun _ _ => rfl
  | updateRow values => exact compile_only _ _ fun _ _ => rfl
  | insert assignments => exact compile_only _ _ fun _ _ => rfl
  | insertRow values => exact compile_only _ _ fun _ _ => rfl
  | order key direction =>
      simp only [apply, only, Step.slot]
      cases SortKey.compile draft.schema key direction <;> rfl
  | select fields =>
      simp only [apply, only, Step.slot]
      cases Selection.compile draft.schema fields <;> rfl
  | aggregate function field =>
      simp only [apply, only, Step.slot]
      cases Selection.compileAggregate draft.schema function field <;> rfl
  | top size =>
      simp only [apply, setTop]
      split <;> rfl
  | range page size =>
      simp only [apply, setRange]
      split
      next => rfl
      next => split <;> rfl

theorem Takes.only_eq {step : Step} (takes : draft.Takes step next) {slot : Slot}
    (other : step.slot ≠ slot) : next.only slot = draft.only slot := by
  cases takes <;> cases slot <;> first | rfl | exact absurd rfl other

/-! ## Runs -/

theorem only_attempt_singleton (draft : Draft) (step : Step) (slot : Slot) :
    (draft.attempt [step]).only slot =
      (draft.only slot).attempt ([step].filter (·.slot = slot)) := by
  by_cases own : step.slot = slot
  · subst own
    simp only [List.filter_cons, decide_true, List.filter_nil, if_true, attempt]
    rw [apply_only]
    cases (draft.apply step).1 <;> rfl
  · simp only [List.filter_cons, own, decide_false, List.filter_nil, attempt]
    cases applied : (draft.apply step).1 with
    | error e => rfl
    | ok next => exact (takes_of_apply applied).only_eq own

theorem only_attempt (draft : Draft) (steps : List Step) (slot : Slot) :
    (draft.attempt steps).only slot =
      (draft.only slot).attempt (steps.filter (·.slot = slot)) := by
  induction steps generalizing draft with
  | nil => rfl
  | cons step steps induction =>
      rw [← List.singleton_append, attempt_append, induction, only_attempt_singleton,
        List.filter_append, attempt_append]

/-- Steps for different slots can be taken in any order, whether they succeed or not: what they
make of a draft depends on the row of steps for each slot only. -/
theorem performAll_eq_of_slots {steps steps' : List Step}
    (same : ∀ slot, steps.filter (·.slot = slot) = steps'.filter (·.slot = slot)) :
    (Edit.performAll draft steps).2 = (Edit.performAll draft steps').2 := by
  rw [Edit.performAll_eq_attempt, Edit.performAll_eq_attempt]
  apply eq_of_only
  intro slot
  rw [only_attempt, only_attempt, same slot]

def guestListing : List Step :=
  [.filter (.binary (.compare .greaterThan) (.member "Age") (.constant (.int 17))),
   .order (.member "Room") .ascending, .top 1, .order (.member "Name") .ascending, .top 0,
   .filter (.member "Name")]

/-- The same, put together in another order. -/
def guestListingShuffled : List Step :=
  [.top 1, .order (.member "Room") .ascending, .order (.member "Name") .ascending,
   .filter (.binary (.compare .greaterThan) (.member "Age") (.constant (.int 17))),
   .filter (.member "Name"), .top 0]

theorem performAll_eq_of_slots_guests :
    (∀ slot, guestListing.filter (·.slot = slot) = guestListingShuffled.filter (·.slot = slot)) ∧
    (Edit.performAll (empty guests .default) guestListing).2 =
      (Edit.performAll (empty guests .default) guestListingShuffled).2 ∧
    (Edit.performAll (empty guests .default) guestListing).2.sql =
      .ok ("SELECT * FROM \x60guests\x60 WHERE \x60age\x60 > @p0" ++
        " ORDER BY \x60name\x60 ASC LIMIT 1") := by
  have same : ∀ slot, guestListing.filter (·.slot = slot) =
      guestListingShuffled.filter (·.slot = slot) := by
    intro slot
    cases slot <;> rfl
  exact ⟨same, performAll_eq_of_slots same, by rfl⟩

end BoundSql.Sql.Draft
