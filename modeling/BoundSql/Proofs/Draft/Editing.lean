import BoundSql.Proofs.Draft.Run
import BoundSql.Sql.Edit

/-!
Edits that fail. An edit in place ends as the step on values does: the draft is that of the step
if the step succeeds, and is the old one if it fails. So the steps of a run that fail can be
left out of it.
-/

namespace BoundSql.Sql.Edit

open Entity Draft

variable {desk : Desk}

theorem on_bind (first : Edit α) (next : α → Edit β) :
    (first >>= next).on desk =
      match first.on desk with
      | (.ok value, middle) => (next value).on middle
      | (.error e, middle) => (.error e, middle) := by
  have split : (first >>= next).on desk =
      (ExceptT.bindCont next (first.on desk).1 : StateM Desk _) (first.on desk).2 := rfl
  rw [split]
  rcases first.on desk with ⟨- | value, middle⟩ <;> rfl

theorem on_write (change : Draft → Draft) :
    (write change).on desk = (.ok (), { desk with sheet := change desk.sheet }) := rfl

theorem on_need (found : Draft → Except CompileError α) :
    (need found).on desk = (found desk.sheet, desk) := by
  have split : (need found).on desk =
      (MonadExcept.ofExcept (found desk.sheet) : Edit α).on desk := rfl
  rw [split]
  cases found desk.sheet <;> rfl

theorem on_clause (compiler : Schema → Compiler α) :
    (clause compiler).on desk =
      match (compiler desk.sheet.schema).run desk.sheet.bindings with
      | (.ok clause, scratch) =>
          (.ok clause, { desk with
            sheet := { desk.sheet with bindings := scratch.bindings }
            notices := desk.notices ++ scratch.notices })
      | (.error e, scratch) =>
          (.error e, { desk with notices := desk.notices ++ scratch.notices }) := by
  have split : (clause compiler).on desk =
      (do
        let found ← MonadExcept.ofExcept
          ((compiler desk.sheet.schema).run desk.sheet.bindings).1
        write fun draft =>
          { draft with
            bindings := ((compiler desk.sheet.schema).run desk.sheet.bindings).2.bindings }
        return found : Edit α).on
          { desk with
            notices := desk.notices ++
              ((compiler desk.sheet.schema).run desk.sheet.bindings).2.notices } := rfl
  rw [split]
  rcases (compiler desk.sheet.schema).run desk.sheet.bindings with ⟨- | found, scratch⟩ <;> rfl

/-! ## Columns and values -/

theorem on_forM_pushInsert (writes : List Write) :
    (forM writes pushInsert).on desk =
      (.ok (), { desk with
        columns := desk.columns ++ writes.map (·.column)
        values := desk.values ++ writes.map (·.value) }) := by
  induction writes generalizing desk with
  | nil =>
      rw [List.map_nil, List.map_nil, List.append_nil, List.append_nil]
      rfl
  | cons next writes induction =>
      have pushed : (pushInsert next).on desk = (.ok (), { desk with
          columns := desk.columns ++ [next.column]
          values := desk.values ++ [next.value] }) := rfl
      rw [List.forM_cons, on_bind, pushed]
      simp only [induction, List.append_assoc, List.singleton_append, List.map_cons]

theorem draft_of (draft : Draft) (notices : List Notice) :
    (Desk.of draft notices).draft = draft := by
  have together : (draft.inserts.map (·.column)).zipWith Write.mk (draft.inserts.map (·.value)) =
      draft.inserts := by
    rw [List.zipWith_map, List.zipWith_self]
    exact List.map_id _
  rw [Desk.draft, Desk.of, together]

theorem on_pushInserts (draft : Draft) (notices : List Notice) (writes : List Write) :
    (pushInserts writes).on (.of draft notices) =
      (.ok (), .of (draft.addInserts writes) notices) := by
  rw [pushInserts, on_bind, on_write]
  simp only [on_forM_pushInsert, Desk.of, addInserts, List.map_append]

/-! ## Steps -/

/-- What a step on values says of a step in place. -/
def settle (draft : Draft) (notices : List Notice) : Except CompileError Draft × List Notice →
    Except CompileError Unit × Desk
  | (.ok next, more) => (.ok (), .of next (notices ++ more))
  | (.error e, more) => (.error e, .of draft (notices ++ more))

theorem settle_eq (draft : Draft) (notices : List Notice)
    (ended : Except CompileError Draft × List Notice) :
    settle draft notices ended =
      (ended.1.map fun _ => (), .of (ended.1.toOption.getD draft) (notices ++ ended.2)) := by
  rcases ended with ⟨e | next, more⟩ <;> rfl

section

variable {draft : Draft} {notices : List Notice}

theorem on_clause_bind (compiler : Schema → Compiler α) {add : Draft → α → Draft}
    {push : α → Edit Unit}
    (pushes : ∀ clause draft notices,
      (push clause).on (.of draft notices) = (.ok (), .of (add draft clause) notices)) :
    (clause compiler >>= push).on (.of draft notices) =
      settle draft notices (draft.compile (compiler draft.schema) add) := by
  have sheet : (Desk.of draft notices).sheet = { draft with inserts := [] } := rfl
  rw [on_bind, on_clause, Draft.compile, sheet]
  rcases (compiler draft.schema).run draft.bindings with ⟨- | found, scratch⟩
  · rfl
  · exact pushes found { draft with bindings := scratch.bindings } (notices ++ scratch.notices)

theorem on_write_of {change : Draft → Draft}
    (spares : ∀ draft inserts, change { draft with inserts } = { change draft with inserts }) :
    (write change).on (.of draft notices) = (.ok (), .of (change draft) notices) := by
  have kept : (change draft).inserts = draft.inserts :=
    (congrArg Draft.inserts (spares draft draft.inserts)).trans rfl
  simp only [on_write, Desk.of, kept]
  rw [spares]

theorem on_need_bind {found : Draft → Except CompileError α} {change : α → Draft → Draft}
    (ignores : ∀ draft inserts, found { draft with inserts } = found draft)
    (spares : ∀ value draft inserts,
      change value { draft with inserts } = { change value draft with inserts }) :
    (need found >>= fun value => write (change value)).on (.of draft notices) =
      settle draft notices ((found draft).map (change · draft), []) := by
  have finds : found (Desk.of draft notices).sheet = found draft := ignores draft []
  rw [on_bind, on_need, finds]
  cases found draft with
  | error e => simp only [settle, Except.map, List.append_nil]
  | ok value =>
      simp only [settle, Except.map, on_write_of (spares value), List.append_nil]

/-- A step in place ends as the step on values does, and leaves the old draft if it fails. -/
theorem on_perform (step : Step) :
    (perform step).on (.of draft notices) = settle draft notices (draft.apply step) := by
  cases step with
  | setTable name =>
      rw [perform, on_need_bind (fun _ _ => rfl) (fun _ _ _ => rfl), apply, Draft.setTable]
      cases checkTableName name <;> rfl
  | setTableIndex index =>
      rw [perform, on_need_bind (fun _ _ => rfl) (fun _ _ _ => rfl), apply, Draft.setTableIndex]
      cases draft.schema.table? index <;> rfl
  | setKind kind =>
      rw [perform, apply, settle, List.append_nil]
      rfl
  | filter condition => exact on_clause_bind _ fun _ _ _ => rfl
  | update assignments => exact on_clause_bind _ fun _ _ _ => rfl
  | updateRow values => exact on_clause_bind _ fun _ _ _ => rfl
  | insert assignments =>
      exact on_clause_bind _ fun writes draft notices => on_pushInserts draft notices writes
  | insertRow values =>
      exact on_clause_bind _ fun writes draft notices => on_pushInserts draft notices writes
  | order key direction => exact on_need_bind (fun _ _ => rfl) fun _ _ _ => rfl
  | select fields => exact on_need_bind (fun _ _ => rfl) fun _ _ _ => rfl
  | aggregate function field => exact on_need_bind (fun _ _ => rfl) fun _ _ _ => rfl
  | top size =>
      have ignores (draft : Draft) (inserts : List Write) :
          (setTop { draft with inserts } size).map paging = (draft.setTop size).map paging := by
        rw [setTop, setTop]
        split <;> rfl
      rw [perform, on_need_bind ignores (fun _ _ _ => rfl), apply, setTop]
      split <;> rfl
  | range page size =>
      have ignores (draft : Draft) (inserts : List Write) :
          (setRange { draft with inserts } page size).map paging =
            (draft.setRange page size).map paging := by
        rw [setRange, setRange]
        split
        · rfl
        · split <;> rfl
      rw [perform, on_need_bind ignores (fun _ _ _ => rfl), apply, setRange]
      split
      · rfl
      · split <;> rfl

end

/-! ## Runs -/

variable {draft : Draft}

theorem exists_performEach (draft : Draft) (steps : List Step) :
    ∃ outcomes last more, ∀ notices,
      performEach (.of draft notices) steps = (outcomes, .of last (notices ++ more)) := by
  induction steps generalizing draft with
  | nil => exact ⟨[], draft, [], fun notices => by rw [performEach, List.append_nil]⟩
  | cons step steps induction =>
      rcases applied : draft.apply step with ⟨outcome, first⟩
      obtain ⟨outcomes, last, more, rest⟩ := induction (outcome.toOption.getD draft)
      refine ⟨outcome.map (fun _ => ()) :: outcomes, last, first ++ more, fun notices => ?_⟩
      rw [performEach, on_perform, applied, settle_eq]
      simp only [rest, List.append_assoc]

/-- The rows at the desk at the end of a run are those of the draft that the run makes. -/
theorem performEach_of (notices : List Notice) (steps : List Step) :
    ∃ more, performEach (.of draft notices) steps =
      ((performAll draft steps).1, .of (performAll draft steps).2 (notices ++ more)) := by
  obtain ⟨outcomes, last, more, run⟩ := exists_performEach draft steps
  exact ⟨more, by simp only [performAll, run, draft_of]⟩

theorem performAll_nil : performAll draft [] = ([], draft) :=
  congrArg (Prod.mk []) (draft_of draft [])

theorem performAll_cons (step : Step) (steps : List Step) :
    performAll draft (step :: steps) =
      match (draft.apply step).1 with
      | .ok next => (.ok () :: (performAll next steps).1, (performAll next steps).2)
      | .error e => (.error e :: (performAll draft steps).1, (performAll draft steps).2) := by
  rw [performAll, performEach, on_perform, settle_eq]
  rcases draft.apply step with ⟨outcome, notices⟩
  obtain ⟨more, rest⟩ := @performEach_of (outcome.toOption.getD draft) notices steps
  simp only [List.nil_append, rest, draft_of]
  cases outcome <;> rfl

theorem performAll_eq_attempt (steps : List Step) :
    (performAll draft steps).2 = draft.attempt steps := by
  induction steps generalizing draft with
  | nil => rw [performAll_nil, attempt]
  | cons step steps induction =>
      rw [performAll_cons, attempt]
      cases (draft.apply step).1 with
      | error e => exact induction
      | ok next => exact induction

def succeeding (draft : Draft) (steps : List Step) : List Step :=
  ((steps.zip (performAll draft steps).1).filter (·.2.isOk)).map Prod.fst

theorem succeeding_cons (step : Step) (steps : List Step) :
    succeeding draft (step :: steps) =
      match (draft.apply step).1 with
      | .ok next => step :: succeeding next steps
      | .error _ => succeeding draft steps := by
  rw [succeeding, performAll_cons]
  cases (draft.apply step).1 <;> rfl

theorem performAll_succeeding (steps : List Step) :
    performAll draft (succeeding draft steps) =
      ((succeeding draft steps).map fun _ => .ok (), (performAll draft steps).2) := by
  induction steps generalizing draft with
  | nil => rfl
  | cons step steps induction =>
      rw [succeeding_cons, performAll_cons]
      cases applied : (draft.apply step).1 with
      | error e => exact induction
      | ok next =>
          simp only
          rw [performAll_cons, applied]
          simp only [induction, List.map_cons]

/-- A step that fails leaves the draft as it was, bindings, counter and both rows of an insert
included, so a run ends with the same draft if all its steps that fail are left out. -/
theorem failed_steps_leave_no_trace (draft : Draft) :
    (∀ step notices error after,
      (perform step).on (.of draft notices) = (.error error, after) →
        after = .of draft after.notices ∧ after.draft = draft) ∧
    ∀ steps, performAll draft (succeeding draft steps) =
      ((succeeding draft steps).map fun _ => .ok (), (performAll draft steps).2) := by
  refine ⟨?_, performAll_succeeding⟩
  intro step notices error after failed
  rw [on_perform] at failed
  rcases applied : draft.apply step with ⟨refused | next, more⟩
  · rw [applied] at failed
    have left : Desk.of draft (notices ++ more) = after := congrArg Prod.snd failed
    subst left
    exact ⟨rfl, draft_of draft _⟩
  · rw [applied] at failed
    have accepted : Except.ok () = .error error := congrArg Prod.fst failed
    exact nomatch accepted

/-- A condition that fails behind two bound values. -/
def lostFilter : Expr := .binary .and guestFilter (.member "Room")

def guestAges : Expr := .binary (.compare .greaterThan) (.member "Age") (.constant (.int 17))

theorem failed_steps_leave_no_trace_guests :
    ((Condition.compile guests lostFilter).run (.empty "@")).2.bindings.names = ["@p0", "@p1"] ∧
    ∃ after, (perform (.filter lostFilter)).on (.of (empty guests .default)) =
        (.error (.unknownMember "Guest" "Room"), after) ∧
      (after = .of (empty guests .default) after.notices ∧
        after.draft = empty guests .default) ∧
      performAll (empty guests .default) [.filter guestAges] =
        ([.ok ()], (performAll (empty guests .default)
          [.filter lostFilter, .top 0, .filter guestAges]).2) := by
  have all := failed_steps_leave_no_trace (empty guests .default)
  obtain ⟨after, failed⟩ : ∃ after,
      (perform (.filter lostFilter)).on (.of (empty guests .default)) =
        (.error (.unknownMember "Guest" "Room"), after) := ⟨_, rfl⟩
  have kept : succeeding (empty guests .default)
      [.filter lostFilter, .top 0, .filter guestAges] = [.filter guestAges] := by
    rfl
  have run := all.2 [.filter lostFilter, .top 0, .filter guestAges]
  rw [kept] at run
  exact ⟨by rfl, after, failed, all.1 _ _ _ _ failed, run⟩

end BoundSql.Sql.Edit
