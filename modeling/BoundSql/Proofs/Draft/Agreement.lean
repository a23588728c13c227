import BoundSql.Proofs.Agreement
import BoundSql.Proofs.Draft.Run
import BoundSql.Proofs.Selection

/-!
Drafts made by alike steps. Two runs whose steps differ only in the values that they capture
end with the same statement and the same names of placeholders.
-/

namespace BoundSql.Sql.Draft

open Entity Compiler

/-- Steps that differ in captured values only. Rows of values may differ in any way. -/
inductive Step.Alike : Step → Step → Prop
  | setTable (name : String) : Alike (.setTable name) (.setTable name)
  | setTableIndex (index : Nat) : Alike (.setTableIndex index) (.setTableIndex index)
  | setKind (kind : StatementKind) : Alike (.setKind kind) (.setKind kind)
  | filter (conditions : Expr.AlikeAsCondition a b) : Alike (.filter a) (.filter b)
  | update (assignments : Expr.Alike a b) : Alike (.update a) (.update b)
  | updateRow (left right : MemberValues) : Alike (.updateRow left) (.updateRow right)
  | insert (assignments : Expr.Alike a b) : Alike (.insert a) (.insert b)
  | insertRow (left right : MemberValues) : Alike (.insertRow left) (.insertRow right)
  | order (keys : Expr.Alike a b) (direction : Direction) :
      Alike (.order a direction) (.order b direction)
  | select (fields : Expr.Alike a b) : Alike (.select a) (.select b)
  | aggregate (function : Aggregate) (fields : Expr.Alike a b) :
      Alike (.aggregate function a) (.aggregate function b)
  | top (size : UInt64) : Alike (.top size) (.top size)
  | range (page size : UInt64) : Alike (.range page size) (.range page size)

def parts (draft : Draft) : Draft := { draft with bindings := .empty "" }

structure Alike (left right : Draft) : Prop where
  parts : left.parts = right.parts
  bindings : left.bindings.Alike right.bindings

variable {left right next next' : Draft}

theorem Alike.schema (alike : left.Alike right) : left.schema = right.schema := by
  have same := congrArg Draft.schema alike.parts
  exact same

theorem Alike.sql (alike : left.Alike right) : left.sql = right.sql := by
  have same := congrArg Draft.sql alike.parts
  exact same

/-- A change that leaves the bindings alone. -/
structure Frames (change : Draft → Draft) : Prop where
  parts : ∀ draft, (change draft).parts = change draft.parts
  bindings : ∀ draft, (change draft).bindings = draft.bindings

theorem Alike.change (alike : left.Alike right) (change : Draft → Draft)
    (frames : Frames change) : (change left).Alike (change right) := by
  refine ⟨?_, ?_⟩
  · rw [frames.parts, frames.parts, alike.parts]
  · rw [frames.bindings, frames.bindings]
    exact alike.bindings

theorem Alike.clause (alike : left.Alike right) {compiler compiler' : Compiler α}
    (agrees : Agrees Eq compiler compiler') {clause clause' : α} {after after' : Scratch}
    (yields : compiler.Yields { bindings := left.bindings } clause after)
    (yields' : compiler'.Yields { bindings := right.bindings } clause' after')
    {add : Draft → α → Draft} (frames : ∀ clause, Frames (add · clause)) :
    (add (left.withBindings after) clause).Alike (add (right.withBindings after') clause') := by
  rcases agrees alike.bindings yields yields' with ⟨same, bindings⟩
  subst same
  have bound : (left.withBindings after).Alike (right.withBindings after') :=
    ⟨alike.parts, bindings⟩
  exact bound.change _ (frames clause)

theorem frames_addCondition (condition : Condition) : Frames (addCondition · condition) :=
  ⟨fun _ => rfl, fun _ => rfl⟩

theorem frames_addUpdates (writes : List Write) : Frames (addUpdates · writes) :=
  ⟨fun _ => rfl, fun _ => rfl⟩

theorem frames_addInserts (writes : List Write) : Frames (addInserts · writes) :=
  ⟨fun _ => rfl, fun _ => rfl⟩

/-! ## Selections -/

theorem names_eq_of_alike {schema : Schema} {as bs : List Expr} {names names' : List String}
    (alike : List.Forall₂ Expr.Alike as bs)
    (named : List.Forall₂ (NamesColumn schema) as names)
    (named' : List.Forall₂ (NamesColumn schema) bs names') : names = names' := by
  induction alike generalizing names names' with
  | nil =>
      cases named
      cases named'
      rfl
  | cons first _ induction =>
      cases named with
      | cons name others =>
          cases named' with
          | cons name' others' =>
              rw [name.unique first.member?_eq name', induction others others']

theorem fieldsOf_alike {left right : Expr} (alike : left.Alike right) :
    List.Forall₂ Expr.Alike (Selection.fieldsOf left) (Selection.fieldsOf right) := by
  cases alike with
  | fields items => exact items
  | constant values => exact .cons (.constant values) .nil
  | member name => exact .cons (.member name) .nil
  | binary op left right => exact .cons (.binary op left right) .nil
  | unary op operand => exact .cons (.unary op operand) .nil
  | call target method args => exact .cons (.call target method args) .nil
  | assign members values => exact .cons (.assign members values) .nil

/-! ## Runs that agree -/

theorem Alike.step (alike : left.Alike right) {step step' : Step} (steps : step.Alike step')
    (takes : left.Takes step next) (takes' : right.Takes step' next') : next.Alike next' := by
  have schema := alike.schema
  cases steps with
  | setTable name =>
      cases takes
      cases takes'
      exact alike.change (fun draft => { draft with explicitTable := some name })
        ⟨fun _ => rfl, fun _ => rfl⟩
  | setTableIndex index =>
      cases takes with
      | setTableIndex name chosen =>
          cases takes' with
          | setTableIndex name' chosen' =>
              rw [schema, chosen'] at chosen
              rcases Except.ok.inj chosen with rfl
              exact alike.change (fun draft => { draft with chosenTable := some name' })
                ⟨fun _ => rfl, fun _ => rfl⟩
  | setKind kind =>
      cases takes
      cases takes'
      exact alike.change (fun draft => { draft with kind }) ⟨fun _ => rfl, fun _ => rfl⟩
  | filter conditions =>
      cases takes with
      | filter yields =>
          cases takes' with
          | filter yields' =>
              rw [schema] at yields
              exact alike.clause (Condition.agrees_compile conditions) yields yields'
                frames_addCondition
  | update assignments =>
      cases takes with
      | update yields =>
          cases takes' with
          | update yields' =>
              rw [schema] at yields
              exact alike.clause (Write.agrees_compileUpdate assignments) yields yields'
                frames_addUpdates
  | updateRow values values' =>
      cases takes with
      | updateRow yields =>
          cases takes' with
          | updateRow yields' =>
              rw [schema] at yields
              exact alike.clause (Write.agrees_compileRow values values') yields yields'
                frames_addUpdates
  | insert assignments =>
      cases takes with
      | insert yields =>
          cases takes' with
          | insert yields' =>
              rw [schema] at yields
              exact alike.clause (Write.agrees_compileInsert assignments) yields yields'
                frames_addInserts
  | insertRow values values' =>
      cases takes with
      | insertRow yields =>
          cases takes' with
          | insertRow yields' =>
              rw [schema] at yields
              exact alike.clause (Write.agrees_compileRow values values') yields yields'
                frames_addInserts
  | order keys direction =>
      cases takes with
      | order key compiled =>
          cases takes' with
          | order key' compiled' =>
              rcases SortKey.namesColumn_of_compile compiled with ⟨column, named, rfl⟩
              rcases SortKey.namesColumn_of_compile compiled' with ⟨column', named', rfl⟩
              rw [schema] at named
              rcases named.unique keys.member?_eq named' with rfl
              exact alike.change
                (fun draft => { draft with ordering := draft.ordering ++ [⟨column, direction⟩] })
                ⟨fun _ => rfl, fun _ => rfl⟩
  | select fields =>
      cases takes with
      | select compiled =>
          cases takes' with
          | select compiled' =>
              rcases Selection.namesColumns_of_compile compiled with ⟨names, rfl, named⟩
              rcases Selection.namesColumns_of_compile compiled' with ⟨names', rfl, named'⟩
              rw [schema] at named
              rcases names_eq_of_alike (fieldsOf_alike fields) named named' with rfl
              exact alike.change (fun draft => { draft with selection := .columns names })
                ⟨fun _ => rfl, fun _ => rfl⟩
  | aggregate function fields =>
      cases takes with
      | aggregate compiled =>
          cases takes' with
          | aggregate compiled' =>
              rcases Selection.namesColumn_of_compileAggregate compiled with ⟨name, rfl, named⟩
              rcases Selection.namesColumn_of_compileAggregate compiled' with ⟨name', rfl, named'⟩
              rw [schema] at named
              rcases named.unique fields.member?_eq named' with rfl
              exact alike.change
                (fun draft => { draft with selection := .aggregate function name })
                ⟨fun _ => rfl, fun _ => rfl⟩
  | top size =>
      cases takes
      cases takes'
      exact alike.change (fun draft => { draft with paging := some (.top size) })
        ⟨fun _ => rfl, fun _ => rfl⟩
  | range page size =>
      cases takes
      cases takes'
      exact alike.change
        (fun draft => { draft with
          paging := some (.page (UInt64.ofNat ((page.toNat - 1) * size.toNat)) size) })
        ⟨fun _ => rfl, fun _ => rfl⟩

theorem Alike.run (alike : left.Alike right) {steps steps' : List Step}
    (each : List.Forall₂ Step.Alike steps steps') (ran : (left.applyAll steps).1 = .ok next)
    (ran' : (right.applyAll steps').1 = .ok next') : next.Alike next' := by
  induction each generalizing left right with
  | nil =>
      rcases Except.ok.inj ran with rfl
      rcases Except.ok.inj ran' with rfl
      exact alike
  | cons first _ induction =>
      rcases applyAll_cons_eq_ok ran with ⟨middle, takes, rest⟩
      rcases applyAll_cons_eq_ok ran' with ⟨middle', takes', rest'⟩
      exact induction (alike.step first takes takes') rest rest'

/-- What a statement says and which placeholders it has does not depend on bound values. -/
theorem sql_eq_of_alike_steps {schema : Schema} {settings : Settings} {steps steps' : List Step}
    (each : List.Forall₂ Step.Alike steps steps')
    (ran : ((empty schema settings).applyAll steps).1 = .ok next)
    (ran' : ((empty schema settings).applyAll steps').1 = .ok next') :
    next.sql = next'.sql ∧ next.bindings.names = next'.bindings.names := by
  have start : (empty schema settings).Alike (empty schema settings) := ⟨rfl, rfl, rfl, rfl⟩
  have final := start.run each ran ran'
  exact ⟨final.sql, final.bindings.names⟩

def guestRename (part name : String) : List Step :=
  [.filter (.call (.member "Name") .contains [.constant (.text part)]),
   .updateRow [("Name", .text name), ("Age", .null)]]

theorem sql_eq_of_alike_steps_guests :
    ∃ left right, ((empty guests .default).applyAll (guestRename "nn" "Ann")).1 = .ok left ∧
      ((empty guests .default).applyAll (guestRename "%' OR 1" "--")).1 = .ok right ∧
      left.sql = right.sql ∧ left.bindings.names = right.bindings.names := by
  obtain ⟨left, ran⟩ : ∃ left,
      ((empty guests .default).applyAll (guestRename "nn" "Ann")).1 = .ok left := ⟨_, rfl⟩
  obtain ⟨right, ran'⟩ : ∃ right,
      ((empty guests .default).applyAll (guestRename "%' OR 1" "--")).1 = .ok right := ⟨_, rfl⟩
  have each : List.Forall₂ Step.Alike (guestRename "nn" "Ann") (guestRename "%' OR 1" "--") := by
    have parts := List.Forall₂.cons (Expr.Alike.constant (@Value.Alike.plain (.text "nn")
      (.text "%' OR 1") rfl rfl)) .nil
    have filters := Expr.AlikeAsCondition.test rfl (.call (.member "Name") .contains parts)
    exact .cons (.filter filters) (.cons (.updateRow _ _) .nil)
  rcases sql_eq_of_alike_steps each ran ran' with ⟨text, names⟩
  exact ⟨left, right, ran, ran', text, names⟩

end BoundSql.Sql.Draft
