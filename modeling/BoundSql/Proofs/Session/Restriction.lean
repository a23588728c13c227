import BoundSql.Proofs.Draft.Filters
import BoundSql.Proofs.Session.Sending
import BoundSql.Proofs.Statement.Meaning
import BoundSql.Session.Script

/-!
What the filters of a chain keep out. An ending that restricts sends a statement with the filters
of the chain and its own criterion as its conditions, so a row of which one of them is not true
is spared. An update of many rows at once is not restricted: its text has no WHERE.
-/

namespace BoundSql

open Entity

namespace Sql

namespace Draft

variable {draft next : Draft}

theorem accepted_of_applyAll {steps : List Step} (ran : (draft.applyAll steps).1 = .ok next) :
    draft.accepted steps = steps.flatMap Step.filters := by
  induction steps generalizing draft with
  | nil => rfl
  | cons step steps induction =>
      rw [applyAll_cons, except_bind_eq_ok] at ran
      rcases ran with ⟨middle, applied, rest⟩
      rw [accepted, applied, List.flatMap_cons]
      exact congrArg (step.filters ++ ·) (induction rest)

theorem standFor_of_applyAll {schema : Schema} {settings : Settings} {steps : List Step}
    (ran : ((empty schema settings).applyAll steps).1 = .ok next) :
    next.schema = schema ∧ (empty schema settings).bindings.Grows next.bindings ∧
      List.Forall₂ (Condition.StandsFor schema next.bindings) (steps.flatMap Step.filters)
        next.conditions := by
  have ends := attempt_of_applyAll ran
  rcases (empty schema settings).attempt_grows steps with ⟨sameSchema, grows⟩
  have stand := attempt_filters steps (@List.Forall₂.nil _ _
    (Condition.StandsFor (empty schema settings).schema (empty schema settings).bindings))
  rw [List.nil_append, accepted_of_applyAll ran, sameSchema, ends] at stand
  rw [ends] at sameSchema grows
  exact ⟨sameSchema, grows, stand⟩

theorem conditions_of_statement {statement : Statement} (settled : draft.statement = .ok statement)
    (notInsert : draft.kind ≠ .insert) : statement.conditions = draft.conditions := by
  unfold Draft.statement at settled
  split at settled
  next => rw [← Except.ok.inj settled]; rfl
  next => rw [← Except.ok.inj settled]; rfl
  next kind => exact absurd kind notInsert
  next =>
      split at settled
      next => contradiction
      next => rw [← Except.ok.inj settled]; rfl
  next => rw [← Except.ok.inj settled]; rfl

theorem statement_eq_of_sql {sql : String} (settled : draft.sql = .ok sql) :
    ∃ statement, draft.statement = .ok statement ∧ statement.render = sql := by
  unfold Draft.sql at settled
  cases built : draft.statement with
  | error error =>
      rw [built] at settled
      contradiction
  | ok statement =>
      rw [built] at settled
      exact ⟨statement, rfl, Except.ok.inj settled⟩

def Step.kind? : Step → Option StatementKind
  | .setKind kind => some kind
  | .update _ | .updateRow _ => some .update
  | .insert _ | .insertRow _ => some .insert
  | _ => none

theorem Takes.kind {step : Step} (takes : draft.Takes step next) :
    next.kind = step.kind?.getD draft.kind := by
  cases takes <;> rfl

theorem kind_of_applyAll {steps : List Step} (ran : (draft.applyAll steps).1 = .ok next) :
    next.kind = (steps.filterMap Step.kind?).getLast?.getD draft.kind := by
  induction steps generalizing draft with
  | nil => rw [← Except.ok.inj ran]; rfl
  | cons step steps induction =>
      rcases applyAll_cons_eq_ok ran with ⟨middle, takes, rest⟩
      rw [induction rest, takes.kind, List.filterMap_cons]
      cases step.kind? with
      | none => rfl
      | some kind => simp [List.getLast?_cons]

end Draft

end Sql

namespace Session

open Sql

variable {E : Type}

/-! ## Criteria -/

def Link.criteria : Link E → List Expr
  | .filter criterion | .find criterion => [criterion.expr]
  | _ => []

def Ending.criteria : Ending E α → List Expr
  | .update criterion _ | .updateEntity criterion _ | .delete criterion => [criterion.expr]
  | _ => []

theorem filters_links (links : List (Link E)) :
    (links.flatMap Link.steps).flatMap Draft.Step.filters = links.flatMap Link.criteria := by
  rw [List.flatMap_assoc]
  congr 1
  funext link
  cases link <;> rfl

namespace Ending

theorem filters_steps [Record E] (ending : Ending E α) (draft : Draft) :
    (ending.steps draft).flatMap Draft.Step.filters = ending.criteria := by
  cases ending with
  | first =>
      simp only [steps]
      split <;> rfl
  | _ => rfl

theorem exists_kind_of_restricts [Record E] {ending : Ending E α} (restricts : ending.Restricts)
    (draft : Draft) : ∃ kind,
      ((ending.steps draft).filterMap Draft.Step.kind?).getLast? = some kind ∧
        kind ≠ .insert := by
  cases ending with
  | first =>
      refine ⟨.select, ?_, by decide⟩
      simp only [steps]
      split <;> rfl
  | insert _ | insertWith _ | bulkInsert _ | bulkUpdate _ => exact restricts.elim
  | update _ _ | updateEntity _ _ => exact ⟨.update, rfl, by decide⟩
  | delete _ => exact ⟨.delete, rfl, by decide⟩
  | count => exact ⟨.count, rfl, by decide⟩
  | _ => exact ⟨.select, rfl, by decide⟩

end Ending

theorem outcome_of_links [Record E] (schema : Schema) (settings : Settings)
    (links : List (Link E)) (steps : List Draft.Step) :
    (steps.foldl Chain.link (links.foldl Link.add (.of schema settings))).outcome =
      ((Draft.empty schema settings).applyAll (links.flatMap Link.steps ++ steps)).1 := by
  rw [Chain.foldl_add, ← List.foldl_append, Chain.outcome_foldl_link]
  rfl

/-! ## Many entities at once -/

theorem Attempt.Settles.follows {attempt : Attempt α} {result : α} {plan : List Call}
    (settles : attempt.Settles notices (.ok result)) {next : α → Attempt β}
    (follows : (next result).run.Follows plan) : (attempt >>= next).run.Follows plan := by
  rw [settles.bind_ok]
  exact Exchange.follows_notifyAll_bind follows

namespace Chain

theorem draft_of_outcome {chain : Chain E} {draft : Draft} (clean : chain.outcome = .ok draft) :
    chain.draft = draft := by
  unfold outcome at clean
  cases failed : chain.error with
  | none =>
      rw [failed] at clean
      exact Except.ok.inj clean
  | some error =>
      rw [failed] at clean
      contradiction

theorem settings_link (chain : Chain E) (step : Draft.Step) :
    (chain.link step).settings = chain.settings := by
  unfold link
  cases chain.error with
  | some error => rfl
  | none => rcases chain.draft.apply step with ⟨error | draft, notices⟩ <;> rfl

theorem settings_links (chain : Chain E) (links : List (Link E)) :
    (links.foldl Link.add chain).settings = chain.settings := by
  rw [foldl_add]
  induction links.flatMap Link.steps generalizing chain with
  | nil => rfl
  | cons step steps induction => rw [List.foldl_cons, induction, settings_link]

theorem follows_bulk_of_empty [Record E] {chain : Chain E} {draft : Draft} {render : BulkText}
    {entities : List E} (clean : chain.outcome = .ok draft) (empty : entities.isEmpty = true) :
    (chain.bulk render entities).run.Follows [] := by
  have checked := chain.settles_checked
  rw [clean] at checked
  refine checked.follows ?_
  rw [empty]
  trivial

theorem follows_bulk [Record E] {chain : Chain E} {draft : Draft} {render : BulkText}
    {entities : List E} {sql : String} (clean : chain.outcome = .ok draft)
    (some : entities.isEmpty = false)
    (rendered : render draft.schema draft.table (entities.map Record.values) = .ok sql) :
    (chain.bulk render entities).run.Follows
      [.connect, .execute .connection sql (.empty chain.settings.sigil)] := by
  have checked := chain.settles_checked
  rw [clean] at checked
  refine checked.follows ?_
  rw [some, rendered]
  refine (Attempt.settles_orFail .compile (.ok sql)).follows
    ((Attempt.settles_notifyAll _).follows ⟨rfl, fun opened => ?_⟩)
  cases opened with
  | error cause => trivial
  | ok _ => exact ⟨rfl, fun written => by cases written <;> trivial⟩

end Chain

theorem Ending.calls_bulkUpdate [Record E] {chain : Chain E} {entities : List E}
    {answer : (call : Call) → σ → call.Answer × σ} {database : σ}
    (reached : (((bulkUpdate entities).run chain).run.run answer database).calls ≠ []) :
    ∃ draft sql, chain.outcome = .ok draft ∧
      Bulk.update draft.schema draft.table (entities.map Record.values) = .ok sql ∧
        (((bulkUpdate entities).run chain).run.run answer database).calls <+:
          [.connect, .execute .connection sql (.empty chain.settings.sigil)] := by
  rcases exists_text_of_calls reached with ⟨draft, clean, text, settled⟩
  cases empty : entities.isEmpty with
  | true =>
      have nothing : ((bulkUpdate entities).run chain).run.Follows [] :=
        Chain.follows_bulk_of_empty clean empty
      exact absurd (List.prefix_nil.mp nothing.calls_isPrefix) reached
  | false =>
      rw [Ending.text, bulkText, empty, if_neg Bool.false_ne_true] at settled
      cases rendered : Bulk.update draft.schema draft.table (entities.map Record.values) with
      | error error =>
          rw [rendered] at settled
          contradiction
      | ok sql =>
          have follows : ((bulkUpdate entities).run chain).run.Follows _ :=
            Chain.follows_bulk clean empty rendered
          exact ⟨draft, sql, clean, rendered, follows.calls_isPrefix⟩

/-! ## Restriction -/

/-- A statement is restricted by conditions if it has them all, and spares every row of which one
of them is not true; what a database reads after WHERE is then true of the other rows only. -/
structure RestrictedBy (schema : Schema) (sigil : String) (bindings : Bindings)
    (criteria : List Expr) (statement : Statement) : Prop where
  standFor : List.Forall₂ (Condition.StandsFor schema bindings) criteria statement.conditions
  spares (row : Cells)
    (excluded : ∃ condition ∈ statement.conditions,
      condition.truth row bindings.valueOf ≠ some true) :
    statement.Spares bindings.valueOf row
  reads (distinctive : Distinctive sigil) (filtered : criteria ≠ []) :
    ∃ text read, Statement.renderWhere statement.conditions = " WHERE " ++ text ∧
      Condition.read? sigil text = some read ∧
      ∀ row bound, read.truth row bound = some true ↔
        ∀ condition ∈ statement.conditions, condition.truth row bound = some true

theorem restrictedBy_of_standFor {schema : Schema} {settings : Settings} {bindings : Bindings}
    {criteria : List Expr} {statement : Statement}
    (grows : (Bindings.empty settings.sigil).Grows bindings)
    (standFor : List.Forall₂ (Condition.StandsFor schema bindings) criteria
      statement.conditions) :
    RestrictedBy schema settings.sigil bindings criteria statement where
  standFor := standFor
  spares _ excluded := Statement.spares_of_not_true excluded
  reads distinctive filtered := by
    refine Statement.exists_read_where distinctive ?_ fun condition member => ?_
    · intro none
      rw [none] at standFor
      exact filtered (List.forall₂_nil_right_iff.mp standFor)
    · rcases forall₂_right standFor condition member with ⟨criterion, -, stands⟩
      exact stands.uses.imp (fun _ _ => trivial) fun _ => grows.isNumbered

theorem restrictedBy_of_applyAll {schema : Schema} {settings : Settings}
    {steps : List Draft.Step} {draft : Draft} {statement : Statement}
    (ran : ((Draft.empty schema settings).applyAll steps).1 = .ok draft)
    (built : draft.statement = .ok statement) (notInsert : draft.kind ≠ .insert) :
    RestrictedBy schema settings.sigil draft.bindings (steps.flatMap Draft.Step.filters)
      statement := by
  rcases Draft.standFor_of_applyAll ran with ⟨-, grows, standFor⟩
  rw [← Draft.conditions_of_statement built notInsert] at standFor
  exact restrictedBy_of_standFor grows standFor

/-- Of the filters of a chain none is lost: what an ending that restricts sends, if chain and
ending have a text to send, is restricted by all of them and by its own criterion. An update of
many rows at once sends a text that depends on the table and the rows only. -/
theorem filters_restrict_statement [Record E] (schema : Schema) (settings : Settings)
    (links : List (Link E)) (answer : (call : Call) → σ → call.Answer × σ) (database : σ) :
    let chain := links.foldl Link.add (.of schema settings)
    (∀ {α : Type} (ending : Ending E α), ending.Restricts →
      let transcript := (ending.run chain).run.run answer database
      (transcript.calls ≠ [] ↔
        ∃ draft sql, ((ending.steps chain.draft).foldl Chain.link chain).outcome = .ok draft ∧
          draft.sql = .ok sql) ∧
      (transcript.calls ≠ [] →
        ∃ statement bindings, transcript.calls = [ending.call statement.render bindings] ∧
          RestrictedBy schema settings.sigil bindings
            (links.flatMap Link.criteria ++ ending.criteria) statement)) ∧
    ∀ entities,
      let transcript := ((Ending.bulkUpdate entities).run chain).run.run answer database
      transcript.calls ≠ [] →
        ∃ sql, Bulk.update schema chain.draft.table (entities.map Record.values) = .ok sql ∧
          transcript.calls <+: [.connect, .execute .connection sql (.empty settings.sigil)] := by
  intro chain
  refine ⟨?restricts, ?bulk⟩
  case restricts =>
      intro α ending restricts transcript
      refine ⟨Ending.calls_ne_nil_iff restricts, fun reached => ?_⟩
      rcases Ending.calls_of_restricts restricts reached with ⟨draft, sql, clean, settled, sent⟩
      rw [outcome_of_links] at clean
      rcases Draft.statement_eq_of_sql settled with ⟨statement, built, rfl⟩
      have notInsert : draft.kind ≠ .insert := by
        rcases Ending.exists_kind_of_restricts restricts chain.draft with ⟨kind, last, other⟩
        rw [Draft.kind_of_applyAll clean, List.filterMap_append, List.getLast?_append, last]
        exact other
      have restricted := restrictedBy_of_applyAll clean built notInsert
      rw [List.flatMap_append, filters_links, Ending.filters_steps] at restricted
      exact ⟨statement, draft.bindings, sent, restricted⟩
  case bulk =>
      intro entities transcript reached
      rcases Ending.calls_bulkUpdate reached with ⟨draft, sql, clean, rendered, sent⟩
      rw [← Chain.draft_of_outcome clean] at rendered
      rw [Chain.settings_links] at sent
      have sameSchema := (Draft.standFor_of_applyAll
        ((outcome_of_links schema settings links []).symm.trans clean)).1
      rw [← Chain.draft_of_outcome clean] at sameSchema
      rw [sameSchema] at rendered
      exact ⟨sql, rendered, sent⟩

def namedAnn : Criterion Ending.Guest := Field.compare ⟨"Name"⟩ .equal "Ann"

theorem filters_restrict_statement_guests :
    ∃ statement bindings,
      (((Ending.delete namedAnn).run
        ((Chain.of guests .default).filter Ending.adultGuests)).run.run Script.answer {}).calls =
          [.execute .shared statement.render bindings] ∧
      RestrictedBy guests "@" bindings [Ending.adultGuests.expr, namedAnn.expr] statement := by
  have restricted := (filters_restrict_statement guests .default [.filter Ending.adultGuests]
    Script.answer {}).1 (.delete namedAnn) trivial
  exact restricted.2 (List.cons_ne_nil _ _)

def minor : Ending.Guest := ⟨[("Id", .int 1), ("Name", .text "Ann"), ("Age", .int 12)]⟩

/-- An update of many rows reaches those that a filter of the chain keeps out: what is sent is
what is sent without the filter. -/
theorem bulkUpdate_reaches_excluded :
    let calls (chain : Chain Ending.Guest) :=
      (((Ending.bulkUpdate [minor]).run chain).run.run Script.answer {}).calls
    calls ((Chain.of guests .default).filter Ending.adultGuests) = calls (.of guests .default) ∧
      calls ((Chain.of guests .default).filter Ending.adultGuests) =
        [.connect, .execute .connection
          ("UPDATE \x60guests\x60 T1 JOIN " ++
            "(SELECT 1 AS \x60id\x60,'Ann' AS \x60name\x60,12 AS \x60age\x60) T2 " ++
            "ON T1.\x60id\x60 = T2.\x60id\x60 " ++
            "SET T1.\x60name\x60=T2.\x60name\x60,T1.\x60age\x60=T2.\x60age\x60")
          (.empty "@")] := by
  refine ⟨?_, ?_⟩ <;> rfl

end Session

end BoundSql
