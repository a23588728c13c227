import BoundSql.Proofs.Condition.Meaning
import BoundSql.Proofs.Draft.Run
import BoundSql.Session.Ending
import BoundSql.Session.Loose

/-!
What a chain answers when something in it does not compile. An ending does three things in
turn: it checks the chain with its own steps added, it settles the text, and only then does
it call the database. `Ending.run_hangsOn` says so for every ending, so an error in one of the
first two is the answer, and nothing is called.
-/

namespace BoundSql.Session

open Entity Sql

/-! ## Exchanges -/

namespace Exchange

def Calls : Exchange α → Prop
  | .done _ => False
  | .notify _ next => next.Calls
  | .ask call _ => call.reachesDatabase = true

theorem Calls.exists_first {exchange : Exchange α} (calls : exchange.Calls)
    (answer : (call : Call) → σ → call.Answer × σ) (state : σ) :
    ∃ call rest, (exchange.run answer state).calls = call :: rest ∧
      call.reachesDatabase = true := by
  induction exchange generalizing state with
  | done result => exact calls.elim
  | notify notice next induction => exact induction calls state
  | ask call next => exact ⟨call, _, rfl, calls⟩

theorem Calls.bind {exchange : Exchange α} (calls : exchange.Calls) (next : α → Exchange β) :
    (exchange.bind next).Calls := by
  induction exchange with
  | done result => exact calls.elim
  | notify notice rest induction => exact induction calls
  | ask call rest => exact calls

theorem calls_notifyAll_bind {notices : List Notice} {next : Unit → Exchange α}
    (calls : (next ()).Calls) : ((notifyAll notices).bind next).Calls := by
  induction notices with
  | nil => exact calls
  | cons notice rest induction => exact induction

theorem run_notifyAll_bind (notices : List Notice) (next : Unit → Exchange α)
    (answer : (call : Call) → σ → call.Answer × σ) (state : σ) :
    ((notifyAll notices).bind next).run answer state =
      { (next ()).run answer state with
        notices := notices ++ ((next ()).run answer state).notices } := by
  induction notices with
  | nil => rfl
  | cons notice rest induction => rw [notifyAll, bind, run, induction]; rfl

end Exchange

/-! ## Attempts -/

namespace Attempt

/-- An attempt that comes to its outcome without a call. -/
def Settles (attempt : Attempt α) (notices : List Notice) (outcome : Except SessionError α) :
    Prop :=
  attempt.run = (Exchange.notifyAll notices).bind fun _ => .done outcome

theorem settles_notifyAll (notices : List Notice) : (notifyAll notices).Settles notices (.ok ()) :=
  rfl

theorem settles_orFail (wrap : ε → SessionError) (given : Except ε α) :
    (orFail wrap given).Settles [] (given.mapError wrap) := by
  cases given with
  | error cause => rfl
  | ok result => rfl

theorem Settles.bind_ok {attempt : Attempt α} {result : α}
    (settles : attempt.Settles notices (.ok result)) (next : α → Attempt β) :
    (attempt >>= next).run = (Exchange.notifyAll notices).bind fun _ => (next result).run := by
  change attempt.run.bind _ = _
  rw [settles, Exchange.bind_assoc]
  rfl

theorem Settles.bind_error {attempt : Attempt α} {error : SessionError}
    (settles : attempt.Settles notices (.error error)) (next : α → Attempt β) :
    (attempt >>= next).Settles notices (.error error) := by
  change attempt.run.bind _ = _
  rw [settles, Exchange.bind_assoc]
  rfl

theorem Settles.calls_bind {attempt : Attempt α} {result : α}
    (settles : attempt.Settles notices (.ok result)) {next : α → Attempt β}
    (calls : (next result).run.Calls) : (attempt >>= next).run.Calls := by
  rw [settles.bind_ok]
  exact Exchange.calls_notifyAll_bind calls

theorem Settles.run_eq {attempt : Attempt α} {outcome : Except SessionError α}
    (settles : attempt.Settles notices outcome)
    (answer : (call : Call) → σ → call.Answer × σ) (state : σ) :
    attempt.run.run answer state = { result := outcome, calls := [], notices, state } := by
  rw [settles, Exchange.run_notifyAll_bind, Exchange.run, List.append_nil]

end Attempt

/-! ## Chains -/

namespace Chain

variable {E : Type}

def outcome (chain : Chain E) : Except CompileError Draft :=
  match chain.error with
  | some error => .error error
  | none => .ok chain.draft

theorem outcome_link (chain : Chain E) (step : Draft.Step) :
    (chain.link step).outcome = chain.outcome >>= fun draft => (draft.apply step).1 := by
  unfold link outcome
  cases failed : chain.error with
  | some error => simp only [failed]; rfl
  | none =>
      rcases applied : chain.draft.apply step with ⟨error | draft, notices⟩
      case error => exact congrArg Prod.fst applied.symm
      case ok => exact congrArg Prod.fst applied.symm

theorem outcome_foldl_link (chain : Chain E) (steps : List Draft.Step) :
    (steps.foldl link chain).outcome =
      chain.outcome >>= fun draft => (draft.applyAll steps).1 := by
  induction steps generalizing chain with
  | nil => exact (bind_pure chain.outcome).symm
  | cons step steps induction =>
      rw [List.foldl_cons, induction, outcome_link, bind_assoc]
      simp only [Draft.applyAll_cons]

theorem foldl_add (chain : Chain E) (links : List (Link E)) :
    links.foldl Link.add chain = (links.flatMap Link.steps).foldl link chain := by
  induction links generalizing chain with
  | nil => rfl
  | cons head links induction =>
      rw [List.foldl_cons, induction, List.flatMap_cons, List.foldl_append]
      cases head <;> rfl

theorem outcome_of_start [Record E] {settings : Settings} {chain : Chain E}
    (started : start settings = .ok chain) : chain.outcome = .ok chain.draft := by
  unfold start at started
  split at started
  next schema resolved => rw [← Except.ok.inj started]; rfl
  next => contradiction

theorem settles_checked (chain : Chain E) :
    chain.checked.Settles chain.pending (chain.outcome.mapError .compile) := by
  unfold checked outcome Attempt.Settles
  rw [(Attempt.settles_notifyAll chain.pending).bind_ok]
  cases chain.error with
  | some error => rfl
  | none => rfl

theorem settles_textOf_of_ok {draft : Draft} {sql : String} (settled : draft.sql = .ok sql) :
    (textOf draft).Settles draft.sqlNotices (.ok sql) := by
  unfold textOf
  rw [settled]
  exact (Attempt.settles_notifyAll draft.sqlNotices).bind_ok fun _ => pure sql

theorem settles_textOf_of_error {draft : Draft} {error : CompileError}
    (failed : draft.sql = .error error) :
    (textOf draft).Settles [] (.error (.compile error)) := by
  unfold textOf
  rw [failed]
  rfl

end Chain

/-! ## What stands or falls with a text -/

namespace Attempt

/-- An attempt that hangs on a text: an error in it is the outcome, and a text that is
settled goes to the database. -/
structure HangsOn (attempt : Attempt α) (notices : List Notice)
    (text : Except CompileError (Option String)) : Prop where
  failed {error : CompileError} (failed : text = .error error) :
    attempt.Settles notices (.error (.compile error))
  sent {sql : String} (settled : text = .ok (some sql)) : attempt.run.Calls

variable {text : Except CompileError (Option String)}

theorem HangsOn.bind {attempt : Attempt α} (hangs : attempt.HangsOn notices text)
    (next : α → Attempt β) : (attempt >>= next).HangsOn notices text where
  failed failed := (hangs.failed failed).bind_error next
  sent settled := (hangs.sent settled).bind _

theorem hangsOn_sql {draft : Draft} {next : String → Attempt α}
    (calls : ∀ sql, (next sql).run.Calls) :
    (Chain.textOf draft >>= next).HangsOn [] (draft.sql.map some) := by
  cases settled : draft.sql with
  | error error =>
      constructor
      case failed =>
          rintro _ ⟨⟩
          exact (Chain.settles_textOf_of_error settled).bind_error next
      case sent => nofun
  | ok sql =>
      constructor
      case failed => nofun
      case sent =>
          intro _ _
          exact (Chain.settles_textOf_of_ok settled).calls_bind (calls sql)

variable {E : Type} {chain : Chain E}

theorem hangsOn_outcome {text : Draft → Except CompileError (Option String)}
    {rest : Draft → Attempt α} (hangs : ∀ draft, (rest draft).HangsOn [] (text draft)) :
    (chain.checked >>= rest).HangsOn chain.pending (chain.outcome >>= text) := by
  have checked := chain.settles_checked
  cases outcome : chain.outcome with
  | error error =>
      rw [outcome] at checked
      constructor
      case failed =>
          rintro _ ⟨⟩
          exact checked.bind_error rest
      case sent => nofun
  | ok draft =>
      rw [outcome] at checked
      constructor
      case failed =>
          intro error failed
          unfold Settles
          rw [checked.bind_ok, (hangs draft).failed failed]
          rfl
      case sent =>
          intro sql settled
          exact checked.calls_bind ((hangs draft).sent settled)

theorem hangsOn_outcome_setKind {kind : StatementKind} {rest : Draft → Attempt α}
    {text : Draft → Except CompileError (Option String)}
    (hangs : ∀ draft, (rest draft).HangsOn [] (text { draft with kind })) :
    (chain.checked >>= rest).HangsOn (chain.link (.setKind kind)).pending
      ((chain.link (.setKind kind)).outcome >>= text) := by
  have pending : (chain.link (.setKind kind)).pending = chain.pending := by
    unfold Chain.link
    cases chain.error with
    | some error => rfl
    | none => exact List.append_nil _
  rw [pending, Chain.outcome_link, bind_assoc]
  exact hangsOn_outcome hangs

end Attempt

/-! ## Endings -/

namespace Ending

variable {E : Type}

theorem toList_hangsOn [Record E] (chain : Chain E) :
    chain.toList.HangsOn (chain.link (.setKind .select)).pending
      ((chain.link (.setKind .select)).outcome >>= fun draft => draft.sql.map some) :=
  Attempt.hangsOn_outcome_setKind fun _ => Attempt.hangsOn_sql fun _ => rfl

theorem write_hangsOn (chain : Chain E) :
    chain.write.HangsOn chain.pending
      (chain.outcome >>= fun draft => draft.sql.map some) :=
  Attempt.hangsOn_outcome fun _ => Attempt.hangsOn_sql fun _ => rfl

theorem aggregate_hangsOn (chain : Chain E) (function : Aggregate) (field : Field E V)
    (host : HostType) :
    let linked := (chain.link (.aggregate function field.expr)).link (.setKind .select)
    (chain.aggregate function field host).HangsOn linked.pending
      (linked.outcome >>= fun draft => draft.sql.map some) :=
  Attempt.hangsOn_outcome_setKind fun _ => Attempt.hangsOn_sql fun _ => rfl

theorem bulk_hangsOn [Record E] (chain : Chain E) (render : Chain.BulkText)
    (entities : List E) :
    (chain.bulk render entities).HangsOn chain.pending
      (chain.outcome >>= fun draft => bulkText draft render entities) := by
  refine Attempt.hangsOn_outcome fun draft => ?_
  unfold bulkText
  split
  next => exact ⟨nofun, nofun⟩
  next =>
      cases render draft.schema draft.table (entities.map Record.values) with
      | error error =>
          constructor
          case failed =>
              rintro _ ⟨⟩
              rfl
          case sent => nofun
      | ok sql =>
          constructor
          case failed => nofun
          case sent =>
              intro _ _
              refine (Attempt.settles_orFail .compile (.ok sql)).calls_bind ?_
              exact (Attempt.settles_notifyAll _).calls_bind rfl

theorem run_hangsOn [Record E] (ending : Ending E α) (chain : Chain E) :
    let linked := (ending.steps chain.draft).foldl Chain.link chain
    (ending.run chain).HangsOn linked.pending (linked.outcome >>= ending.text) := by
  cases ending with
  | toList => exact toList_hangsOn chain
  | first =>
      simp only [run, Chain.first, steps]
      split
      next => exact (toList_hangsOn chain).bind _
      next => exact (toList_hangsOn (chain.top 1)).bind _
  | count => exact Attempt.hangsOn_outcome_setKind fun _ => Attempt.hangsOn_sql fun _ => rfl
  | max field host => exact aggregate_hangsOn chain .max field host
  | sum field host => exact aggregate_hangsOn chain .sum field host
  | distinct field host =>
      exact Attempt.hangsOn_outcome_setKind fun _ => Attempt.hangsOn_sql fun _ => rfl
  | insert entity =>
      refine Attempt.hangsOn_outcome fun draft => Attempt.hangsOn_sql fun sql => ?_
      cases draft.schema.identity? with
      | some identity => rfl
      | none => rfl
  | insertWith assignments => exact write_hangsOn (chain.link _)
  | update criterion assignments => exact write_hangsOn ((chain.link _).link _)
  | updateEntity criterion entity => exact write_hangsOn ((chain.link _).link _)
  | delete criterion => exact write_hangsOn ((chain.link _).link _)
  | bulkInsert entities => exact bulk_hangsOn chain Bulk.insert entities
  | bulkUpdate entities => exact bulk_hangsOn chain Bulk.update entities

/-- A run that comes to an error and calls nothing, neither a database nor the entity that the
caller holds, whatever they would answer. -/
def Refuses [Record E] (ending : Ending E α) (chain : Chain E) (error : CompileError) : Prop :=
  ∀ (σ : Type) (answer : (call : Call) → σ → call.Answer × σ) (state : σ),
    (ending.run chain).run.run answer state =
      { result := .error (.compile error)
        calls := []
        notices := ((ending.steps chain.draft).foldl Chain.link chain).pending
        state }

theorem refuses_of_outcome [Record E] {ending : Ending E α} {chain : Chain E}
    (failed : ((ending.steps chain.draft).foldl Chain.link chain).outcome >>= ending.text =
      .error error) : ending.Refuses chain error := by
  intro σ answer state
  exact ((ending.run_hangsOn chain).failed failed).run_eq answer state

/-- The first error of a chain and its ending is the answer, and nothing is called: it comes
from the first step that fails on the draft that the steps before it have left, or else from
the text. A text that is settled goes to the database. -/
theorem first_error_is_answer [Record E] {settings : Settings} {start : Chain E}
    (started : Chain.start settings = .ok start) (links : List (Link E)) (ending : Ending E α) :
    let chain := links.foldl Link.add start
    let steps := links.flatMap Link.steps ++ ending.steps chain.draft
    (∀ before step after left error, steps = before ++ step :: after →
      (start.draft.applyAll before).1 = .ok left → (left.apply step).1 = .error error →
        ending.Refuses chain error) ∧
    (∀ draft error, (start.draft.applyAll steps).1 = .ok draft →
      ending.text draft = .error error → ending.Refuses chain error) ∧
    ∀ draft sql, (start.draft.applyAll steps).1 = .ok draft →
      ending.text draft = .ok (some sql) →
        ∀ {σ : Type} (answer : (call : Call) → σ → call.Answer × σ) (database : σ),
          ∃ call rest, ((ending.run chain).run.run answer database).calls = call :: rest ∧
            call.reachesDatabase = true := by
  intro chain steps
  have linked : (ending.steps chain.draft).foldl Chain.link chain =
      steps.foldl Chain.link start := by
    rw [List.foldl_append, ← Chain.foldl_add]
  have outcome : ((ending.steps chain.draft).foldl Chain.link chain).outcome =
      (start.draft.applyAll steps).1 := by
    rw [linked, Chain.outcome_foldl_link, Chain.outcome_of_start started]
    rfl
  refine ⟨?step, ?text, ?sent⟩
  case step =>
      intro before step after left error split ran failed
      have stopped := Draft.applyAll_eq_error after ran failed
      refine refuses_of_outcome ?_
      rw [outcome, split, stopped]
      rfl
  case text =>
      intro draft error ran failed
      refine refuses_of_outcome ?_
      rw [outcome, ran]
      exact failed
  case sent =>
      intro draft sql ran settled σ answer database
      have comes : ((ending.steps chain.draft).foldl Chain.link chain).outcome >>= ending.text =
          .ok (some sql) := by
        rw [outcome, ran]
        exact settled
      exact ((ending.run_hangsOn chain).sent comes).exists_first answer database

def guestEntity : LooseEntity where
  name := "Guest"
  tables := .single "guests"
  members :=
    [(LooseMember.plain "Id" (.integer true 64)).key, .plain "Name" .text,
     .plain "Age" (.integer true 64)]

abbrev Guest := Loose guestEntity

def adultGuests : Criterion Guest := Field.compare ⟨"Age"⟩ .greaterThan (17 : Int64)

def roomedGuests : Criterion Guest := adultGuests.and (Field.compare ⟨"Room"⟩ .equal (1 : Int64))

theorem first_error_is_answer_guests :
    (delete roomedGuests).Refuses ((Chain.of guests .default).filter adultGuests)
        (.unknownMember "Guest" "Room") ∧
      (insertWith (E := Guest) {}).Refuses (.of guests .default) (.emptyStatement "INSERT") := by
  have started : Chain.start (E := Guest) .default = .ok (.of guests .default) := by rfl
  have deleting := first_error_is_answer started [.filter adultGuests] (.delete roomedGuests)
  have inserting := first_error_is_answer started [] (.insertWith {})
  obtain ⟨left, ran, failed⟩ : ∃ left, ((Chain.of (E := Guest) guests .default).draft.applyAll
      [.filter adultGuests.expr, .setKind .delete]).1 = .ok left ∧
      (left.apply (.filter roomedGuests.expr)).1 = .error (.unknownMember "Guest" "Room") :=
    ⟨_, rfl, rfl⟩
  obtain ⟨draft, emptied, wordless⟩ : ∃ draft,
      ((Chain.of (E := Guest) guests .default).draft.applyAll
        [.insert (Assignments.expr (E := Guest) {})]).1 = .ok draft ∧
      draft.sql.map some = .error (.emptyStatement "INSERT") :=
    ⟨_, rfl, rfl⟩
  exact ⟨deleting.1 _ _ [] _ _ rfl ran failed, inserting.2.1 _ _ emptied wordless⟩

end Ending

end BoundSql.Session
