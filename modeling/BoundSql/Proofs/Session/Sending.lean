import BoundSql.Proofs.Session.Calls

/-!
Endings that send one statement. `Ending.Restricts` names the endings that read or change the
rows that meet the conditions of a chain. What such an ending sends is the text that the chain
comes to with the steps of the ending, in one call and with the bindings of the chain.
-/

namespace BoundSql.Session

open Entity Sql

/-! ## Exchanges with one call -/

namespace Exchange

def Silent : Exchange α → Prop
  | .done _ => True
  | .notify _ next => next.Silent
  | .ask _ _ => False

/-- An exchange that makes one call, whatever the database answers. -/
def Sends (call : Call) : Exchange α → Prop
  | .done _ => False
  | .notify _ next => next.Sends call
  | .ask asked next => asked = call ∧ ∀ reply, (next reply).Silent

theorem Silent.calls {exchange : Exchange α} (silent : exchange.Silent)
    (answer : (call : Call) → σ → call.Answer × σ) (database : σ) :
    (exchange.run answer database).calls = [] := by
  induction exchange with
  | done result => rfl
  | notify notice next induction => exact induction silent
  | ask call next => exact silent.elim

theorem Sends.calls {exchange : Exchange α} {call : Call} (sends : exchange.Sends call)
    (answer : (call : Call) → σ → call.Answer × σ) (database : σ) :
    (exchange.run answer database).calls = [call] := by
  induction exchange with
  | done result => exact sends.elim
  | notify notice next induction => exact induction sends
  | ask asked next =>
      rcases sends with ⟨rfl, silent⟩
      exact congrArg (asked :: ·) ((silent _).calls answer _)

theorem Silent.bind {exchange : Exchange α} (silent : exchange.Silent) {next : α → Exchange β}
    (rest : ∀ result, (next result).Silent) : (exchange.bind next).Silent := by
  induction exchange with
  | done result => exact rest result
  | notify notice tail induction => exact induction silent
  | ask call tail => exact silent.elim

theorem Sends.bind {exchange : Exchange α} {call : Call} (sends : exchange.Sends call)
    {next : α → Exchange β} (rest : ∀ result, (next result).Silent) :
    (exchange.bind next).Sends call := by
  induction exchange with
  | done result => exact sends.elim
  | notify notice tail induction => exact induction sends
  | ask asked tail => exact ⟨sends.1, fun reply => (sends.2 reply).bind rest⟩

theorem sends_notifyAll_bind {notices : List Notice} {next : Unit → Exchange α} {call : Call}
    (sends : (next ()).Sends call) : ((notifyAll notices).bind next).Sends call := by
  induction notices with
  | nil => exact sends
  | cons notice rest induction => exact induction

end Exchange

namespace Attempt

theorem silent_orFail (wrap : ε → SessionError) (given : Except ε α) :
    (orFail wrap given).run.Silent := by
  cases given with
  | error cause => trivial
  | ok result => trivial

theorem sends_ask_bind {call : Call} {next : call.Yield → Attempt α}
    (rest : ∀ found, (next found).run.Silent) : (ask call >>= next).run.Sends call := by
  refine ⟨rfl, fun reply => ?_⟩
  cases reply with
  | error cause => trivial
  | ok found => exact rest found

theorem Settles.sends {attempt : Attempt α} {result : α} {call : Call}
    (settles : attempt.Settles notices (.ok result)) {next : α → Attempt β}
    (sends : (next result).run.Sends call) : (attempt >>= next).run.Sends call := by
  rw [settles.bind_ok]
  exact Exchange.sends_notifyAll_bind sends

variable {answer : (call : Call) → σ → call.Answer × σ} {database : σ}

theorem HangsOn.settled_of_calls {attempt : Attempt α}
    {text : Except CompileError (Option String)} (hangs : attempt.HangsOn notices text)
    (reached : (attempt.run.run answer database).calls ≠ []) : ∃ found, text = .ok found := by
  cases text with
  | error error =>
      rw [(hangs.failed rfl).run_eq] at reached
      exact absurd rfl reached
  | ok found => exact ⟨found, rfl⟩

theorem Settles.result_bind {attempt : Attempt α} {result : α}
    (settles : attempt.Settles notices (.ok result)) (next : α → Attempt β) :
    ((attempt >>= next).run.run answer database).result =
      ((next result).run.run answer database).result := by
  rw [settles.bind_ok, Exchange.run_notifyAll_bind]

theorem result_ask_orFail {call : Call} {found : call.Yield} {wrap : ε → SessionError}
    {read : call.Yield → Except ε α} (replied : (answer call database).1 = .ok found) :
    ((ask call >>= fun found => orFail wrap (read found)).run.run answer database).result =
      (read found).mapError wrap := by
  rcases replied' : answer call database with ⟨reply, left⟩
  rw [replied'] at replied
  rcases replied with rfl
  refine (congrArg Exchange.Transcript.result (Exchange.run_ask replied')).trans ?_
  change (((orFail wrap (read found)).run).run answer left).result = (read found).mapError wrap
  cases read found <;> rfl

end Attempt

namespace Chain

variable {E : Type} {chain : Chain E} {draft : Draft} {sql : String} {call : Call}

theorem sends_checked {rest : Draft → Attempt α} (clean : chain.outcome = .ok draft)
    (sends : (rest draft).run.Sends call) : (chain.checked >>= rest).run.Sends call := by
  have checked := chain.settles_checked
  rw [clean] at checked
  exact checked.sends sends

theorem sends_textOf {next : String → Attempt α} (settled : draft.sql = .ok sql)
    (sends : (next sql).run.Sends call) : (textOf draft >>= next).run.Sends call :=
  (settles_textOf_of_ok settled).sends sends

variable {answer : (call : Call) → σ → call.Answer × σ} {database : σ}

theorem result_checked {rest : Draft → Attempt α} (clean : chain.outcome = .ok draft) :
    ((chain.checked >>= rest).run.run answer database).result =
      ((rest draft).run.run answer database).result := by
  have checked := chain.settles_checked
  rw [clean] at checked
  exact checked.result_bind rest

theorem result_textOf {next : String → Attempt α} (settled : draft.sql = .ok sql) :
    ((textOf draft >>= next).run.run answer database).result =
      ((next sql).run.run answer database).result :=
  (settles_textOf_of_ok settled).result_bind next

theorem outcome_link_setKind {kind : StatementKind}
    (clean : (chain.link (.setKind kind)).outcome = .ok draft) :
    ∃ before, chain.outcome = .ok before ∧ { before with kind } = draft := by
  rw [outcome_link] at clean
  cases outcome : chain.outcome with
  | error error =>
      rw [outcome] at clean
      contradiction
  | ok before =>
      rw [outcome] at clean
      exact ⟨before, rfl, Except.ok.inj clean⟩

end Chain

/-! ## Endings -/

namespace Ending

variable {E : Type}

/-- The endings that read or change the rows that meet the conditions of a chain. -/
def Restricts : Ending E α → Prop
  | .insert _ | .insertWith _ | .bulkInsert _ | .bulkUpdate _ => False
  | _ => True

def call (sql : String) (bindings : Bindings) : Ending E α → Call
  | .toList | .first | .distinct _ _ => .query sql bindings
  | .count | .max _ _ | .sum _ _ => .scalar .shared sql bindings
  | .insertWith _ | .update _ _ | .updateEntity _ _ | .delete _ => .execute .shared sql bindings
  | .insert _ | .bulkInsert _ | .bulkUpdate _ => .execute .connection sql bindings

variable {chain : Chain E} {draft : Draft} {sql : String}

theorem sends_toList [Record E] (clean : (chain.link (.setKind .select)).outcome = .ok draft)
    (settled : draft.sql = .ok sql) : chain.toList.run.Sends (.query sql draft.bindings) := by
  rcases Chain.outcome_link_setKind clean with ⟨before, outcome, rfl⟩
  exact Chain.sends_checked outcome (Chain.sends_textOf settled
    (Attempt.sends_ask_bind fun _ => Attempt.silent_orFail _ _))

theorem sends_aggregate {function : Aggregate} {field : Field E V} {host : HostType}
    (clean : ((chain.link (.aggregate function field.expr)).link (.setKind .select)).outcome =
      .ok draft)
    (settled : draft.sql = .ok sql) :
    (chain.aggregate function field host).run.Sends (.scalar .shared sql draft.bindings) := by
  rcases Chain.outcome_link_setKind clean with ⟨before, outcome, rfl⟩
  exact Chain.sends_checked outcome (Chain.sends_textOf settled
    (Attempt.sends_ask_bind fun _ => Attempt.silent_orFail _ _))

theorem sends_write (clean : chain.outcome = .ok draft) (settled : draft.sql = .ok sql) :
    chain.write.run.Sends (.execute .shared sql draft.bindings) :=
  Chain.sends_checked clean (Chain.sends_textOf settled
    ⟨rfl, fun reply => by cases reply <;> trivial⟩)

theorem run_sends [Record E] {ending : Ending E α} (restricts : ending.Restricts)
    (clean : ((ending.steps chain.draft).foldl Chain.link chain).outcome = .ok draft)
    (settled : draft.sql = .ok sql) :
    (ending.run chain).run.Sends (ending.call sql draft.bindings) := by
  cases ending with
  | toList => exact sends_toList clean settled
  | first =>
      simp only [run, Chain.first, steps] at clean ⊢
      split at clean
      next paged =>
          rw [if_pos paged]
          exact (sends_toList clean settled).bind fun result => by cases result <;> trivial
      next unpaged =>
          rw [if_neg unpaged]
          exact (sends_toList clean settled).bind fun result => by cases result <;> trivial
  | count =>
      rcases Chain.outcome_link_setKind clean with ⟨before, outcome, rfl⟩
      exact Chain.sends_checked outcome (Chain.sends_textOf settled
        (Attempt.sends_ask_bind fun _ => Attempt.silent_orFail _ _))
  | max field host => exact sends_aggregate clean settled
  | sum field host => exact sends_aggregate clean settled
  | distinct field host =>
      rcases Chain.outcome_link_setKind clean with ⟨before, outcome, rfl⟩
      exact Chain.sends_checked outcome (Chain.sends_textOf settled
        (Attempt.sends_ask_bind fun _ => Attempt.silent_orFail _ _))
  | update criterion assignments => exact sends_write clean settled
  | updateEntity criterion entity => exact sends_write clean settled
  | delete criterion => exact sends_write clean settled
  | insert _ | insertWith _ | bulkInsert _ | bulkUpdate _ => exact restricts.elim

theorem text_of_restricts [Record E] {ending : Ending E α} (restricts : ending.Restricts)
    (draft : Draft) : ending.text draft = draft.sql.map some := by
  cases ending with
  | bulkInsert _ | bulkUpdate _ => exact restricts.elim
  | _ => rfl

theorem exists_text_of_calls [Record E] {ending : Ending E α}
    {answer : (call : Call) → σ → call.Answer × σ} {database : σ}
    (reached : ((ending.run chain).run.run answer database).calls ≠ []) :
    ∃ draft, ((ending.steps chain.draft).foldl Chain.link chain).outcome = .ok draft ∧
      ∃ text, ending.text draft = .ok text := by
  rcases (ending.run_hangsOn chain).settled_of_calls reached with ⟨text, settled⟩
  rcases except_bind_eq_ok.mp settled with ⟨draft, clean, rendered⟩
  exact ⟨draft, clean, text, rendered⟩

theorem calls_of_restricts [Record E] {ending : Ending E α} (restricts : ending.Restricts)
    {answer : (call : Call) → σ → call.Answer × σ} {database : σ}
    (reached : ((ending.run chain).run.run answer database).calls ≠ []) :
    ∃ draft sql, ((ending.steps chain.draft).foldl Chain.link chain).outcome = .ok draft ∧
      draft.sql = .ok sql ∧
        ((ending.run chain).run.run answer database).calls = [ending.call sql draft.bindings] := by
  rcases exists_text_of_calls reached with ⟨draft, clean, text, settled⟩
  rw [text_of_restricts restricts] at settled
  cases sql : draft.sql with
  | error error =>
      rw [sql] at settled
      contradiction
  | ok sql' =>
      exact ⟨draft, sql', clean, sql, (run_sends restricts clean sql).calls answer database⟩

theorem calls_ne_nil_iff [Record E] {ending : Ending E α} (restricts : ending.Restricts)
    {answer : (call : Call) → σ → call.Answer × σ} {database : σ} :
    ((ending.run chain).run.run answer database).calls ≠ [] ↔
      ∃ draft sql, ((ending.steps chain.draft).foldl Chain.link chain).outcome = .ok draft ∧
        draft.sql = .ok sql := by
  constructor
  · intro reached
    rcases calls_of_restricts restricts reached with ⟨draft, sql, clean, settled, -⟩
    exact ⟨draft, sql, clean, settled⟩
  · rintro ⟨draft, sql, clean, settled⟩
    rw [(run_sends restricts clean settled).calls answer database]
    exact List.cons_ne_nil _ _

end Ending

end BoundSql.Session
