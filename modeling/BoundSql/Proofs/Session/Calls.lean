import BoundSql.Proofs.Session.FirstError

/-!
The calls of an exchange. `Exchange.Follows` says that an exchange makes the calls of a plan in
order, `Exchange.Stops` that a call that fails is the last one and its error the answer. Both are
read off the tree, so they hold whatever the answers are; every ending of a chain stops.
-/

namespace BoundSql.Session

open Entity Sql

/-! ## Replies -/

structure Reply where
  call : Call
  answer : call.Answer

namespace Exchange

def replies (answer : (call : Call) → σ → call.Answer × σ) : Exchange α → σ → List Reply
  | .done _, _ => []
  | .notify _ next, state => next.replies answer state
  | .ask call next, state =>
      let (reply, state) := answer call state
      ⟨call, reply⟩ :: (next reply).replies answer state

variable {answer : (call : Call) → σ → call.Answer × σ} {state : σ}

theorem run_ask {call : Call} {next : call.Answer → Exchange α} {reply : call.Answer} {left : σ}
    (replied : answer call state = (reply, left)) :
    (ask call next).run answer state =
      { (next reply).run answer left with
        calls := call :: ((next reply).run answer left).calls } := by
  rw [run, replied]

theorem replies_ask {call : Call} {next : call.Answer → Exchange α} {reply : call.Answer}
    {left : σ} (replied : answer call state = (reply, left)) :
    (ask call next).replies answer state =
      ⟨call, reply⟩ :: (next reply).replies answer left := by
  rw [replies, replied]

theorem map_call_replies (exchange : Exchange α) (state : σ) :
    (exchange.replies answer state).map Reply.call =
      (exchange.run answer state).calls := by
  induction exchange generalizing state with
  | done result => rfl
  | notify notice next induction => exact induction state
  | ask call next induction => exact congrArg (call :: ·) (induction _ _)

theorem replies_notifyAll_bind (notices : List Notice) (next : Unit → Exchange α) :
    ((notifyAll notices).bind next).replies answer state =
      (next ()).replies answer state := by
  induction notices with
  | nil => rfl
  | cons notice rest induction => exact induction

/-! ## Plans -/

/-- An exchange that makes the calls of a plan in order, perhaps not all of them. -/
def Follows : Exchange α → List Call → Prop
  | .done _, _ => True
  | .notify _ next, plan => next.Follows plan
  | .ask _ _, [] => False
  | .ask call next, first :: plan => call = first ∧ ∀ reply, (next reply).Follows plan

theorem Follows.calls_isPrefix {exchange : Exchange α} {plan : List Call}
    (follows : exchange.Follows plan) : (exchange.run answer state).calls <+: plan := by
  induction exchange generalizing plan state with
  | done result => exact List.nil_prefix
  | notify notice next induction => exact induction follows
  | ask call next induction =>
      cases plan with
      | nil => exact follows.elim
      | cons first plan =>
          rcases follows with ⟨rfl, rest⟩
          exact (List.prefix_cons_inj call).mpr (induction _ (rest _))

theorem follows_notifyAll_bind {notices : List Notice} {next : Unit → Exchange α}
    {plan : List Call} (follows : (next ()).Follows plan) :
    ((notifyAll notices).bind next).Follows plan := by
  induction notices with
  | nil => exact follows
  | cons notice rest induction => exact induction

/-! ## Failures -/

/-- An exchange that a call that fails ends, with the error of that call. -/
def Stops : Exchange (Except SessionError α) → Prop
  | .done _ => True
  | .notify _ next => next.Stops
  | .ask call next =>
      (∀ cause, next (.error cause) = .done (.error (call.error cause))) ∧
        ∀ found, (next (.ok found)).Stops

theorem Stops.of_failure {exchange : Exchange (Except SessionError α)} (stops : exchange.Stops)
    {before after : List Reply} {call : Call} {cause : call.Failure}
    (failed : exchange.replies answer state = before ++ ⟨call, .error cause⟩ :: after) :
    after = [] ∧ (exchange.run answer state).result = .error (call.error cause) := by
  induction exchange generalizing before state with
  | done result => exact absurd failed (by simp [replies])
  | notify notice next induction => exact induction stops failed
  | ask asked next induction =>
      rcases replied : answer asked state with ⟨reply, left⟩
      simp only [replies, run, replied] at failed ⊢
      cases before with
      | nil =>
          rcases List.cons.inj failed with ⟨same, rest⟩
          cases same
          rw [stops.1 cause] at rest ⊢
          exact ⟨rest.symm, rfl⟩
      | cons first before =>
          rcases List.cons.inj failed with ⟨-, rest⟩
          cases reply with
          | error cause' => exact absurd rest (by simp [stops.1 cause', replies])
          | ok found => exact induction _ (stops.2 found) rest

end Exchange

namespace Attempt

theorem stops_notifyAll (notices : List Notice) : (notifyAll notices).run.Stops := by
  have unfolded : (notifyAll notices).run =
      (Exchange.notifyAll notices).bind fun _ => .done (.ok ()) := rfl
  rw [unfolded]
  induction notices with
  | nil => trivial
  | cons notice rest induction => exact induction rfl

theorem stops_ask (call : Call) : (ask call).run.Stops := ⟨fun _ => rfl, fun _ => trivial⟩

theorem stops_orFail (wrap : ε → SessionError) (given : Except ε α) :
    (orFail wrap given).run.Stops := by
  cases given with
  | error cause => trivial
  | ok result => trivial

theorem stops_bind {attempt : Attempt α} {next : α → Attempt β} (stops : attempt.run.Stops)
    (rest : ∀ result, (next result).run.Stops) : (attempt >>= next).run.Stops := by
  have unfolded : (attempt >>= next).run = attempt.run.bind (ExceptT.bindCont next) := rfl
  rw [unfolded]
  generalize attempt.run = exchange at stops
  induction exchange with
  | done outcome =>
      cases outcome with
      | error error => trivial
      | ok result => exact rest result
  | notify notice tail induction => exact induction stops
  | ask call tail induction =>
      constructor
      · intro cause
        change (tail (.error cause)).bind _ = _
        rw [stops.1 cause]
        rfl
      · exact fun found => induction _ (stops.2 found)

end Attempt

/-! ## Endings -/

namespace Chain

open Attempt

variable {E : Type}

theorem stops_checked (chain : Chain E) : chain.checked.run.Stops := by
  refine stops_bind (stops_notifyAll _) fun _ => ?_
  cases chain.error with
  | some error => trivial
  | none => trivial

theorem stops_textOf (draft : Draft) : (textOf draft).run.Stops :=
  stops_bind (stops_orFail _ _) fun _ => stops_bind (stops_notifyAll _) fun _ => trivial

theorem stops_toList [Record E] (chain : Chain E) : chain.toList.run.Stops :=
  stops_bind chain.stops_checked fun _ => stops_bind (stops_textOf _) fun _ =>
    stops_bind (stops_ask _) fun _ => stops_orFail _ _

theorem stops_aggregate (chain : Chain E) (function : Aggregate) (field : Field E V)
    (host : HostType) : (chain.aggregate function field host).run.Stops :=
  stops_bind (stops_checked _) fun _ => stops_bind (stops_textOf _) fun _ =>
    stops_bind (stops_ask _) fun _ => stops_orFail _ _

theorem stops_write (chain : Chain E) : chain.write.run.Stops :=
  stops_bind chain.stops_checked fun _ => stops_bind (stops_textOf _) fun _ => stops_ask _

theorem stops_insertWithIdentity (settings : Settings) (draft : Draft) (sql : String)
    (identity : Column) : (insertWithIdentity settings draft sql identity).run.Stops := by
  refine stops_bind (stops_ask _) fun _ => stops_bind (stops_ask _) fun affected =>
    stops_bind (stops_ask _) fun found => ?_
  unfold storeIdentity
  split
  next key _ =>
      exact stops_bind (stops_orFail _ _) fun _ => stops_bind (stops_ask _) fun _ => trivial
  next => exact stops_bind (stops_notifyAll _) fun _ => trivial

theorem stops_insert [Record E] (chain : Chain E) (entity : E) :
    (chain.insert entity).run.Stops := by
  refine stops_bind (stops_checked _) fun draft => stops_bind (stops_textOf _) fun sql => ?_
  split
  next identity _ => exact stops_insertWithIdentity _ _ _ _
  next => exact stops_bind (stops_ask _) fun _ => trivial

theorem stops_bulk [Record E] (chain : Chain E) (render : BulkText) (entities : List E) :
    (chain.bulk render entities).run.Stops := by
  refine stops_bind chain.stops_checked fun draft => ?_
  split
  next => trivial
  next =>
      exact stops_bind (stops_orFail _ _) fun _ => stops_bind (stops_notifyAll _) fun _ =>
        stops_bind (stops_ask _) fun _ => stops_ask _

end Chain

theorem Ending.run_stops [Record E] (ending : Ending E α) (chain : Chain E) :
    (ending.run chain).run.Stops := by
  cases ending with
  | toList => exact chain.stops_toList
  | first => exact Attempt.stops_bind (Chain.stops_toList _) fun _ => trivial
  | count =>
      exact Attempt.stops_bind chain.stops_checked fun _ =>
        Attempt.stops_bind (Chain.stops_textOf _) fun _ =>
          Attempt.stops_bind (Attempt.stops_ask _) fun _ => Attempt.stops_orFail _ _
  | max field host => exact chain.stops_aggregate .max field host
  | sum field host => exact chain.stops_aggregate .sum field host
  | distinct field host =>
      exact Attempt.stops_bind (Chain.stops_checked _) fun _ =>
        Attempt.stops_bind (Chain.stops_textOf _) fun _ =>
          Attempt.stops_bind (Attempt.stops_ask _) fun _ => Attempt.stops_orFail _ _
  | insert entity => exact chain.stops_insert entity
  | insertWith assignments => exact Chain.stops_write _
  | update criterion assignments => exact Chain.stops_write _
  | updateEntity criterion entity => exact Chain.stops_write _
  | delete criterion => exact Chain.stops_write _
  | bulkInsert entities => exact chain.stops_bulk Bulk.insert entities
  | bulkUpdate entities => exact chain.stops_bulk Bulk.update entities

end BoundSql.Session
