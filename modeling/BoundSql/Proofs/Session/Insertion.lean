import BoundSql.Proofs.Session.Calls
import BoundSql.Session.Script

/-!
How an insert goes. With an identity column it opens a connection, writes on it and asks there
for the key that the database made; it ends at the first of these calls that fails. Only when
all of them succeed may the entity get a key, and then it is assigned once. On every other path
the entity stays as the caller gave it.
-/

namespace BoundSql.Session

open Entity Sql

/-! ## Courses -/

namespace Exchange

/-- How an exchange goes from a state: the calls with their answers, what it comes to and the
state that it leaves. -/
structure Goes (exchange : Exchange α) (answer : (call : Call) → σ → call.Answer × σ)
    (state : σ) (replies : List Reply) (result : α) (left : σ) : Prop where
  replies : exchange.replies answer state = replies
  result : (exchange.run answer state).result = result
  state : (exchange.run answer state).state = left

variable {answer : (call : Call) → σ → call.Answer × σ} {state left last : σ}
  {replies : List Reply} {result : α}

theorem goes_done (answer : (call : Call) → σ → call.Answer × σ) (state : σ) (result : α) :
    (done result).Goes answer state [] result state := ⟨rfl, rfl, rfl⟩

theorem Goes.ask {call : Call} {next : call.Answer → Exchange α} {reply : call.Answer}
    (replied : answer call state = (reply, left))
    (goes : (next reply).Goes answer left replies result last) :
    (ask call next).Goes answer state (⟨call, reply⟩ :: replies) result last := by
  constructor
  · rw [replies_ask replied, goes.replies]
  · rw [run_ask replied, ← goes.result]
  · rw [run_ask replied, ← goes.state]

theorem Goes.notifyAll_bind {notices : List Notice} {next : Unit → Exchange α}
    (goes : (next ()).Goes answer state replies result left) :
    ((notifyAll notices).bind next).Goes answer state replies result left := by
  constructor
  · rw [replies_notifyAll_bind, goes.replies]
  · rw [run_notifyAll_bind, ← goes.result]
  · rw [run_notifyAll_bind, ← goes.state]

end Exchange

namespace Attempt

variable {answer : (call : Call) → σ → call.Answer × σ} {state left last : σ} {call : Call}

theorem goes_ask_bind_ok {next : call.Yield → Attempt α} {found : call.Yield}
    {replies : List Reply} {result : Except SessionError α}
    (replied : answer call state = (.ok found, left))
    (goes : (next found).run.Goes answer left replies result last) :
    (ask call >>= next).run.Goes answer state (⟨call, .ok found⟩ :: replies) result last :=
  Exchange.Goes.ask replied goes

theorem goes_ask_bind_error {cause : call.Failure}
    (replied : answer call state = (.error cause, left)) (next : call.Yield → Attempt α) :
    (ask call >>= next).run.Goes answer state [⟨call, .error cause⟩]
      (.error (call.error cause)) left :=
  Exchange.Goes.ask replied (Exchange.goes_done answer left _)

end Attempt

/-! ## Entities -/

section

variable [Record E] {database : (call : Call) → σ → call.Answer × σ} {store left : σ} {entity : E}

theorem Record.answer_assign {member : String} {value : Value}
    {outcome : Except CoercionError Unit} {kept : E}
    (assigned : Record.assign entity member value = (outcome, kept)) :
    Record.answer database (.assign member value) (store, entity) = (outcome, store, kept) := by
  unfold Record.answer
  simp only [assigned]
  rfl

theorem Record.answer_database {call : Call} {reply : call.Answer}
    (replied : database call store = (reply, left))
    (other : ∀ member value, call ≠ .assign member value) :
    Record.answer database call (store, entity) = (reply, left, entity) := by
  cases call with
  | assign member value => exact absurd rfl (other member value)
  | _ => exact congrArg (fun both => (both.1, both.2, entity)) replied

def Record.after (entity : E) : Call → E
  | .assign member value => (Record.assign entity member value).2
  | _ => entity

/-- An exchange does nothing to an entity but assign its members. -/
theorem Exchange.entity_after (exchange : Exchange α)
    (database : (call : Call) → σ → call.Answer × σ) (store : σ) (entity : E) :
    let transcript := exchange.run (Record.answer database) (store, entity)
    transcript.state.2 = transcript.calls.foldl Record.after entity := by
  induction exchange generalizing store entity with
  | done result => rfl
  | notify notice next induction => exact induction store entity
  | ask call next induction => cases call <;> exact induction _ _ _

end

namespace Chain

variable {E : Type}

/-! ## What an insert concludes -/

theorem identityOf_eq_some_iff {affected : UInt64} {found : Option Value} {key : Value} :
    identityOf affected found = some key ↔
      affected = 1 ∧ found = some key ∧ key.isNull = false := by
  cases found with
  | none => simp [identityOf]
  | some value =>
      simp only [identityOf, Option.ite_none_right_eq_some, Bool.and_eq_true, Bool.not_eq_true',
        decide_eq_true_eq, Option.some.injEq]
      constructor
      · rintro ⟨⟨solid, single⟩, rfl⟩
        exact ⟨single, rfl, solid⟩
      · rintro ⟨single, rfl, solid⟩
        exact ⟨⟨solid, single⟩, rfl⟩

theorem identityOf_eq_none_iff {affected : UInt64} {found : Option Value} :
    identityOf affected found = none ↔ affected ≠ 1 ∨ found = none ∨ found = some .null := by
  cases found with
  | none => simp [identityOf]
  | some value => cases value <;> simp [identityOf, Value.isNull]

/-- One row was written and a key was found for it, in the form that the identity column stores. -/
def Keys (identity : Column) (affected : UInt64) (found : Option Value) (stored : Value) : Prop :=
  ∃ key, affected = 1 ∧ found = some key ∧ key.isNull = false ∧
    key.coerce identity.kind = .ok stored

/-- What an insert came to and what it did to the entity, given the rows written and the key
found. -/
structure Concludes [Record E] (identity : Column) (entity : E) (affected : UInt64)
    (found : Option Value) (assigned : List Reply) (result : Except SessionError Bool)
    (kept : E) : Prop where
  /-- An entity with a key is assigned that key, once. -/
  assigns (stored : Value) : Keys identity affected found stored →
    assigned = [⟨.assign identity.member stored,
      (Record.assign entity identity.member stored).1⟩] ∧
    kept = (Record.assign entity identity.member stored).2
  /-- An entity without one is left alone. -/
  spares : (¬ ∃ stored, Keys identity affected found stored) → assigned = [] ∧ kept = entity
  keyed : result = .ok true ↔ ∃ stored, Keys identity affected found stored ∧
    (Record.assign entity identity.member stored).1 = .ok ()
  keyless : result = .ok false ↔ affected ≠ 1 ∨ found = none ∨ found = some .null
  /-- One row and a key that the identity column or the entity does not take. -/
  refused (error : SessionError) : result = .error error ↔
    ∃ cause, error = .identity identity.member cause ∧
      ((∃ key, affected = 1 ∧ found = some key ∧ key.isNull = false ∧
          key.coerce identity.kind = .error cause) ∨
        ∃ stored, Keys identity affected found stored ∧
          (Record.assign entity identity.member stored).1 = .error cause)

theorem keys_iff {identity : Column} {affected : UInt64} {found : Option Value} {stored : Value} :
    Keys identity affected found stored ↔
      ∃ key, identityOf affected found = some key ∧ key.coerce identity.kind = .ok stored := by
  simp only [Keys, identityOf_eq_some_iff, and_assoc]

variable {identity : Column} {entity : E} {affected : UInt64} {found : Option Value}
  {database : (call : Call) → σ → call.Answer × σ}

theorem concludes_of_keyless [Record E] (keyless : identityOf affected found = none) :
    Concludes identity entity affected found [] (.ok false) entity := by
  have missing := identityOf_eq_none_iff.mp keyless
  have never (stored : Value) : ¬ Keys identity affected found stored := by
    rw [keys_iff, keyless]
    nofun
  constructor
  case assigns => exact fun stored keys => absurd keys (never stored)
  case spares => exact fun _ => ⟨rfl, rfl⟩
  case keyed => exact iff_of_false nofun fun some => never _ some.choose_spec.1
  case keyless => exact iff_of_true rfl missing
  case refused =>
      intro error
      refine iff_of_false nofun ?_
      rintro ⟨cause, -, ⟨key, single, told, solid, -⟩ | ⟨stored, keys, -⟩⟩
      · have some := identityOf_eq_some_iff.mpr ⟨single, told, solid⟩
        rw [keyless] at some
        contradiction
      · exact never stored keys

theorem concludes_of_uncoerced [Record E] {key : Value} {cause : CoercionError}
    (keyed : identityOf affected found = some key)
    (uncoerced : key.coerce identity.kind = .error cause) :
    Concludes identity entity affected found [] (.error (.identity identity.member cause))
      entity := by
  have never (stored : Value) : ¬ Keys identity affected found stored := by
    rw [keys_iff, keyed]
    rintro ⟨_, ⟨⟩, coerced⟩
    rw [uncoerced] at coerced
    contradiction
  rcases identityOf_eq_some_iff.mp keyed with ⟨rfl, rfl, solid⟩
  constructor
  case assigns => exact fun stored keys => absurd keys (never stored)
  case spares => exact fun _ => ⟨rfl, rfl⟩
  case keyed => exact iff_of_false nofun fun some => never _ some.choose_spec.1
  case keyless =>
      rw [← identityOf_eq_none_iff, keyed]
      exact iff_of_false nofun nofun
  case refused =>
      intro error
      constructor
      · rintro ⟨⟩
        exact ⟨cause, rfl, .inl ⟨key, rfl, rfl, solid, uncoerced⟩⟩
      · rintro ⟨cause', rfl, ⟨key', -, ⟨⟩, -, uncoerced'⟩ | ⟨stored, keys, -⟩⟩
        · rw [uncoerced] at uncoerced'
          rw [Except.error.inj uncoerced']
        · exact absurd keys (never stored)

theorem concludes_of_stored [Record E] {key stored : Value}
    (keyed : identityOf affected found = some key)
    (coerced : key.coerce identity.kind = .ok stored) :
    Concludes identity entity affected found
      [⟨.assign identity.member stored, (Record.assign entity identity.member stored).1⟩]
      (((Record.assign entity identity.member stored).1.map fun _ => true).mapError
        (.identity identity.member))
      (Record.assign entity identity.member stored).2 := by
  have only (other : Value) : Keys identity affected found other ↔ other = stored := by
    rw [keys_iff, keyed]
    constructor
    · rintro ⟨_, ⟨⟩, coerced'⟩
      rw [coerced] at coerced'
      exact (Except.ok.inj coerced').symm
    · rintro rfl
      exact ⟨key, rfl, coerced⟩
  have uncoerced (cause : CoercionError) : ¬ ∃ key, affected = 1 ∧ found = some key ∧
      key.isNull = false ∧ key.coerce identity.kind = .error cause := by
    rintro ⟨other, single, told, solid, uncoerced⟩
    rw [identityOf_eq_some_iff.mpr ⟨single, told, solid⟩] at keyed
    rw [Option.some.inj keyed, coerced] at uncoerced
    contradiction
  constructor
  case assigns =>
      intro other keys
      rcases (only other).mp keys with rfl
      exact ⟨rfl, rfl⟩
  case spares => exact fun none => absurd ⟨stored, (only stored).mpr rfl⟩ none
  case keyed =>
      simp only [only, exists_eq_left]
      cases (Record.assign entity identity.member stored).1 <;> simp [Except.map, Except.mapError]
  case keyless =>
      rw [← identityOf_eq_none_iff, keyed]
      refine iff_of_false ?_ nofun
      cases (Record.assign entity identity.member stored).1 <;> simp [Except.map, Except.mapError]
  case refused =>
      intro error
      simp only [only, exists_eq_left, uncoerced, false_or]
      cases (Record.assign entity identity.member stored).1 <;>
        simp [Except.map, Except.mapError, eq_comm]

theorem storeIdentity_goes [Record E] (identity : Column) (table : String) (affected : UInt64)
    (found : Option Value) (database : (call : Call) → σ → call.Answer × σ) (store : σ)
    (entity : E) :
    ∃ assigned result kept,
      (storeIdentity identity table affected found).run.Goes (Record.answer database)
        (store, entity) assigned result (store, kept) ∧
      Concludes identity entity affected found assigned result kept := by
  unfold storeIdentity
  cases keyed : identityOf affected found with
  | none =>
      refine ⟨_, _, _, ?_, concludes_of_keyless keyed⟩
      exact ⟨rfl, rfl, rfl⟩
  | some key =>
      dsimp only
      cases coerced : key.coerce identity.kind with
      | error cause =>
          exact ⟨_, _, _, Exchange.goes_done _ _ _, concludes_of_uncoerced keyed coerced⟩
      | ok stored =>
          refine ⟨_, _, _, ?_, concludes_of_stored keyed coerced⟩
          rcases assigned : Record.assign entity identity.member stored with ⟨cause | _, kept⟩
          · exact Attempt.goes_ask_bind_error (Record.answer_assign assigned) _
          · exact Attempt.goes_ask_bind_ok (Record.answer_assign assigned)
              (Exchange.goes_done _ _ _)

/-! ## Plans and answers -/

def insertPlan (settings : Settings) (sql : String) (bindings : Bindings) : List Call :=
  [.connect, .execute .connection sql bindings,
   .scalar .connection settings.identityQuery (.empty settings.sigil)]

def insertReplies (settings : Settings) (sql : String) (bindings : Bindings)
    (affected : UInt64) (found : Option Value) : List Reply :=
  [⟨.connect, .ok ()⟩, ⟨.execute .connection sql bindings, .ok affected⟩,
   ⟨.scalar .connection settings.identityQuery (.empty settings.sigil), .ok found⟩]

/-- How an insert that asks for a key went: one of its calls to the database failed, and the
entity is as it was, or all calls succeeded, and what they yielded decides the rest. -/
inductive Went [Record E] (settings : Settings) (sql : String) (bindings : Bindings)
    (identity : Column) (entity : E) :
    List Reply → Except SessionError Bool → E → Prop
  | stopped (before : List Reply) (call : Call) (cause : call.Failure)
      (planned : before.map Reply.call ++ [call] <+: insertPlan settings sql bindings) :
      Went settings sql bindings identity entity (before ++ [⟨call, .error cause⟩])
        (.error (call.error cause)) entity
  | finished (affected : UInt64) (found : Option Value)
      (concludes : Concludes identity entity affected found assigned result kept) :
      Went settings sql bindings identity entity
        (insertReplies settings sql bindings affected found ++ assigned) result kept

theorem insertWithIdentity_goes [Record E] (settings : Settings) (draft : Draft) (sql : String)
    (identity : Column) (database : (call : Call) → σ → call.Answer × σ) (store : σ)
    (entity : E) :
    ∃ replies result left kept,
      (insertWithIdentity settings draft sql identity).run.Goes (Record.answer database)
        (store, entity) replies result (left, kept) ∧
      Went settings sql draft.bindings identity entity replies result kept := by
  rcases opened : database .connect store with ⟨cause | ⟨⟨⟩⟩, first⟩
  · refine ⟨_, _, first, entity, ?_, .stopped [] .connect cause ?_⟩
    · exact Attempt.goes_ask_bind_error (Record.answer_database opened nofun) _
    · simp [insertPlan]
  rcases written : database (.execute .connection sql draft.bindings) first with
    ⟨cause | affected, second⟩
  · refine ⟨_, _, second, entity, ?_, .stopped [⟨.connect, .ok ()⟩] _ cause ?_⟩
    · refine Attempt.goes_ask_bind_ok (Record.answer_database opened nofun) ?_
      exact Attempt.goes_ask_bind_error (Record.answer_database written nofun) _
    · simp [insertPlan]
  rcases told : database (.scalar .connection settings.identityQuery (.empty settings.sigil))
      second with ⟨cause | found, third⟩
  · refine ⟨_, _, third, entity, ?_, .stopped
      [⟨.connect, .ok ()⟩, ⟨.execute .connection sql draft.bindings, .ok affected⟩] _ cause ?_⟩
    · refine Attempt.goes_ask_bind_ok (Record.answer_database opened nofun) ?_
      refine Attempt.goes_ask_bind_ok (Record.answer_database written nofun) ?_
      exact Attempt.goes_ask_bind_error (Record.answer_database told nofun) _
    · simp [insertPlan]
  rcases storeIdentity_goes identity draft.table affected found database third entity with
    ⟨assigned, result, kept, goes, concludes⟩
  refine ⟨_, result, third, kept, ?_, .finished affected found concludes⟩
  refine Attempt.goes_ask_bind_ok (Record.answer_database opened nofun) ?_
  refine Attempt.goes_ask_bind_ok (Record.answer_database written nofun) ?_
  exact Attempt.goes_ask_bind_ok (Record.answer_database told nofun) goes

section

variable [Record E] {chain : Chain E} {draft : Draft} {sql : String}
  {answer : (call : Call) → σ → call.Answer × σ} {state left : σ} {replies : List Reply}
  {result : Except SessionError Bool}

def insertSettled (chain : Chain E) (draft : Draft) (sql : String) : Attempt Bool :=
  match draft.schema.identity? with
  | some identity => insertWithIdentity chain.settings draft sql identity
  | none => do
      let affected ← Attempt.execute .shared sql draft.bindings
      return 0 < affected

theorem run_insert (compiled : (chain.link (.insertRow (Record.values entity))).outcome = .ok draft)
    (settled : draft.sql = .ok sql) :
    (chain.insert entity).run =
      (Exchange.notifyAll (chain.link (.insertRow (Record.values entity))).pending).bind fun _ =>
        (Exchange.notifyAll draft.sqlNotices).bind fun _ =>
          (chain.insertSettled draft sql).run := by
  have checked := (chain.link (.insertRow (Record.values entity))).settles_checked
  rw [compiled] at checked
  unfold insert
  rw [checked.bind_ok, (settles_textOf_of_ok settled).bind_ok]
  rfl

theorem goes_insert
    (compiled : (chain.link (.insertRow (Record.values entity))).outcome = .ok draft)
    (settled : draft.sql = .ok sql)
    (goes : (chain.insertSettled draft sql).run.Goes answer state replies result left) :
    (chain.insert entity).run.Goes answer state replies result left := by
  rw [run_insert compiled settled]
  exact goes.notifyAll_bind.notifyAll_bind

theorem replies_insert
    (compiled : (chain.link (.insertRow (Record.values entity))).outcome = .ok draft)
    (settled : draft.sql = .ok sql) :
    (chain.insert entity).run.replies answer state =
      (chain.insertSettled draft sql).run.replies answer state := by
  rw [run_insert compiled settled, Exchange.replies_notifyAll_bind,
    Exchange.replies_notifyAll_bind]

end

theorem Went.concludes [Record E] {settings : Settings} {sql : String} {bindings : Bindings}
    {replies assigned : List Reply} {result : Except SessionError Bool} {kept : E}
    (went : Went settings sql bindings identity entity replies result kept)
    (complete : replies = insertReplies settings sql bindings affected found ++ assigned) :
    Concludes identity entity affected found assigned result kept := by
  cases went with
  | stopped before call cause planned =>
      have short := planned.length_le
      have long := congrArg List.length complete
      simp only [insertPlan, insertReplies, List.length_append, List.length_map,
        List.length_cons, List.length_nil] at short long
      rcases List.eq_nil_of_length_eq_zero (show assigned.length = 0 by omega) with rfl
      have last := congrArg List.getLast? complete
      simp only [insertReplies, List.append_nil, List.getLast?_concat, List.getLast?_cons_cons,
        List.getLast?_singleton, Option.some.injEq, Reply.mk.injEq] at last
      rcases last with ⟨rfl, different⟩
      cases eq_of_heq different
  | finished affected' found' concludes =>
      simp only [insertReplies, List.cons_append, List.nil_append, List.cons.injEq,
        Reply.mk.injEq, heq_eq_eq, true_and] at complete
      rcases complete with ⟨written, told, rfl⟩
      cases written
      cases told
      exact concludes

theorem Went.spares [Record E] {settings : Settings} {sql : String} {bindings : Bindings}
    {replies : List Reply} {result : Except SessionError Bool} {kept : E}
    (went : Went settings sql bindings identity entity replies result kept) {call : Call}
    {cause : call.Failure} (planned : call ∈ insertPlan settings sql bindings)
    (failed : ⟨call, .error cause⟩ ∈ replies) : kept = entity := by
  cases went with
  | stopped before call cause planned => rfl
  | finished affected found concludes =>
      by_cases some : ∃ stored, Keys identity affected found stored
      · rcases some with ⟨stored, keys⟩
        rw [(concludes.assigns stored keys).1] at failed
        simp only [insertPlan, List.mem_cons, List.not_mem_nil, or_false] at planned
        rcases planned with rfl | rfl | rfl <;> simp [insertReplies] at failed <;> cases failed
      · exact (concludes.spares some).2

/-- An insert on an entity with an identity column connects, writes on the connection and asks
there for the key that the database made. The first call that fails ends it, with the error of
that call, and a call to the database that fails leaves the entity as it was. If none fails, the
rows written and the key found decide what it comes to. The entity is assigned nothing but the
key in the form that the identity column stores, once, and only if one row was written and the
key has such a form. Without an identity column an insert is one call. -/
theorem insert_goes_by_plan [Record E] {chain : Chain E} {entity : E} {draft : Draft}
    {sql : String}
    (compiled : (chain.link (.insertRow (Record.values entity))).outcome = .ok draft)
    (settled : draft.sql = .ok sql) (database : (call : Call) → σ → call.Answer × σ)
    (store : σ) :
    let answer := Record.answer database
    let replies := (chain.insert entity).run.replies answer (store, entity)
    let transcript := (chain.insert entity).run.run answer (store, entity)
    (∀ identity, draft.schema.identity? = some identity →
      (∀ before call cause after, replies = before ++ ⟨call, .error cause⟩ :: after →
        after = [] ∧ transcript.result = .error (call.error cause)) ∧
      Went chain.settings sql draft.bindings identity entity replies transcript.result
        transcript.state.2) ∧
    (draft.schema.identity? = none →
      let call := Call.execute .shared sql draft.bindings
      let reply : Except DatabaseError UInt64 := (database call store).1
      replies = [⟨call, reply⟩] ∧
      transcript.result = (reply.map fun affected => decide (0 < affected)).mapError .database ∧
      transcript.state.2 = entity) := by
  intro answer replies transcript
  constructor
  · intro identity known
    refine ⟨fun before call cause after failed => (chain.stops_insert entity).of_failure failed,
      ?_⟩
    rcases insertWithIdentity_goes chain.settings draft sql identity database store entity with
      ⟨replies', result, left, kept, goes, went⟩
    have inserts : (chain.insert entity).run.Goes answer (store, entity) replies' result
        (left, kept) := by
      apply goes_insert compiled settled
      rw [insertSettled, known]
      exact goes
    have same : replies = replies' ∧ transcript.result = result ∧ transcript.state = (left, kept) :=
      ⟨inserts.replies, inserts.result, inserts.state⟩
    rw [same.1, same.2.1, same.2.2]
    exact went
  · intro unknown call reply
    have writes : (Attempt.execute .shared sql draft.bindings >>= fun affected =>
        return decide (0 < affected) : Attempt Bool).run.Goes answer (store, entity)
        [⟨call, reply⟩] ((reply.map fun affected => decide (0 < affected)).mapError .database)
        ((database call store).2, entity) := by
      rcases replied : database call store with ⟨cause | affected, left⟩
      · have failed : reply = .error cause := congrArg Prod.fst replied
        rw [failed]
        exact Attempt.goes_ask_bind_error (Record.answer_database replied nofun) _
      · have succeeded : reply = .ok affected := congrArg Prod.fst replied
        rw [succeeded]
        exact Attempt.goes_ask_bind_ok (Record.answer_database replied nofun)
          (Exchange.goes_done _ _ _)
    have inserts : (chain.insert entity).run.Goes answer (store, entity) [⟨call, reply⟩]
        ((reply.map fun affected => decide (0 < affected)).mapError .database)
        ((database call store).2, entity) := by
      apply goes_insert compiled settled
      rw [insertSettled, unknown]
      exact writes
    exact ⟨inserts.replies, inserts.result, congrArg Prod.snd inserts.state⟩

def ann : Ending.Guest := ⟨[("Name", .text "Ann"), ("Age", .int 34)]⟩

def obliging : Script := { written := [.ok 1], scalars := [.ok (some (.int 7))] }

def locked : Script := { written := [.error { message := "table is locked" }] }

theorem insert_goes_by_plan_guests :
    let transcript (script : Script) := ((Chain.of guests .default).insert ann).run.run
      (Record.answer Script.answer) (script, ann)
    ∃ draft sql,
      ((Chain.of (E := Ending.Guest) guests .default).link (.insertRow ann.values)).outcome =
        .ok draft ∧
      draft.sql = .ok sql ∧ draft.schema.identity? = some guests.columns[0] ∧
      (transcript obliging).result = .ok true ∧
      (transcript obliging).state.2 = ⟨ann.values ++ [("Id", .int 7)]⟩ ∧
      (transcript locked).result = .error (.database { message := "table is locked" }) ∧
      (transcript locked).state.2 = ann := by
  intro transcript
  obtain ⟨draft, sql, compiled, settled, known⟩ : ∃ draft sql,
      ((Chain.of (E := Ending.Guest) guests .default).link
        (.insertRow (Record.values ann))).outcome = .ok draft ∧
      draft.sql = .ok sql ∧ draft.schema.identity? = some guests.columns[0] :=
    ⟨_, _, rfl, rfl, rfl⟩
  have obliged := (insert_goes_by_plan compiled settled Script.answer obliging).1 _ known
  have refused := (insert_goes_by_plan compiled settled Script.answer locked).1 _ known
  have keys : Keys guests.columns[0] 1 (some (.int 7)) (.int 7) := ⟨.int 7, rfl, rfl, rfl, rfl⟩
  have written : ((Chain.of guests .default).insert ann).run.replies
      (Record.answer Script.answer) (obliging, ann) =
        insertReplies .default sql draft.bindings 1 (some (.int 7)) ++
          [⟨.assign "Id" (.int 7), .ok ()⟩] := by
    rw [replies_insert compiled settled, insertSettled, known]
    rfl
  have stopped : ((Chain.of guests .default).insert ann).run.replies
      (Record.answer Script.answer) (locked, ann) =
        [⟨.connect, .ok ()⟩] ++ ⟨.execute .connection sql draft.bindings,
          .error { message := "table is locked" }⟩ :: [] := by
    rw [replies_insert compiled settled, insertSettled, known]
    rfl
  have concludes := obliged.2.concludes written
  refine ⟨draft, sql, compiled, settled, known, ?_, ?_, ?_, ?_⟩
  · exact concludes.keyed.mpr ⟨_, keys, rfl⟩
  · exact (concludes.assigns _ keys).2
  · exact (refused.1 _ _ _ _ stopped).2
  · refine refused.2.spares ?_ (stopped ▸ List.mem_append_right _ (List.mem_cons_self ..))
    exact List.mem_cons_of_mem _ (List.mem_cons_self ..)

end Chain
end BoundSql.Session
