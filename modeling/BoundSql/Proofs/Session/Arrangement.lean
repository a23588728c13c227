import BoundSql.Proofs.Draft.Arrangement
import BoundSql.Proofs.Session.Restriction
import BoundSql.Proofs.Value.Coercion

/-!
What order and window are to a count, a maximum or a total. A chain without its arranging links
comes to the same draft, order and window aside. A count sends the same text either way; the
other two send order and window along, so a window that starts behind the first row leaves them
with nothing.
-/

namespace BoundSql

namespace Session

open Entity Sql

variable {E : Type}

/-! ## Chains -/

namespace Chain

def unarranged (chain : Chain E) : Chain E := { chain with draft := chain.draft.unarranged }

variable {chain : Chain E} {step : Draft.Step}

theorem schema_link (chain : Chain E) (step : Draft.Step) :
    (chain.link step).draft.schema = chain.draft.schema := by
  unfold link
  cases chain.error with
  | some error => rfl
  | none =>
      rcases applied : chain.draft.apply step with ⟨error | next, notices⟩
      · rfl
      · exact (Draft.takes_of_apply (congrArg Prod.fst applied)).grows.1

theorem unarranged_link_of_arranges (arranges : step.arranges = true)
    (sound : step.Sound chain.draft.schema) : (chain.link step).unarranged = chain.unarranged := by
  rcases chain with ⟨settings, draft, - | error, pending⟩
  case some => rfl
  case none =>
      rcases Draft.apply_of_arranges arranges sound with ⟨next, applied, same⟩
      simp only [link, applied, unarranged, same, List.append_nil]

theorem unarranged_link (plain : step.arranges = false) :
    (chain.link step).unarranged = chain.unarranged.link step := by
  rcases chain with ⟨settings, draft, - | error, pending⟩
  case some => rfl
  case none =>
      simp only [link, unarranged, Draft.apply_unarranged plain]
      rcases draft.apply step with ⟨error | next, notices⟩ <;> rfl

theorem unarranged_foldl_link (chain : Chain E) (steps : List Draft.Step)
    (sound : ∀ step ∈ steps, step.arranges = true → step.Sound chain.draft.schema) :
    (steps.foldl link chain).unarranged =
      (steps.filter (!·.arranges)).foldl link chain.unarranged := by
  induction steps generalizing chain with
  | nil => rfl
  | cons step steps induction =>
      rw [List.forall_mem_cons] at sound
      have rest := induction (chain.link step) (by
        rw [schema_link]
        exact sound.2)
      rw [List.foldl_cons, rest]
      cases arranges : step.arranges with
      | true =>
          rw [unarranged_link_of_arranges arranges (sound.1 arranges)]
          rw [List.filter_cons_of_neg (by simp [arranges])]
      | false =>
          rw [unarranged_link arranges, List.filter_cons_of_pos (by simp [arranges])]
          rfl

end Chain

/-! ## Links -/

namespace Link

def arranges : Link E → Bool
  | .orderBy _ | .orderByDescending _ | .top _ | .range _ _ => true
  | _ => false

/-- Whether an arranging link is as it should be: it orders by a declared member, or its window
has rows and an offset that fits. -/
def Sound (schema : Schema) : Link E → Prop
  | .orderBy field | .orderByDescending field => (schema.column? field.name).isSome
  | .top size => size ≠ 0
  | .range page size =>
      page ≠ 0 ∧ size ≠ 0 ∧ (page.toNat - 1) * size.toNat < UInt64.size
  | _ => True

theorem sound_steps {schema : Schema} {link : Link E}
    (sound : link.arranges = true → link.Sound schema) :
    ∀ step ∈ link.steps, step.arranges = true → step.Sound schema := by
  cases link with
  | orderBy field | orderByDescending field =>
      rcases Option.isSome_iff_exists.mp (sound rfl) with ⟨column, declared⟩
      simp only [steps, List.mem_singleton]
      rintro _ rfl -
      exact ⟨field.name, column, rfl, declared⟩
  | top size =>
      simp only [steps, List.mem_singleton]
      rintro _ rfl -
      exact sound rfl
  | range page size =>
      simp only [steps, List.mem_singleton]
      rintro _ rfl -
      exact sound rfl
  | find criterion =>
      simp only [steps, List.mem_cons, List.not_mem_nil, or_false]
      rintro _ (rfl | rfl) arranges
      · contradiction
      · exact (by decide : (1 : UInt64) ≠ 0)
  | _ =>
      simp only [steps, List.mem_singleton]
      rintro _ rfl arranges
      contradiction

theorem filter_steps (links : List (Link E)) :
    (links.flatMap steps).filter (!·.arranges) =
      ((links.filter (!·.arranges)).flatMap steps).filter (!·.arranges) := by
  induction links with
  | nil => rfl
  | cons link links induction =>
      rw [List.flatMap_cons, List.filter_append, induction]
      cases arranges : link.arranges with
      | true =>
          rw [List.filter_cons_of_neg (by simp [arranges])]
          have none : link.steps.filter (!·.arranges) = [] := by
            cases link <;> first | rfl | contradiction
          rw [none, List.nil_append]
      | false =>
          rw [List.filter_cons_of_pos (by simp [arranges]), List.flatMap_cons, List.filter_append]

theorem unarranged_eq_of_filter_eq (schema : Schema) (settings : Settings)
    {links links' : List (Link E)}
    (same : links.filter (!·.arranges) = links'.filter (!·.arranges))
    (sound : ∀ link ∈ links ++ links', link.arranges = true → link.Sound schema) :
    (links.foldl add (.of schema settings)).unarranged =
      (links'.foldl add (.of schema settings)).unarranged := by
  have reduced (links : List (Link E))
      (sound : ∀ link ∈ links, link.arranges = true → link.Sound schema) :
      (links.foldl add (.of schema settings)).unarranged =
        (((links.filter (!·.arranges)).flatMap steps).filter (!·.arranges)).foldl Chain.link
          (Chain.of schema settings).unarranged := by
    rw [Chain.foldl_add, Chain.unarranged_foldl_link, filter_steps]
    intro step member
    rcases List.mem_flatMap.mp member with ⟨link, among, inside⟩
    exact sound_steps (sound link among) step inside
  rw [List.forall_mem_append] at sound
  rw [reduced links sound.1, reduced links' sound.2, same]

end Link

/-! ## Counts, maxima and totals -/

namespace Chain

variable {chain chain' : Chain E} {function : Aggregate} {field : Field E V} {draft : Draft}

theorem run_count_unarranged (chain : Chain E) :
    chain.unarranged.count.run = chain.count.run := by
  rcases chain with ⟨settings, draft, - | error, pending⟩
  case some => rfl
  case none =>
      have checked : (⟨settings, draft, none, pending⟩ : Chain E).checked.Settles pending
        (.ok draft) := settles_checked _
      have checked' : (⟨settings, draft, none, pending⟩ : Chain E).unarranged.checked.Settles
        pending (.ok draft.unarranged) := settles_checked _
      unfold count
      rw [checked.bind_ok, checked'.bind_ok]
      rfl

def condensing (chain : Chain E) (function : Aggregate) (field : Field E V) : Chain E :=
  (chain.link (.aggregate function field.expr)).link (.setKind .select)

theorem outcome_of_no_error (clean : chain.error = none) : chain.outcome = .ok chain.draft := by
  unfold outcome
  rw [clean]

theorem outcome_condensing (function : Aggregate) {field : Field E V} {column : Column}
    (clean : chain.error = none)
    (declared : chain.draft.schema.column? field.name = some column) :
    (chain.condensing function field).outcome =
      .ok (chain.draft.condensed function column.name) := by
  have compiled : Selection.compileAggregate chain.draft.schema function field.expr =
      .ok (.aggregate function column.name) :=
    except_bind_eq_ok.mpr ⟨column, columnOf_eq_ok_iff.mpr declared, rfl⟩
  unfold condensing
  rw [outcome_link, outcome_link, outcome_of_no_error clean]
  change ((Selection.compileAggregate chain.draft.schema function field.expr).map _ >>= _) = _
  rw [compiled]
  rfl

end Chain

/-! ## Replies -/

section

variable {chain : Chain E} {draft : Draft} {sql : String} {found : Option Value}
  {answer : (call : Call) → σ → call.Answer × σ} {database : σ}

theorem Chain.result_count (clean : (chain.link (.setKind .count)).outcome = .ok draft)
    (settled : draft.sql = .ok sql)
    (replied : (answer (.scalar .shared sql draft.bindings) database).1 = .ok found) :
    (chain.count.run.run answer database).result = (countOf found).mapError .scalar := by
  rcases outcome_link_setKind clean with ⟨before, outcome, rfl⟩
  unfold count
  rw [result_checked outcome, result_textOf settled]
  exact Attempt.result_ask_orFail replied

theorem Chain.result_aggregate {function : Aggregate} {field : Field E V} {host : HostType}
    (clean : (chain.condensing function field).outcome = .ok draft)
    (settled : draft.sql = .ok sql)
    (replied : (answer (.scalar .shared sql draft.bindings) database).1 = .ok found) :
    ((chain.aggregate function field host).run.run answer database).result =
      (host.convertOptional (found.getD .null)).mapError .scalar := by
  rcases outcome_link_setKind clean with ⟨before, outcome, rfl⟩
  unfold aggregate
  rw [result_checked outcome, result_textOf settled]
  exact Attempt.result_ask_orFail replied

end

theorem countOf_ofNat {number : Nat} (fits : number < 2 ^ 63) :
    Chain.countOf (some (.int (.ofNat number))) = .ok (UInt64.ofNat number) := by
  have whole : (Int64.ofNat number).toInt = number := Int64.toInt_ofNat_of_lt fits
  have convert : HostType.convert (.integer true 64) (.int (.ofNat number)) =
      .ok (.int (.ofNat number)) := by
    have above : HostType.low true 64 ≤ (number : Int) := by
      simp only [HostType.low]
      omega
    have below : (number : Int) < HostType.bound true 64 := by
      simp only [HostType.bound]
      exact_mod_cast fits
    have admitted : (HostType.integer true 64).admits (.int (.ofNat number)) = true := by
      simp [HostType.admits, whole, above, below]
    exact if_pos admitted
  simp only [Chain.countOf, convert]
  exact congrArg (fun n : Int => Except.ok (UInt64.ofNat n.toNat)) whole

theorem mapError_eq_ok {given : Except ε α} {wrap : ε → ε'} {result : α} :
    given.mapError wrap = .ok result ↔ given = .ok result := by
  cases given <;> simp [Except.mapError]

/-! ## What is found -/

/-- An exchange that asks a database for one value of the rows that the criteria leave, in one
call. What it comes to is related to these rows, if the database answers from a table. -/
def FindsIn (schema : Schema) (sigil : String) (criteria : List Expr)
    (exchange : Exchange (Except SessionError α))
    (comes : List Cells → Except SessionError α → Prop) : Prop :=
  ∀ {σ : Type} (answer : (call : Call) → σ → call.Answer × σ) (database : σ),
    ∃ statement bindings,
      let call := Call.scalar .shared statement.render bindings
      let reply : Except DatabaseError (Option Value) := (answer call database).1
      (exchange.run answer database).calls = [call] ∧
      RestrictedBy schema sigil bindings criteria statement ∧
      ∀ engine table,
        reply = .ok (statement.values engine bindings.valueOf table).head? →
          comes (table.filter (statement.takes bindings.valueOf))
            (exchange.run answer database).result

/-- Two attempts that ask for one value each, with the same bindings and with texts that differ
in how they end only. -/
def SendsAlike (attempt attempt' : Attempt α) (tail tail' : String) : Prop :=
  ∃ base bindings, attempt.run.Sends (.scalar .shared (base ++ tail) bindings) ∧
    attempt'.run.Sends (.scalar .shared (base ++ tail') bindings)

theorem sendsAlike_aggregate {chain chain' : Chain E}
    (same : chain.unarranged = chain'.unarranged) (clean : chain.error = none)
    (function : Aggregate) {field : Field E V} {column : Column}
    (declared : chain.draft.schema.column? field.name = some column) (host : HostType) :
    SendsAlike (chain.aggregate function field host) (chain'.aggregate function field host)
      chain.draft.arrangement chain'.draft.arrangement := by
  have sameError : chain.error = chain'.error := congrArg (·.error) same
  have sameSchema : chain.draft.schema = chain'.draft.schema := congrArg (·.draft.schema) same
  have sameTable : chain.draft.table = chain'.draft.table := congrArg (·.draft.table) same
  have sameConditions : chain.draft.conditions = chain'.draft.conditions :=
    congrArg (·.draft.conditions) same
  have sameBindings : chain.draft.bindings = chain'.draft.bindings :=
    congrArg (·.draft.bindings) same
  let base (draft : Draft) : String :=
    (Statement.select (.aggregate function column.name) draft.table draft.conditions [] none).render
  have sends {chain : Chain E} (clean : chain.error = none)
      (declared : chain.draft.schema.column? field.name = some column) :
      (chain.aggregate function field host).run.Sends
        (.scalar .shared (base chain.draft ++ chain.draft.arrangement)
          (chain.draft.condensed function column.name).bindings) :=
    Ending.sends_aggregate (Chain.outcome_condensing function clean declared) Draft.sql_condensed
  have sameBase : base chain.draft = base chain'.draft := by
    simp only [base, sameTable, sameConditions]
  refine ⟨base chain.draft, chain.draft.bindings, sends clean declared, ?_⟩
  rw [sameBase, sameBindings]
  exact sends (sameError ▸ clean) (sameSchema ▸ declared)

section

variable [Record E] {schema : Schema} {settings : Settings} {links : List (Link E)}
  {chain : Chain E} (chained : links.foldl Link.add (.of schema settings) = chain)

include chained

theorem restrictedBy_of_links (steps : List Draft.Step) {draft : Draft} {statement : Statement}
    (clean : (steps.foldl Chain.link chain).outcome = .ok draft)
    (built : draft.statement = .ok statement) (notInsert : draft.kind ≠ .insert)
    (plain : steps.flatMap Draft.Step.filters = []) :
    RestrictedBy schema settings.sigil draft.bindings (links.flatMap Link.criteria) statement := by
  rw [← chained, outcome_of_links] at clean
  have restricted := restrictedBy_of_applyAll clean built notInsert
  rw [List.flatMap_append, filters_links, plain, List.append_nil] at restricted
  exact restricted

section

omit [Record E]

theorem applyAll_of_links (clean : chain.error = none) :
    ((Draft.empty schema settings).applyAll (links.flatMap Link.steps)).1 = .ok chain.draft := by
  rw [← Chain.outcome_of_no_error clean, ← chained, Chain.foldl_add, Chain.outcome_foldl_link]
  rfl

theorem schema_of_links (clean : chain.error = none) : chain.draft.schema = schema :=
  (Draft.standFor_of_applyAll (applyAll_of_links chained clean)).1

theorem opens_of_links (clean : chain.error = none) : Paging.Opens chain.draft.paging :=
  Draft.opens_of_applyAll (applyAll_of_links chained clean) trivial

end

theorem findsIn_count (clean : chain.error = none) :
    FindsIn schema settings.sigil (links.flatMap Link.criteria) chain.count.run
      fun taken result => taken.length < 2 ^ 63 → result = .ok (UInt64.ofNat taken.length) := by
  intro σ answer database
  have counting : (chain.link (.setKind .count)).outcome =
      .ok { chain.draft with kind := .count } := by
    rw [Chain.outcome_link, Chain.outcome_of_no_error clean]
    rfl
  have restricts : (Ending.count : Ending E UInt64).Restricts := trivial
  have restricted := restrictedBy_of_links chained [.setKind .count] counting rfl nofun rfl
  refine ⟨_, chain.draft.bindings, ?_, restricted, ?_⟩
  · exact (Ending.run_sends restricts counting rfl).calls answer database
  · intro engine table replied fits
    rw [Chain.result_count counting rfl replied]
    exact congrArg (Except.mapError SessionError.scalar) (countOf_ofNat fits)

theorem findsIn_aggregate (clean : chain.error = none) (function : Aggregate)
    (single : function ≠ .distinct) {field : Field E V} {column : Column}
    (declared : schema.column? field.name = some column) (host : HostType) :
    FindsIn schema settings.sigil (links.flatMap Link.criteria)
      (chain.aggregate function field host).run
      fun taken result => result = .ok .null ↔
        Paging.start chain.draft.paging ≠ 0 ∨ ∀ row ∈ taken, row column.name = .null := by
  intro σ answer database
  rw [← schema_of_links chained clean] at declared
  have condensing := Chain.outcome_condensing function clean declared
  have restricted := restrictedBy_of_links chained
    [.aggregate function field.expr, .setKind .select] condensing Draft.statement_condensed nofun
    rfl
  refine ⟨_, chain.draft.bindings, ?_, restricted, ?_⟩
  · exact (Ending.sends_aggregate condensing rfl).calls answer database
  · intro engine table replied
    rw [Chain.result_aggregate condensing rfl replied]
    refine mapError_eq_ok.trans (HostType.convertOptional_eq_ok_null_iff.trans ?_)
    exact Statement.values_aggregate_null_iff single (opens_of_links chained clean) engine _ table

end

/-- Order and window are nothing to a count, which is the number of rows that the criteria leave.
A maximum or a total sends them behind its text, so it is null if the window starts behind the
first row, and else just where the rows have no value. -/
theorem arrangement_reaches_aggregates [Record E] (schema : Schema) (settings : Settings)
    (links links' : List (Link E))
    (same : links.filter (!·.arranges) = links'.filter (!·.arranges))
    (sound : ∀ link ∈ links ++ links', link.arranges = true → link.Sound schema) :
    let chain := links.foldl Link.add (.of schema settings)
    let chain' := links'.foldl Link.add (.of schema settings)
    let criteria := links.flatMap Link.criteria
    (Ending.count.run chain).run = (Ending.count.run chain').run ∧
    chain.error = chain'.error ∧
    (chain.error = none →
      FindsIn schema settings.sigil criteria (Ending.count.run chain).run (fun taken result =>
        taken.length < 2 ^ 63 → result = .ok (UInt64.ofNat taken.length)) ∧
      ∀ {V : Type} (field : Field E V) (host : HostType) (column : Column),
        schema.column? field.name = some column →
        ∀ ending ∈ [Ending.max field host, Ending.sum field host],
          SendsAlike (ending.run chain) (ending.run chain')
            chain.draft.arrangement chain'.draft.arrangement ∧
          FindsIn schema settings.sigil criteria (ending.run chain).run (fun taken result =>
            result = .ok .null ↔
              Paging.start chain.draft.paging ≠ 0 ∨ ∀ row ∈ taken, row column.name = .null)) := by
  intro chain chain' criteria
  have alike : chain.unarranged = chain'.unarranged :=
    Link.unarranged_eq_of_filter_eq schema settings same sound
  refine ⟨?counts, congrArg (·.error) alike, fun clean => ⟨findsIn_count rfl clean, ?condenses⟩⟩
  case counts =>
      change chain.count.run = chain'.count.run
      rw [← Chain.run_count_unarranged, alike, Chain.run_count_unarranged]
  case condenses =>
      intro V field host column declared ending member
      have declared' : chain.draft.schema.column? field.name = some column :=
        (schema_of_links rfl clean).symm ▸ declared
      simp only [List.mem_cons, List.not_mem_nil, or_false] at member
      rcases member with rfl | rfl
      · exact ⟨sendsAlike_aggregate alike clean .max declared' host,
          findsIn_aggregate rfl clean .max (by decide) declared host⟩
      · exact ⟨sendsAlike_aggregate alike clean .sum declared' host,
          findsIn_aggregate rfl clean .sum (by decide) declared host⟩

def ageOfGuests : Field Ending.Guest Int64 := ⟨"Age"⟩

theorem arrangement_reaches_aggregates_guests :
    let chain := (Chain.of guests .default).filter Ending.adultGuests
    let chain' := (((Chain.of guests .default).range 2 1).filter Ending.adultGuests).orderBy
      (V := String) ⟨"Name"⟩
    chain.count.run = chain'.count.run ∧
      SendsAlike (chain.max ageOfGuests (.integer true 64))
        (chain'.max ageOfGuests (.integer true 64)) "" " ORDER BY \x60name\x60 ASC LIMIT 1,1" := by
  have reaches := arrangement_reaches_aggregates guests .default
    [.filter Ending.adultGuests]
    [.range 2 1, .filter Ending.adultGuests, .orderBy (V := String) ⟨"Name"⟩] rfl
    (by
      simp only [List.cons_append, List.nil_append, List.forall_mem_cons]
      refine ⟨nofun, ?_, nofun, ?_, nofun⟩
      · exact fun _ => ⟨by decide, by decide, by decide⟩
      · exact fun _ => rfl)
  have clean := reaches.2.2 rfl
  exact ⟨reaches.1, (clean.2 ageOfGuests (.integer true 64) guests.columns[2] rfl _ (.head _)).1⟩

/-- A maximum over the second page of one row each sends the window, and so has nothing to find
where there are guests. -/
theorem max_reads_behind_window :
    let attempt (chain : Chain Ending.Guest) :=
      ((Ending.max ageOfGuests (.integer true 64)).run chain).run.run Script.answer {}
    let windowed := Statement.select (.aggregate .max "age") "guests" [] [] (some (.page 1 1))
    (attempt (.of guests .default)).calls =
        [.scalar .shared "SELECT MAX(\x60age\x60) FROM \x60guests\x60" (.empty "@")] ∧
      (attempt ((Chain.of guests .default).range 2 1)).calls =
        [.scalar .shared "SELECT MAX(\x60age\x60) FROM \x60guests\x60 LIMIT 1,1" (.empty "@")] ∧
      windowed.render = "SELECT MAX(\x60age\x60) FROM \x60guests\x60 LIMIT 1,1" ∧
      ∀ engine bound row,
        windowed.takes bound row = true ∧ windowed.values engine bound [row] = [] := by
  refine ⟨?_, ?_, ?_, fun engine bound row => ⟨?_, ?_⟩⟩ <;> rfl

end Session

end BoundSql
