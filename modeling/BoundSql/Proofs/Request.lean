import BoundSql.Proofs.Condition.Truth
import BoundSql.Proofs.Draft.Filters
import BoundSql.Proofs.Draft.Numbering
import BoundSql.Sql.Request

/-!
The placeholders of requests. A request binds what it writes, then what its filters capture,
which is the order in which its statement shows them. An insert shows no filters, so what they
capture stays bound without a placeholder in the text.
-/

def BoundSql.Expr.capturesNothing : Expr → Bool
  | .unary _ operand => capturesNothing operand
  | .binary .and left right => capturesNothing left && capturesNothing right
  | .binary .or left right => capturesNothing left && capturesNothing right
  | .call target .contains _ =>
      match target.constant? with
      | some (.list []) => true
      | _ => false
  | .constant (.bool _) => true
  | _ => false

namespace BoundSql.Sql

open Entity Compiler

/-! ## Placeholders of a statement -/

theorem Condition.placeholders_conjunction (first : Condition) (rest : List Condition) :
    (conjunction first rest).placeholders = (first :: rest).flatMap placeholders := by
  induction rest generalizing first with
  | nil => simp [conjunction]
  | cons next rest induction =>
      rw [conjunction, placeholders, induction]
      rfl

namespace Statement

def placeholders : Statement → List String
  | .select _ _ conditions _ _ => conditions.flatMap Condition.placeholders
  | .count _ conditions => conditions.flatMap Condition.placeholders
  | .insert _ writes => writes.flatMap Write.placeholders
  | .update _ writes conditions =>
      writes.flatMap Write.placeholders ++ conditions.flatMap Condition.placeholders
  | .delete _ conditions => conditions.flatMap Condition.placeholders

theorem placeholders_whereTokens (conditions : List Condition) :
    (whereTokens conditions).filterMap Token.placeholder? =
      conditions.flatMap Condition.placeholders := by
  cases conditions with
  | nil => rfl
  | cons first rest =>
      rw [whereTokens, List.filterMap_cons, ← Condition.placeholders_conjunction]
      exact Condition.placeholders_eq _

theorem no_placeholders_orderingTokens (keys : List SortKey) :
    (orderingTokens keys).filterMap Token.placeholder? = [] := by
  cases keys with
  | nil => rfl
  | cons key keys =>
      simp [orderingTokens, List.filterMap_cons, Token.placeholder?, filterMap_commaTokens,
        SortKey.tokens, List.flatMap_map]

theorem no_placeholders_selection (selection : Selection) :
    selection.tokens.filterMap Token.placeholder? = [] := by
  cases selection with
  | everything => rfl
  | columns names =>
      simp [Selection.tokens, filterMap_commaTokens, List.flatMap_map, List.filterMap_cons,
        Token.placeholder?]
  | aggregate function column => rfl

theorem no_placeholders_window (statement : Statement) :
    statement.window.filterMap Token.placeholder? = [] := by
  unfold window
  split
  next paging => exact paging.no_placeholders
  next => rfl

theorem placeholders_eq (statement : Statement) :
    statement.tokens.filterMap Token.placeholder? = statement.placeholders := by
  have term (write : Write) :
      write.value.tokens.filterMap Token.placeholder? = write.placeholders :=
    write.value.placeholders_eq false
  rw [tokens, List.filterMap_append, List.filterMap_cons, List.filterMap_cons,
    List.filterMap_append, no_placeholders_window, List.append_nil]
  cases statement <;>
    simp [opening, body, placeholders, Token.placeholder?, List.filterMap_cons,
      filterMap_commaTokens, List.flatMap_map, Write.tokens, term, placeholders_whereTokens,
      no_placeholders_selection, no_placeholders_orderingTokens]

end Statement

theorem Bindings.Adds.grows {before after : Bindings} {added : List String}
    (adds : before.Adds added after) : before.Grows after := by
  rcases adds.entries with ⟨more, equal, _⟩
  exact ⟨adds.sigil, more, equal.symm⟩

namespace Draft

variable {draft next : Draft}

/-! ## Steps that leave alone what is written -/

def Step.setsKind : Step → Bool
  | .setKind _ => true
  | .update _ => true
  | .updateRow _ => true
  | .insert _ => true
  | .insertRow _ => true
  | _ => false

/-- What steps make of a draft that set no kind: there are more conditions, one for each filter,
and their placeholders are all that is bound. -/
structure Narrows (draft : Draft) (filters : List Expr) (next : Draft) : Prop where
  schema : next.schema = draft.schema
  kind : next.kind = draft.kind
  inserts : next.inserts = draft.inserts
  updates : next.updates = draft.updates
  conditions : ∃ more, next.conditions = draft.conditions ++ more ∧
    List.Forall₂ (Condition.StandsFor draft.schema next.bindings) filters more ∧
    draft.bindings.Adds (more.flatMap Condition.placeholders) next.bindings

theorem Narrows.refl (draft : Draft) : draft.Narrows [] draft :=
  ⟨rfl, rfl, rfl, rfl, [], by simp, .nil, .refl _⟩

theorem Narrows.trans {last : Draft} {filters others : List Expr}
    (first : draft.Narrows filters next) (second : next.Narrows others last) :
    draft.Narrows (filters ++ others) last := by
  rcases first.conditions with ⟨more, conditions, stand, adds⟩
  rcases second.conditions with ⟨more', conditions', stand', adds'⟩
  refine ⟨second.schema.trans first.schema, second.kind.trans first.kind,
    second.inserts.trans first.inserts, second.updates.trans first.updates, more ++ more', ?_⟩
  refine ⟨?_, List.rel_append ?_ ?_, ?_⟩
  · rw [conditions', conditions, List.append_assoc]
  · exact stand.imp fun _ _ stands => stands.grows adds'.grows
  · exact first.schema ▸ stand'
  · rw [List.flatMap_append]
    exact adds.trans adds'

theorem Takes.narrows {step : Step} (takes : draft.Takes step next)
    (keepsKind : step.setsKind = false) (numbered : draft.bindings.Numbered) :
    draft.Narrows step.filters next := by
  cases takes with
  | @filter expr condition after yields =>
      have stands := (Condition.yields_compile yields).2
      have adds := ((Condition.emits_compile expr).yields numbered yields).2
      refine ⟨rfl, rfl, rfl, rfl, [condition], rfl, .cons stands .nil, ?_⟩
      simpa [addCondition, withBindings] using adds
  | setKind => contradiction
  | update => contradiction
  | updateRow => contradiction
  | insert => contradiction
  | insertRow => contradiction
  | _ => exact { Narrows.refl draft with }

theorem narrows_of_applyAll {steps : List Step}
    (keepsKind : ∀ step ∈ steps, step.setsKind = false) (numbered : draft.bindings.Numbered)
    (ran : (draft.applyAll steps).1 = .ok next) :
    draft.Narrows (steps.flatMap Step.filters) next := by
  induction steps generalizing draft with
  | nil =>
      rcases Except.ok.inj ran with rfl
      exact .refl _
  | cons step steps induction =>
      rcases applyAll_cons_eq_ok ran with ⟨middle, takes, rest⟩
      rw [List.forall_mem_cons] at keepsKind
      have first := takes.narrows keepsKind.1 numbered
      exact first.trans (induction keepsKind.2 (takes.numbered numbered) rest)

theorem numbered_of_applyAll {steps : List Step} (numbered : draft.bindings.Numbered)
    (ran : (draft.applyAll steps).1 = .ok next) : next.bindings.Numbered := by
  rw [← attempt_of_applyAll ran]
  exact attempt_preserves (motive := fun draft => draft.bindings.Numbered)
    (fun numbered takes => takes.numbered numbered) numbered steps

end Draft

/-! ## Filters that capture nothing -/

theorem capturesNothing_of_member? {target : Expr} {member : String}
    (named : target.member? = some member) (method : Method) (args : List Expr) :
    (Expr.call target method args).capturesNothing = false := by
  cases method <;> simp [Expr.capturesNothing, Expr.constant?_of_member? named]

theorem Condition.Tests.placeholders_ne_nil {bindings : Bindings} {column : Column}
    {op : Comparison} {value : Value} {condition : Condition}
    (tests : Tests bindings column op value condition) : condition.placeholders ≠ [] := by
  cases tests <;> exact List.cons_ne_nil _ _

theorem Condition.StandsFor.placeholders_eq_nil_iff {schema : Schema} {bindings : Bindings}
    {expr : Expr} {condition : Condition} (stands : StandsFor schema bindings expr condition) :
    condition.placeholders = [] ↔ expr.capturesNothing = true := by
  induction stands with
  | convert _ inner => exact inner
  | and _ _ first second => simp [placeholders, Expr.capturesNothing, first, second]
  | or _ _ first second => simp [placeholders, Expr.capturesNothing, first, second]
  | not _ inner => exact inner
  | comparison _ _ _ tests => simp [Expr.capturesNothing, tests.placeholders_ne_nil]
  | equals named _ _ tests =>
      simp [capturesNothing_of_member? named, tests.placeholders_ne_nil]
  | like named _ _ _ _ => simp [capturesNothing_of_member? named, placeholders]
  | @among _ items _ _ _ _ captured nonempty _ _ held =>
      cases held with
      | nil => contradiction
      | cons => simp [Expr.capturesNothing, captured, placeholders]
  | nowhere captured _ _ => simp [Expr.capturesNothing, captured, placeholders]
  | member _ _ _ => simp [Expr.capturesNothing, placeholders]
  | constant _ => simp [Expr.capturesNothing, placeholders]

theorem Condition.no_placeholders_iff {schema : Schema} {bindings : Bindings}
    {filters : List Expr} {conditions : List Condition}
    (stand : List.Forall₂ (StandsFor schema bindings) filters conditions) :
    conditions.flatMap placeholders = [] ↔
      ∀ filter ∈ filters, filter.capturesNothing = true := by
  induction stand with
  | nil => simp
  | cons first _ induction =>
      rw [List.flatMap_cons, List.append_eq_nil_iff, first.placeholders_eq_nil_iff, induction,
        List.forall_mem_cons]

/-! ## Requests -/

namespace Request

open Draft

variable {draft next : Draft} {request : Request}

def tableSteps (request : Request) : List Step :=
  request.tableIndex.toList.map .setTableIndex ++ request.table.toList.map .setTable

def rowSteps (request : Request) : List Step :=
  request.filter.map .filter ++
  (request.orderBy.map fun item => .order (.member item.member) item.direction) ++
  request.projection.toList.map .select ++
  (request.aggregate.toList.map fun (function, member) => .aggregate function (.member member)) ++
  request.top.toList.map .top ++
  request.page.toList.map fun (page, size) => .range page size

theorem steps_eq (request : Request) :
    request.steps = request.tableSteps ++ (request.writeSteps ++ request.rowSteps) := by
  simp [steps, tableSteps, rowSteps, List.append_assoc]

theorem tableSteps_keep_kind : ∀ step ∈ request.tableSteps, step.setsKind = false := by
  simp only [tableSteps, List.forall_mem_append, List.forall_mem_map]
  exact ⟨fun _ _ => rfl, fun _ _ => rfl⟩

theorem rowSteps_keep_kind : ∀ step ∈ request.rowSteps, step.setsKind = false := by
  simp only [rowSteps, List.forall_mem_append, List.forall_mem_map]
  exact ⟨⟨⟨⟨⟨fun _ _ => rfl, fun _ _ => rfl⟩, fun _ _ => rfl⟩, fun _ _ => rfl⟩,
    fun _ _ => rfl⟩, fun _ _ => rfl⟩

theorem filters_tableSteps : request.tableSteps.flatMap Step.filters = [] := by
  simp [tableSteps, List.flatMap_map, Step.filters]

theorem filters_rowSteps : request.rowSteps.flatMap Step.filters = request.filter := by
  simp [rowSteps, List.flatMap_map, Step.filters]

structure Blank (draft : Draft) : Prop where
  inserts : draft.inserts = []
  updates : draft.updates = []
  conditions : draft.conditions = []
  names : draft.bindings.names = []

structure Writes (kind : StatementKind) (draft : Draft) : Prop where
  sameKind : draft.kind = kind
  inserts : kind ≠ .insert → draft.inserts = []
  updates : kind ≠ .update → draft.updates = []
  conditions : draft.conditions = []
  names : draft.bindings.names = (draft.inserts ++ draft.updates).flatMap Write.placeholders

theorem Blank.setKind (blank : Blank draft) (kind : StatementKind) :
    Writes kind { draft with kind } where
  sameKind := rfl
  inserts _ := blank.inserts
  updates _ := blank.updates
  conditions := blank.conditions
  names := by rw [blank.names, blank.inserts, blank.updates]; rfl

section

variable {writes : List Write} {after : Scratch}

theorem Blank.addUpdates (blank : Blank draft)
    (adds : draft.bindings.Adds (writes.flatMap Write.placeholders) after.bindings) :
    Writes .update ((draft.withBindings after).addUpdates writes) where
  sameKind := rfl
  inserts _ := blank.inserts
  updates other := absurd rfl other
  conditions := blank.conditions
  names := by
    have names := adds.names
    rw [blank.names] at names
    simpa [Draft.addUpdates, withBindings, blank.inserts, blank.updates] using names

theorem Blank.addInserts (blank : Blank draft)
    (adds : draft.bindings.Adds (writes.flatMap Write.placeholders) after.bindings) :
    Writes .insert ((draft.withBindings after).addInserts writes) where
  sameKind := rfl
  inserts other := absurd rfl other
  updates _ := blank.updates
  conditions := blank.conditions
  names := by
    have names := adds.names
    rw [blank.names] at names
    simpa [Draft.addInserts, withBindings, blank.inserts, blank.updates] using names

end

theorem writes_of_writeSteps (blank : Blank draft) (numbered : draft.bindings.Numbered)
    (ran : (draft.applyAll request.writeSteps).1 = .ok next) : Writes request.kind next := by
  rw [writeSteps] at ran
  split at ran <;>
    obtain ⟨_, takes, rest⟩ := applyAll_cons_eq_ok ran <;>
    obtain rfl := Except.ok.inj rest
  next kind _ _ =>
      cases takes with
      | insert yields =>
          rw [kind]
          exact blank.addInserts ((Write.emits_compileInsert _).yields numbered yields).2
  next kind _ _ _ =>
      cases takes with
      | insertRow yields =>
          rw [kind]
          exact blank.addInserts ((Write.emits_compileRow _).yields numbered yields).2
  next kind _ _ =>
      cases takes with
      | update yields =>
          rw [kind]
          exact blank.addUpdates ((Write.emits_compileUpdate _).yields numbered yields).2
  next kind _ _ _ =>
      cases takes with
      | updateRow yields =>
          rw [kind]
          exact blank.addUpdates ((Write.emits_compileRow _).yields numbered yields).2
  next =>
      cases takes
      exact blank.setKind _

/-- What a request makes of an empty draft: the placeholders of what it writes are bound, and
then those of its conditions, which say what its filters say. -/
structure Drafts (schema : Schema) (request : Request) (draft : Draft) : Prop where
  kind : draft.kind = request.kind
  inserts : request.kind ≠ .insert → draft.inserts = []
  updates : request.kind ≠ .update → draft.updates = []
  filters : List.Forall₂ (Condition.StandsFor schema draft.bindings) request.filter
    draft.conditions
  names : draft.bindings.names = (draft.inserts ++ draft.updates).flatMap Write.placeholders ++
    draft.conditions.flatMap Condition.placeholders

theorem blank_of_tableSteps {schema : Schema} {settings : Settings}
    (ran : ((empty schema settings).applyAll request.tableSteps).1 = .ok draft) :
    Blank draft := by
  have narrows := narrows_of_applyAll tableSteps_keep_kind (Bindings.numbered_empty _) ran
  rcases narrows.conditions with ⟨more, conditions, stand, adds⟩
  rw [filters_tableSteps] at stand
  cases stand
  exact ⟨narrows.inserts, narrows.updates, conditions, adds.names⟩

theorem drafts_of_draft {schema : Schema} {settings : Settings}
    (drafted : (request.draft schema settings).1 = .ok draft) : Drafts schema request draft := by
  rw [Request.draft, steps_eq, applyAll_append, except_bind_eq_ok] at drafted
  rcases drafted with ⟨start, chosen, drafted⟩
  rw [applyAll_append, except_bind_eq_ok] at drafted
  rcases drafted with ⟨middle, written, narrowed⟩
  have numberedStart := numbered_of_applyAll (Bindings.numbered_empty _) chosen
  have writes := writes_of_writeSteps (blank_of_tableSteps chosen) numberedStart written
  have narrows := narrows_of_applyAll rowSteps_keep_kind
    (numbered_of_applyAll numberedStart written) narrowed
  have schemaStart := (attempt_of_applyAll chosen ▸ attempt_grows _ request.tableSteps).1
  have schemaMiddle := (attempt_of_applyAll written ▸ attempt_grows _ request.writeSteps).1
  rcases narrows.conditions with ⟨more, conditions, stand, adds⟩
  rw [writes.conditions, List.nil_append] at conditions
  rw [filters_rowSteps, schemaMiddle, schemaStart] at stand
  refine ⟨narrows.kind.trans writes.sameKind, ?_, ?_, ?_, ?_⟩
  · intro other
    exact narrows.inserts.trans (writes.inserts other)
  · intro other
    exact narrows.updates.trans (writes.updates other)
  · rw [conditions]
    exact stand
  · rw [adds.names, writes.names, narrows.inserts, narrows.updates, conditions]

theorem Drafts.names_of_no_write {schema : Schema} (drafts : Drafts schema request draft)
    (noInsert : request.kind ≠ .insert) (noUpdate : request.kind ≠ .update) :
    draft.bindings.names = draft.conditions.flatMap Condition.placeholders := by
  rw [drafts.names, drafts.inserts noInsert, drafts.updates noUpdate]
  rfl

theorem Drafts.names_eq {schema : Schema} (drafts : Drafts schema request draft)
    {statement : Statement} (made : draft.statement = .ok statement) :
    draft.bindings.names = statement.placeholders ++
      (if request.kind = .insert then draft.conditions.flatMap Condition.placeholders else []) := by
  have names := drafts.names
  rw [Draft.statement.eq_def, drafts.kind] at made
  split at made
  next kind =>
      rcases Except.ok.inj made with rfl
      rw [drafts.names_of_no_write (by simp [kind]) (by simp [kind])]
      simp [Statement.placeholders, kind]
  next kind =>
      rcases Except.ok.inj made with rfl
      rw [drafts.names_of_no_write (by simp [kind]) (by simp [kind])]
      simp [Statement.placeholders, kind]
  next kind =>
      split at made
      next => contradiction
      next =>
          rcases Except.ok.inj made with rfl
          rw [drafts.updates (by simp [kind]), List.append_nil] at names
          simpa [Statement.placeholders, kind] using names
  next kind =>
      split at made
      next => contradiction
      next =>
          rcases Except.ok.inj made with rfl
          rw [drafts.inserts (by simp [kind]), List.nil_append] at names
          simpa [Statement.placeholders, kind] using names
  next kind =>
      rcases Except.ok.inj made with rfl
      rw [drafts.names_of_no_write (by simp [kind]) (by simp [kind])]
      simp [Statement.placeholders, kind]

theorem render_eq_ok {schema : Schema} {settings : Settings} {rendered : Rendered}
    (ok : (request.render schema settings).1 = .ok rendered) :
    ∃ draft, (request.draft schema settings).1 = .ok draft ∧ draft.sql = .ok rendered.sql ∧
      draft.bindings = rendered.bindings := by
  rw [render] at ok
  split at ok
  next => contradiction
  next draft _ drafted =>
      cases text : draft.sql with
      | error e => simp [text, Except.map] at ok
      | ok sql =>
          rw [text] at ok
          rcases Except.ok.inj ok with rfl
          exact ⟨draft, by rw [drafted], text, rfl⟩

/-- A statement of a request shows the placeholders of what it writes and of its filters, but an
insert shows none of its filters. So it shows exactly what is bound, in the order of binding,
unless it is an insert with a filter that captures a value. -/
theorem placeholders_of_render {schema : Schema} {settings : Settings}
    (distinctive : Distinctive settings.sigil) {rendered : Rendered}
    (ok : (request.render schema settings).1 = .ok rendered) :
    rendered.bindings.names.Nodup ∧
    ∃ shown conditions,
      placeholdersIn? settings.sigil [rendered.sql] = some shown ∧
      List.Forall₂ (Condition.StandsFor schema rendered.bindings) request.filter conditions ∧
      rendered.bindings.names = shown ++
        (if request.kind = .insert then conditions.flatMap Condition.placeholders else []) ∧
      (shown = rendered.bindings.names ↔
        (request.kind = .insert → ∀ filter ∈ request.filter, filter.capturesNothing = true)) := by
  rcases render_eq_ok ok with ⟨draft, drafted, text, bindings⟩
  have ran := attempt_of_applyAll drafted
  have drafts := drafts_of_draft drafted
  rcases statement_of_sql distinctive ran text with ⟨statement, made, _, spells⟩
  have names := drafts.names_eq made
  have numbered := numbered_of_applyAll (Bindings.numbered_empty _) drafted
  have read := spells.placeholdersIn?_singleton
  rw [Statement.placeholders_eq] at read
  rw [← bindings]
  refine ⟨numbered.nodup, _, draft.conditions, read, drafts.filters, names, ?_⟩
  rw [names, List.self_eq_append_right, ← Condition.no_placeholders_iff drafts.filters]
  split
  next kind => simp [kind]
  next other => simp [other]

def guestBirthday : Request where
  kind := .update
  tableIndex := some 0
  assignments := some (.assign [("Age",
    .binary (.compute .add) (.member "Age") (.constant (.int 1)))])
  filter := [guestFilter]

theorem placeholders_of_render_guests :
    ∃ rendered, (guestBirthday.render guests .default).1 = .ok rendered ∧
      rendered.sql = guestUpdateText ∧
      placeholdersIn? "@" [rendered.sql] = some rendered.bindings.names ∧
      rendered.bindings.names.Nodup := by
  obtain ⟨rendered, ok, text⟩ : ∃ rendered,
      (guestBirthday.render guests .default).1 = .ok rendered ∧
        rendered.sql = guestUpdateText := ⟨_, rfl, rfl⟩
  rcases placeholders_of_render distinctive_at ok with ⟨nodup, shown, _, read, _, _, all⟩
  have same : shown = rendered.bindings.names := all.mpr fun insert => by contradiction
  exact ⟨rendered, ok, text, same ▸ read, nodup⟩

/-- A new guest, with a filter that an insert has no use for. -/
def guestArrival : Request where
  kind := .insert
  assignments := some (.assign [("Name", .constant (.text "Ann"))])
  filter := [.binary (.compare .greaterThan) (.member "Age") (.constant (.int 17))]

/-- What the filter of an insert captures is bound to no placeholder of its text. -/
theorem shown_ne_bound_of_insert :
    ∃ rendered, (guestArrival.render guests .default).1 = .ok rendered ∧
      rendered.sql = "INSERT INTO \x60guests\x60 (\x60name\x60) VALUES (@p0)" ∧
      placeholdersIn? "@" [rendered.sql] = some ["@p0"] ∧
      rendered.bindings.names = ["@p0", "@p1"] := by
  obtain ⟨rendered, ok, text, names⟩ : ∃ rendered,
      (guestArrival.render guests .default).1 = .ok rendered ∧
        rendered.sql = "INSERT INTO \x60guests\x60 (\x60name\x60) VALUES (@p0)" ∧
        rendered.bindings.names = ["@p0", "@p1"] := ⟨_, rfl, rfl, rfl⟩
  refine ⟨rendered, ok, text, ?_, names⟩
  rw [text]
  decide +kernel

end Request

end BoundSql.Sql
