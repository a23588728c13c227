import BoundSql.Proofs.Draft.Editing
import BoundSql.Proofs.Draft.Numbering

/-!
What drafts write. Whatever is tried on a draft, its writes are those that the steps that succeed
ask for, in order and each to a writable column; a constant is bound in the form that the column
stores. The main statement is `performAll_writesAsked`.
-/

namespace BoundSql.Sql

open Entity Compiler

/-! ## Rows that fail -/

theorem Compiler.outcome_pure (given : α) (before : Scratch) :
    (pure given : Compiler α).outcome before = (.ok given, before) := rfl

theorem Compiler.outcome_ofExcept (given : Except CompileError α) (before : Scratch) :
    (MonadExcept.ofExcept given : Compiler α).outcome before = (given, before) := by
  cases given <;> rfl

namespace Write

section

variable {values : MemberValues}

theorem outcome_compileColumns_cons (column : Column) (columns : List Column)
    (before : Scratch) :
    (compileColumns values (column :: columns)).outcome before =
      match valueOf values column.member >>= coerceFor column with
      | .error e => (.error e, before)
      | .ok stored =>
          (do
            let name ← Compiler.bind stored
            let writes ← compileColumns values columns
            return { column := column.name, value := .placeholder name } :: writes :
              Compiler (List Write)).outcome before := by
  simp only [compileColumns, bindStored, outcome_bind, outcome_ofExcept]
  cases valueOf values column.member with
  | error e => rfl
  | ok value =>
      cases kept : coerceFor column value with
      | error e => simp [kept, Bind.bind, Except.bind]
      | ok stored =>
          have whole : (Except.ok value >>= coerceFor column) = .ok stored := kept
          simp only [whole, kept]
          rcases (Compiler.bind stored).outcome before with ⟨- | name, middle⟩ <;> rfl

theorem compileColumns_eq_error_iff {columns : List Column} {before : Scratch}
    (numbered : before.bindings.Numbered) {error : CompileError} :
    ((compileColumns values columns).outcome before).1 = .error error ↔
      FirstFailure (Lacks values) columns error := by
  induction columns generalizing before with
  | nil =>
      refine ⟨fun failed => ?_, fun failure => nomatch failure⟩
      contradiction
  | cons column columns induction =>
      rw [outcome_compileColumns_cons, firstFailure_cons_iff]
      simp only [← stored_eq_error_iff]
      cases valueOf values column.member >>= coerceFor column with
      | error e => simp
      | ok stored =>
          rcases numbered.bind stored with ⟨after, bound, still, -⟩
          have rest := @induction { before with bindings := after } still
          simp only [outcome_bind, outcome_bindValue, bound, ← rest]
          rcases (compileColumns values columns).outcome { before with bindings := after } with
            ⟨- | writes, last⟩
          · simp
          · simp [outcome_pure]

end

/-! ## Assignments

An assignment names a member, and has the value for it if that is a constant. -/

abbrev Assignment := String × Option Value

def assignmentsOf (schema : Schema) (values : MemberValues) : List Assignment :=
  schema.persisted.map fun column => (column.member, values.lookup column.member)

def assignmentsIn : Expr → List Assignment
  | .assign bindings => bindings.map fun (member, value) => (member, value.constant?)
  | _ => []

/-- Texts of a column and of what is written to it. The column is a declared one of the member and
writable, and a constant is bound to a placeholder in the form that the column stores. -/
def CarriesOut (schema : Schema) (bindings : Bindings) (assignment : Assignment)
    (left right : String) : Prop :=
  ∃ column ∈ schema.columns, column.member = assignment.1 ∧ column.isWritable = true ∧
    column.isComputed = false ∧ left = quoteIdentifier column.name ∧
    ∀ value, assignment.2 = some value → ∃ stored, bindings.Holds right stored ∧
      Value.stored? column.kind value = some stored ∧
      (stored = .null ∨ stored.kind? = some column.kind)

def Fits (schema : Schema) (bindings : Bindings) (assignment : Assignment) (write : Write) :
    Prop :=
  CarriesOut schema bindings assignment write.renderColumn write.renderValue

def FitsConstant (schema : Schema) (bindings : Bindings) (assignment : Assignment)
    (write : Write) : Prop :=
  write.Fits schema bindings assignment ∧ assignment.2.isSome = true

section

variable {schema : Schema} {before after : Scratch} {write : Write} {bindings more : Bindings}
  {assignment : Assignment}

theorem Fits.grows (grows : bindings.Grows more) (fits : write.Fits schema bindings assignment) :
    write.Fits schema more assignment := by
  rcases fits with ⟨column, declared, member, writable, stored, named, constant⟩
  refine ⟨column, declared, member, writable, stored, named, ?_⟩
  intro value given
  rcases constant value given with ⟨stored, holds, kept⟩
  exact ⟨stored, grows.holds holds, kept⟩

theorem FitsConstant.grows (grows : bindings.Grows more)
    (fits : write.FitsConstant schema bindings assignment) :
    write.FitsConstant schema more assignment :=
  ⟨fits.1.grows grows, fits.2⟩

theorem targetOf_eq_ok {member : String} {column : Column}
    (target : targetOf schema member = .ok column) :
    column ∈ schema.columns ∧ column.member = member ∧ column.isWritable = true ∧
      column.isComputed = false := by
  rw [targetOf, except_bind_eq_ok] at target
  rcases target with ⟨known, found, target⟩
  split at target
  next => contradiction
  next open_ =>
      rcases Except.ok.inj target with rfl
      have declared := columnOf_eq_ok_iff.mp found
      have same := List.find?_some declared
      simp only [Bool.or_eq_true, Bool.not_eq_true', not_or, Bool.not_eq_true,
        Bool.not_eq_false] at open_
      exact ⟨List.mem_of_find?_eq_some declared, by simpa using same, open_.2, open_.1⟩

theorem fits_bindStored {column : Column} {member : String} {value : Value} {given : Option Value}
    (target : targetOf schema member = .ok column) (same : given = some value)
    (yields : (bindStored column value).Yields before write after) :
    before.bindings.Grows after.bindings ∧
      write.FitsConstant schema after.bindings (member, given) := by
  rcases targetOf_eq_ok target with ⟨declared, named, writable, stored⟩
  simp only [bindStored, yields_bind, yields_ofExcept, yields_pure] at yields
  rcases yields with ⟨kept, _, ⟨coerced, rfl⟩, name, _, bound, rfl, rfl⟩
  rcases bound.held with ⟨grows, holds⟩
  have fits := coerceFor_eq_ok_iff.mp coerced
  refine ⟨grows, ⟨column, declared, named, writable, stored, rfl, ?_⟩, by simp [same]⟩
  intro other given
  rcases Option.some.inj (same.symm.trans given) with rfl
  exact ⟨kept, holds, fits, Value.kind_of_stored? fits⟩

theorem fits_compileUpdateItem {member : String} {value : Expr}
    (yields : (compileUpdateItem schema member value).Yields before write after) :
    before.bindings.Grows after.bindings ∧
      write.Fits schema after.bindings (member, value.constant?) := by
  have compiled := yields
  simp only [compileUpdateItem, yields_bind, yields_ofExcept] at yields
  rcases yields with ⟨column, _, ⟨target, rfl⟩, yields⟩
  split at yields
  next constant same =>
      rcases fits_bindStored target same yields with ⟨grows, fits⟩
      exact ⟨grows, fits.1⟩
  next none =>
      rcases targetOf_eq_ok target with ⟨declared, named, writable, stored⟩
      simp only [yields_bind, yields_pure] at yields
      rcases yields with ⟨term, _, _, rfl, rfl⟩
      refine ⟨(yields_compileUpdateItem compiled).1, column, declared, named, writable, stored,
        rfl, ?_⟩
      intro value given
      rw [none] at given
      contradiction

theorem fits_compileInsertItem {member : String} {value : Expr}
    (yields : (compileInsertItem schema member value).Yields before write after) :
    before.bindings.Grows after.bindings ∧
      write.FitsConstant schema after.bindings (member, value.constant?) := by
  simp only [compileInsertItem, yields_bind, yields_ofExcept] at yields
  rcases yields with ⟨column, _, ⟨target, rfl⟩, yields⟩
  split at yields
  next constant same => exact fits_bindStored target same yields
  next => exact absurd yields yields_throw

theorem fits_compileUpdate {expr : Expr} {writes : List Write}
    (yields : (compileUpdate schema expr).Yields before writes after) :
    before.bindings.Grows after.bindings ∧
      List.Forall₂ (fun assignment write => write.Fits schema after.bindings assignment)
        (assignmentsIn expr) writes := by
  simp only [compileUpdate, yields_bind, yields_ofExcept] at yields
  rcases yields with ⟨assignments, _, ⟨made, rfl⟩, yields⟩
  cases expr with
  | assign bindings =>
      rcases Except.ok.inj made with rfl
      rw [assignmentsIn, List.forall₂_map_left_iff]
      exact forall₂_compileEach
        (fun bindings item write => write.Fits schema bindings (item.1, item.2.constant?))
        (fun grows fits => fits.grows grows) fits_compileUpdateItem yields
  | _ => contradiction

theorem fits_compileInsert {expr : Expr} {writes : List Write}
    (yields : (compileInsert schema expr).Yields before writes after) :
    before.bindings.Grows after.bindings ∧
      List.Forall₂ (fun assignment write => write.FitsConstant schema after.bindings assignment)
        (assignmentsIn expr) writes := by
  simp only [compileInsert, yields_bind, yields_ofExcept] at yields
  rcases yields with ⟨assignments, _, ⟨made, rfl⟩, yields⟩
  cases expr with
  | assign bindings =>
      rcases Except.ok.inj made with rfl
      rw [assignmentsIn, List.forall₂_map_left_iff]
      exact forall₂_compileEach
        (fun bindings item write => write.FitsConstant schema bindings (item.1, item.2.constant?))
        (fun grows fits => fits.grows grows) fits_compileInsertItem yields
  | _ => contradiction

theorem Stores.fits {values : MemberValues} {column : Column}
    (stores : write.Stores values bindings column) (persisted : column ∈ schema.persisted) :
    write.FitsConstant schema bindings (column.member, values.lookup column.member) := by
  rcases List.mem_filter.mp persisted with ⟨declared, kept⟩
  simp only [Column.isPersisted, Bool.and_eq_true, Bool.not_eq_true'] at kept
  rcases stores.value with ⟨name, stored, value, holds, same⟩
  rcases Option.bind_eq_some_iff.mp same with ⟨given, known, fits⟩
  refine ⟨⟨column, declared, rfl, kept.1.1, kept.2, ?_, ?_⟩, by simp [known]⟩
  · rw [renderColumn, stores.column]
  · intro other equal
    rcases Option.some.inj (known.symm.trans equal) with rfl
    rw [renderValue, value]
    exact ⟨stored, holds, fits, Value.kind_of_stored? fits⟩

theorem fits_compileRow {values : MemberValues} {writes : List Write}
    (yields : (compileRow schema values).Yields before writes after) :
    before.bindings.Grows after.bindings ∧
      List.Forall₂ (fun assignment write => write.FitsConstant schema after.bindings assignment)
        (assignmentsOf schema values) writes := by
  rcases stores_compileColumns yields with ⟨grows, stores⟩
  refine ⟨grows, ?_⟩
  rw [assignmentsOf, List.forall₂_map_left_iff]
  have among := (List.forall₂_and_left (p := (· ∈ schema.persisted)) _ _).mpr
    ⟨fun column persisted => persisted, stores⟩
  exact among.imp fun column write stored => stored.2.fits stored.1

end

end Write

/-! ## Runs -/

namespace Draft

open Write

def Step.updates (schema : Schema) : Step → List Assignment
  | .update assignments => assignmentsIn assignments
  | .updateRow values => assignmentsOf schema values
  | _ => []

def Step.inserts (schema : Schema) : Step → List Assignment
  | .insert assignments => assignmentsIn assignments
  | .insertRow values => assignmentsOf schema values
  | _ => []

structure Carries (schema : Schema) (updates inserts : List Assignment) (draft : Draft) :
    Prop where
  same : draft.schema = schema
  numbered : draft.bindings.Numbered
  updates : List.Forall₂ (fun assignment write => write.Fits schema draft.bindings assignment)
    updates draft.updates
  inserts : List.Forall₂
    (fun assignment write => write.FitsConstant schema draft.bindings assignment)
    inserts draft.inserts

variable {schema : Schema} {draft next : Draft} {updates inserts : List Assignment}

theorem carries_empty (schema : Schema) (settings : Settings) :
    (empty schema settings).Carries schema [] [] :=
  ⟨rfl, Bindings.numbered_empty _, .nil, .nil⟩

theorem Takes.carries {step : Step} (takes : draft.Takes step next)
    (carries : draft.Carries schema updates inserts) :
    next.Carries schema (updates ++ step.updates schema) (inserts ++ step.inserts schema) := by
  have still := takes.numbered carries.numbered
  rcases takes.grows with ⟨same, grows⟩
  have same := same.trans carries.same
  have updated := carries.updates.imp fun _ _ fits => fits.grows grows
  have inserted := carries.inserts.imp fun _ _ fits => fits.grows grows
  -- Most steps add nothing to the one or the other.
  have noUpdate : List.Forall₂ (fun assignment write => write.Fits schema next.bindings assignment)
      (updates ++ []) draft.updates := by rwa [List.append_nil]
  have noInsert : List.Forall₂
      (fun assignment write => write.FitsConstant schema next.bindings assignment)
      (inserts ++ []) draft.inserts := by rwa [List.append_nil]
  cases takes with
  | update yields =>
      rw [carries.same] at yields
      exact ⟨same, still, List.rel_append updated (fits_compileUpdate yields).2, noInsert⟩
  | updateRow yields =>
      rw [carries.same] at yields
      have row := (fits_compileRow yields).2.imp fun _ _ fits => fits.1
      exact ⟨same, still, List.rel_append updated row, noInsert⟩
  | insert yields =>
      rw [carries.same] at yields
      exact ⟨same, still, noUpdate, List.rel_append inserted (fits_compileInsert yields).2⟩
  | insertRow yields =>
      rw [carries.same] at yields
      exact ⟨same, still, noUpdate, List.rel_append inserted (fits_compileRow yields).2⟩
  | _ => exact ⟨same, still, noUpdate, noInsert⟩

open Edit (performAll succeeding)

theorem carries_performAll (carries : draft.Carries schema updates inserts) (steps : List Step) :
    (performAll draft steps).2.Carries schema
      (updates ++ (succeeding draft steps).flatMap (·.updates schema))
      (inserts ++ (succeeding draft steps).flatMap (·.inserts schema)) := by
  induction steps generalizing draft updates inserts with
  | nil => simpa [Edit.performAll_nil, succeeding] using carries
  | cons step steps induction =>
      rw [Edit.performAll_cons, Edit.succeeding_cons]
      cases applied : (draft.apply step).1 with
      | error e => exact induction carries
      | ok next =>
          have run := induction ((takes_of_apply applied).carries carries)
          simpa [List.append_assoc] using run

/-! ## Texts -/

/-- The text of an insert: as many columns as values, each pair of which carries out an assignment
of a constant. -/
def InsertText (schema : Schema) (draft : Draft) (assignments : List Assignment) (text : String) :
    Prop :=
  ∃ columns values, columns.length = values.length ∧
    text = "INSERT INTO " ++ quoteIdentifier draft.table ++ " (" ++ ",".intercalate columns ++
      ") VALUES (" ++ ",".intercalate values ++ ")" ∧
    List.Forall₂
      (fun assignment (pair : String × String) => assignment.2.isSome = true ∧
        CarriesOut schema draft.bindings assignment pair.1 pair.2)
      assignments (columns.zip values)

/-- The text of an update: every item behind SET carries out an assignment. -/
def UpdateText (schema : Schema) (draft : Draft) (assignments : List Assignment) (text : String) :
    Prop :=
  ∃ items,
    text = "UPDATE " ++ quoteIdentifier draft.table ++ " SET " ++ ",".intercalate items ++
      Statement.renderWhere draft.conditions ∧
    List.Forall₂
      (fun assignment item => ∃ left right, item = left ++ "=" ++ right ∧
        CarriesOut schema draft.bindings assignment left right)
      assignments items

theorem Carries.insertText (carries : draft.Carries schema updates inserts)
    (kind : draft.kind = .insert) {text : String} (made : draft.sql = .ok text) :
    draft.InsertText schema inserts text := by
  simp only [sql, statement, kind] at made
  split at made
  next => contradiction
  next =>
      rcases Except.ok.inj made with rfl
      refine ⟨draft.inserts.map renderColumn, draft.inserts.map renderValue, by simp, rfl, ?_⟩
      rw [List.zip_map', List.forall₂_map_right_iff]
      exact carries.inserts.imp fun _ _ fits => ⟨fits.2, fits.1⟩

open Edit in
/-- An insert is rendered from the two rows at the desk, which grow alike. -/
theorem sql_of_performEach (draft : Draft) (notices : List Notice) (steps : List Step)
    {desk : Desk} (left : (performEach (.of draft notices) steps).2 = desk) :
    desk.columns.length = desk.values.length ∧
      (desk.draft.kind = .insert → ∀ text, desk.draft.sql = .ok text →
        text = "INSERT INTO " ++ quoteIdentifier desk.draft.table ++
          " (" ++ ",".intercalate (desk.columns.map quoteIdentifier) ++
          ") VALUES (" ++ ",".intercalate (desk.values.map Term.render) ++ ")") := by
  obtain ⟨more, run⟩ := @performEach_of draft notices steps
  rw [run] at left
  subst left
  refine ⟨by simp [Desk.of], fun kind text made => ?_⟩
  rw [draft_of] at kind made ⊢
  simp only [sql, statement, kind] at made
  split at made
  · contradiction
  · rw [← Except.ok.inj made]
    simp only [Desk.of, List.map_map]
    rfl

theorem Carries.updateText (carries : draft.Carries schema updates inserts)
    (kind : draft.kind = .update) {text : String} (made : draft.sql = .ok text) :
    draft.UpdateText schema updates text := by
  simp only [sql, statement, kind] at made
  split at made
  next => contradiction
  next =>
      rcases Except.ok.inj made with rfl
      refine ⟨draft.updates.map render, rfl, ?_⟩
      rw [List.forall₂_map_right_iff]
      exact carries.updates.imp fun _ _ fits => ⟨_, _, rfl, fits⟩

/-! ## Rows -/

/-- What comes of adding a row of values: either every persisted column, none of them a key, is
written in order with what it stores of the row, or the draft stays as it was and the first column
that lacks its value is the error. -/
structure AddsRow (draft : Draft) (values : MemberValues) (written : Draft → List Write)
    (outcome : Except CompileError Unit) (after : Draft) : Prop where
  sparesKeys : ∀ column ∈ draft.schema.persisted, column.isKey = false
  refused : ∀ error, outcome = .error error ↔
    FirstFailure (Lacks values) draft.schema.persisted error
  unchanged : ∀ error, outcome = .error error → after = draft
  added : outcome = .ok () → ∃ writes, written after = written draft ++ writes ∧
    List.Forall₂ (fun column write => write.Stores values after.bindings column)
      draft.schema.persisted writes

theorem addsRow_of_apply {step : Step} {values : MemberValues} {written : Draft → List Write}
    {add : Draft → List Write → Draft}
    (applies : draft.apply step = draft.compile (Write.compileRow draft.schema values) add)
    (adds : ∀ after writes,
      written (add (draft.withBindings after) writes) = written draft ++ writes ∧
        (add (draft.withBindings after) writes).bindings = after.bindings)
    (numbered : draft.bindings.Numbered) :
    draft.AddsRow values written ((Edit.perform step).on (.of draft)).1
      ((Edit.perform step).on (.of draft)).2.draft := by
  have refused {error : CompileError} := @compileColumns_eq_error_iff values draft.schema.persisted
    { bindings := draft.bindings } numbered error
  have run : (Write.compileRow draft.schema values).run draft.bindings =
      (compileColumns values draft.schema.persisted).outcome { bindings := draft.bindings } := rfl
  rw [Edit.on_perform, applies, compile, run]
  cases made : (compileColumns values draft.schema.persisted).outcome
      { bindings := draft.bindings } with
  | mk outcome after =>
      rw [made] at refused
      cases outcome with
      | error e =>
          simp only [Edit.settle, Edit.draft_of]
          refine ⟨fun _ => isKey_of_mem_persisted, fun error => ?_, fun _ _ => rfl, ?_⟩
          · rw [← refused]
            simp
          · intro accepted
            contradiction
      | ok writes =>
          simp only [Edit.settle, Edit.draft_of]
          refine ⟨fun _ => isKey_of_mem_persisted, fun error => ?_, ?_, ?_⟩
          · rw [← refused]
            simp
          · intro error failed
            contradiction
          · intro _
            have stored := (stores_compileColumns made).2
            rw [← (adds after writes).2] at stored
            exact ⟨writes, (adds after writes).1, stored⟩

theorem Carries.insertsRow (carries : draft.Carries schema updates inserts)
    (values : MemberValues) :
    draft.AddsRow values Draft.inserts ((Edit.perform (.insertRow values)).on (.of draft)).1
      ((Edit.perform (.insertRow values)).on (.of draft)).2.draft :=
  addsRow_of_apply rfl (fun _ _ => ⟨rfl, rfl⟩) carries.numbered

theorem Carries.updatesRow (carries : draft.Carries schema updates inserts)
    (values : MemberValues) :
    draft.AddsRow values Draft.updates ((Edit.perform (.updateRow values)).on (.of draft)).1
      ((Edit.perform (.updateRow values)).on (.of draft)).2.draft :=
  addsRow_of_apply rfl (fun _ _ => ⟨rfl, rfl⟩) carries.numbered

structure WritesAsked (schema : Schema) (steps : List Step) (draft : Draft) : Prop where
  keeps : draft.schema = schema
  insert : ∀ text, draft.kind = .insert → draft.sql = .ok text →
    draft.InsertText schema (steps.flatMap (·.inserts schema)) text
  update : ∀ text, draft.kind = .update → draft.sql = .ok text →
    draft.UpdateText schema (steps.flatMap (·.updates schema)) text
  insertRow : ∀ values,
    draft.AddsRow values Draft.inserts ((Edit.perform (.insertRow values)).on (.of draft)).1
      ((Edit.perform (.insertRow values)).on (.of draft)).2.draft
  updateRow : ∀ values,
    draft.AddsRow values Draft.updates ((Edit.perform (.updateRow values)).on (.of draft)).1
      ((Edit.perform (.updateRow values)).on (.of draft)).2.draft

/-- Whatever steps are tried on a draft, its writes are those that the steps that succeed ask for,
and the next row is written as its columns store it or not at all. -/
theorem performAll_writesAsked (schema : Schema) (settings : Settings) (steps : List Step) :
    (performAll (empty schema settings) steps).2.WritesAsked schema
      (succeeding (empty schema settings) steps) := by
  have carries := carries_performAll (carries_empty schema settings) steps
  rw [List.nil_append, List.nil_append] at carries
  exact ⟨carries.same, fun _ kind made => carries.insertText kind made,
    fun _ kind made => carries.updateText kind made, carries.insertsRow, carries.updatesRow⟩

/-- The second step fails, since an insert writes constants only. -/
def guestInserts : List Step :=
  [.insert (.assign [("Age", .constant (.text "7"))]),
   .insert (.assign [("Id", .member "Age")]),
   .insert (.assign [("Name", .constant (.text "Ann"))])]

/-- The second step fails, since the row has no age. -/
def guestUpdates : List Step :=
  [.update (.assign
     [("Age", .binary (.compute .add) (.member "Age") (.constant (.int 1)))]),
   .updateRow [("Name", .text "Bob")]]

theorem performAll_writesAsked_guests :
    (∃ text, (performAll (empty guests .default) guestInserts).2.sql = .ok text ∧
      InsertText guests (performAll (empty guests .default) guestInserts).2
        [("Age", some (.text "7")), ("Name", some (.text "Ann"))] text) ∧
      (∃ text, (performAll (empty guests .default) guestUpdates).2.sql = .ok text ∧
        UpdateText guests (performAll (empty guests .default) guestUpdates).2 [("Age", none)]
          text) ∧
      ((Edit.perform (.insertRow [("Name", .text "Bob")])).on
        (.of (performAll (empty guests .default) guestInserts).2)).1 =
          .error (.missingMemberValue "Age") := by
  have inserts := performAll_writesAsked guests .default guestInserts
  have updates := performAll_writesAsked guests .default guestUpdates
  have inserted : (performAll (empty guests .default) guestInserts).2.sql =
      .ok "INSERT INTO \x60guests\x60 (\x60age\x60,\x60name\x60) VALUES (@p0,@p1)" := by
    rfl
  have updated : (performAll (empty guests .default) guestUpdates).2.sql =
      .ok "UPDATE \x60guests\x60 SET \x60age\x60=\x60age\x60 + @p0" := by
    rfl
  have ageless : FirstFailure (Write.Lacks [("Name", .text "Bob")]) guests.persisted
      (.missingMemberValue "Age") :=
    .later (fun _ lacks => nomatch lacks) (.here (.missing rfl))
  exact ⟨⟨_, inserted, inserts.insert _ rfl inserted⟩, ⟨_, updated, updates.update _ rfl updated⟩,
    ((inserts.insertRow _).refused _).mpr ageless⟩

end Draft

end BoundSql.Sql
