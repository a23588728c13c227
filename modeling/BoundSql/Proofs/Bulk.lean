import Mathlib.Data.List.Nodup
import BoundSql.Proofs.Condition.Reading
import BoundSql.Proofs.Draft.Run
import BoundSql.Proofs.Literal

/-!
Rows written as literals and rows whose values are bound. For every persisted column both write
the value that the column stores; a literal says all of it but the fraction of a second and the
sign of a zero.
-/

namespace BoundSql.Sql

open Entity

theorem column?_eq_some_iff {schema : Schema} (distinct : (schema.columns.map (·.member)).Nodup)
    {member : String} {column : Column} :
    schema.column? member = some column ↔ column ∈ schema.columns ∧ column.member = member := by
  constructor
  · intro found
    have named := List.find?_some found
    exact ⟨List.mem_of_find?_eq_some found, by simpa using named⟩
  · rintro ⟨inside, rfl⟩
    cases found : schema.column? column.member with
    | none =>
        have other := List.find?_eq_none.mp found column inside
        simp at other
    | some first =>
        have named := List.find?_some found
        have inside' := List.mem_of_find?_eq_some found
        rw [List.inj_on_of_nodup_map distinct inside' inside (by simpa using named)]

/-! ## Literals -/

namespace Bulk

def literalIn (values : MemberValues) (column : Column) : Except CompileError Literal :=
  (Write.valueOf values column.member >>= coerceFor column) >>= Literal.ofValue

section

variable {values : MemberValues} {column : Column}

theorem literalFor_member {schema : Schema} (distinct : (schema.columns.map (·.member)).Nodup)
    (inside : column ∈ schema.columns) :
    literalFor schema values column.member = literalIn values column := by
  have found : schema.column? column.member = some column :=
    (column?_eq_some_iff distinct).mpr ⟨inside, rfl⟩
  rw [literalFor, found, literalIn, bind_assoc]

theorem literalsFor_eq {schema : Schema} (distinct : (schema.columns.map (·.member)).Nodup)
    {columns : List Column} (inside : ∀ column ∈ columns, column ∈ schema.columns)
    (values : MemberValues) :
    literalsFor schema columns values = columns.mapM (literalIn values) := by
  unfold literalsFor
  induction columns with
  | nil => rfl
  | cons column columns induction =>
      rcases List.forall_mem_cons.mp inside with ⟨first, others⟩
      rw [List.mapM_cons, List.mapM_cons, literalFor_member distinct first, induction others]

def SaysStored (values : MemberValues) (column : Column) (tokens : List Token) : Prop :=
  ∃ stored, Write.storedIn? values column = some stored ∧
    Datum.read? column.kind tokens = some stored.written

theorem exists_tokens_of_literalIn {literal : Literal}
    (made : literalIn values column = .ok literal) :
    ∃ tokens, Spells "@" literal.render tokens ∧ SaysStored values column tokens := by
  simp only [literalIn, except_bind_eq_ok] at made
  rcases made with ⟨stored, ⟨value, found, coerced⟩, made⟩
  have kind := Value.kind_of_stored? (coerceFor_eq_ok_iff.mp coerced)
  rcases says_ofValue made kind with ⟨tokens, spells, read⟩
  exact ⟨tokens, spells, stored, Write.storedIn?_eq_some found coerced, read⟩

theorem exists_groups {columns : List Column} {literals : List Literal}
    (made : List.Forall₂ (fun column literal => literalIn values column = .ok literal)
      columns literals) :
    ∃ groups, List.Forall₂ (Spells "@") (literals.map Literal.render) groups ∧
      List.Forall₂ (SaysStored values) columns groups := by
  induction made with
  | nil => exact ⟨[], .nil, .nil⟩
  | cons first _ induction =>
      rcases exists_tokens_of_literalIn first with ⟨tokens, spells, said⟩
      rcases induction with ⟨groups, spelled, others⟩
      exact ⟨tokens :: groups, .cons spells spelled, .cons said others⟩

/-- A literal and a write of one column: the literal says of the bound value all that literals say,
and says everything exactly if the value is whole. -/
structure SaysBound (bindings : Bindings) (target : Column) (tokens : List Token)
    (write : Write) : Prop where
  column : write.column = target.name
  value : ∃ name bound, write.value = .placeholder name ∧ bindings.Holds name bound ∧
    Datum.read? target.kind tokens = some bound.written ∧
    (Datum.read? target.kind tokens = some bound ↔ bound.IsWhole)

theorem SaysStored.saysBound {bindings : Bindings} {tokens : List Token} {write : Write}
    (said : SaysStored values column tokens) (stores : write.Stores values bindings column) :
    SaysBound bindings column tokens write := by
  rcases said with ⟨stored, kept, read⟩
  rcases stores.value with ⟨name, bound, value, holds, same⟩
  rcases Option.some.inj (kept.symm.trans same) with rfl
  refine ⟨stores.column, name, stored, value, holds, read, ?_⟩
  rw [read, Option.some.injEq, Value.written_eq_self_iff]

theorem saysBound_row {bindings : Bindings} {columns : List Column} {groups : List (List Token)}
    {writes : List Write} (said : List.Forall₂ (SaysStored values) columns groups)
    (stores : List.Forall₂ (fun column write => write.Stores values bindings column)
      columns writes) :
    List.Forall₂ (fun (column, tokens) write => SaysBound bindings column tokens write)
      (columns.zip groups) writes := by
  induction said generalizing writes with
  | nil =>
      cases stores
      exact .nil
  | cons first _ induction =>
      cases stores with
      | cons bound others => exact .cons (first.saysBound bound) (induction others)

end

/-! ## Statements -/

def tupleTokens (groups : List (List Token)) : List Token :=
  [.symbol "("] ++ commaTokens groups ++ [.symbol ")"]

def insertTokens (table : String) (columns : List Column) (tuples : List (List (List Token))) :
    List Token :=
  [.word "INSERT", .word "INTO", .identifier table, .symbol "("] ++
    commaTokens (columns.map fun column => [.identifier column.name]) ++
    [.symbol ")", .word "VALUES"] ++ commaTokens (tuples.map tupleTokens)

theorem spells_renderTuple {literals : List Literal} {groups : List (List Token)}
    (spelled : List.Forall₂ (Spells "@") (literals.map Literal.render) groups) :
    Spells "@" (renderTuple literals) (tupleTokens groups) := by
  have opening : Leads "@" "(" [.symbol "("] := leads_phrase distinctive_at (by decide)
  exact (opening.closed distinctive_at (spells_row distinctive_at spelled)).spells

theorem spells_renderInsert (table : String) (columns : List Column) {rows : List (List Literal)}
    {tuples : List (List (List Token))}
    (spelled : List.Forall₂ (Spells "@") (rows.map renderTuple) (tuples.map tupleTokens)) :
    Spells "@" (renderInsert table columns rows) (insertTokens table columns tuples) := by
  have opening : Leads "@" "INSERT INTO " [.word "INSERT", .word "INTO"] :=
    leads_phrase distinctive_at (by decide)
  have columnRow : Leads "@" " (" [.symbol "("] := leads_phrase distinctive_at (by decide)
  have valueRow : Leads "@" ") VALUES " [.symbol ")", .word "VALUES"] :=
    leads_phrase distinctive_at (by decide)
  have names : Spells "@" (",".intercalate (quotedNames columns))
      (commaTokens (columns.map fun column => [.identifier column.name])) :=
    spells_commas distinctive_at fun column _ => spells_identifier distinctive_at column.name
  have head := ((((opening.spells_append (spells_identifier distinctive_at table)).leads_append
    columnRow (by decide)).spells_append names).leads_append valueRow (by decide))
  exact head.spells_append (spells_row distinctive_at spelled)

theorem exists_tuples {columns : List Column} {rows : List MemberValues}
    {literals : List (List Literal)}
    (made : List.Forall₂ (fun values row => columns.mapM (literalIn values) = .ok row)
      rows literals) :
    ∃ tuples, List.Forall₂ (Spells "@") (literals.map renderTuple) (tuples.map tupleTokens) ∧
      List.Forall₂ (fun values groups => List.Forall₂ (SaysStored values) columns groups)
        rows tuples := by
  induction made with
  | nil => exact ⟨[], .nil, .nil⟩
  | cons first _ induction =>
      rcases exists_groups (forall₂_of_mapM first) with ⟨groups, spelled, said⟩
      rcases induction with ⟨tuples, spells, others⟩
      exact ⟨groups :: tuples, .cons (spells_renderTuple spelled) spells, .cons said others⟩

theorem mem_columns_of_mem_persisted {schema : Schema} {column : Column}
    (persisted : column ∈ schema.persisted) : column ∈ schema.columns :=
  (List.mem_filter.mp persisted).1

theorem literals_of_insert {schema : Schema} (distinct : (schema.columns.map (·.member)).Nodup)
    {table : String} {rows : List MemberValues} {text : String}
    (accepted : insert schema table rows = .ok text) :
    ∃ literals,
      List.Forall₂ (fun values row => schema.persisted.mapM (literalIn values) = .ok row)
        rows literals ∧ renderInsert table schema.persisted literals = text := by
  rw [insert] at accepted
  split at accepted
  next => contradiction
  next =>
      rcases except_bind_eq_ok.mp accepted with ⟨literals, made, rendered⟩
      refine ⟨literals, (forall₂_of_mapM made).imp ?_, Except.ok.inj rendered⟩
      intro values row written
      rwa [literalsFor_eq distinct fun _ => mem_columns_of_mem_persisted] at written

/-- Whatever rows a statement inserts, its literals say of every persisted column what a draft
binds for it when it inserts the same row. The members are distinct, as those of every accepted
declaration are. -/
theorem insert_says_bound_values {schema : Schema}
    (distinct : (schema.columns.map (·.member)).Nodup) {table : String}
    {rows : List MemberValues} {text : String} (accepted : insert schema table rows = .ok text) :
    ∃ tuples, Token.read? "@" text = some (insertTokens table schema.persisted tuples) ∧
      List.Forall₂ (fun values groups => groups.length = schema.persisted.length ∧
          ∀ {draft next : Draft}, draft.schema = schema →
            (draft.apply (.insertRow values)).1 = .ok next →
            ∃ writes, next.inserts = draft.inserts ++ writes ∧
              List.Forall₂ (fun (column, tokens) write =>
                SaysBound next.bindings column tokens write)
                (schema.persisted.zip groups) writes)
        rows tuples := by
  rcases literals_of_insert distinct accepted with ⟨literals, made, rfl⟩
  rcases exists_tuples made with ⟨tuples, spelled, said⟩
  refine ⟨tuples, (spells_renderInsert table schema.persisted spelled).read?, said.imp ?_⟩
  intro values groups said
  refine ⟨said.length_eq.symm, ?_⟩
  intro draft next same applied
  cases Draft.takes_of_apply applied with
  | insertRow yields =>
      rw [Write.compileRow, same] at yields
      exact ⟨_, rfl, saysBound_row said (Write.stores_compileColumns yields).2⟩

open Condition (visits opening)

def visitAt (moment : DateTime) : MemberValues := [("Id", .int 1), ("At", .dateTime moment)]

def draftOf (moment : DateTime) : Draft :=
  { Draft.empty visits .default with
    kind := .insert
    inserts := [⟨"at", .placeholder "@p0"⟩]
    bindings := { sigil := "@", next := 1, entries := [("@p0", .dateTime moment)] } }

def openingText : String :=
  "INSERT INTO \x60visit\x60 (\x60at\x60) VALUES ('2024-03-01 08:30:00')"

theorem insert_says_bound_values_visits :
    insert visits "visit" [visitAt opening] = .ok openingText ∧
    ((Draft.empty visits .default).apply (.insertRow (visitAt opening))).1 =
      .ok (draftOf opening) ∧
    ∃ tokens, Token.read? "@" openingText =
        some (insertTokens "visit" visits.persisted [[tokens]]) ∧
      Datum.read? .dateTime tokens = some (.dateTime opening) := by
  have inserted : insert visits "visit" [visitAt opening] = .ok openingText := by rfl
  have applied : ((Draft.empty visits .default).apply (.insertRow (visitAt opening))).1 =
      .ok (draftOf opening) := by rfl
  refine ⟨inserted, applied, ?_⟩
  have distinct : (visits.columns.map (·.member)).Nodup := by decide
  rcases insert_says_bound_values distinct inserted with ⟨tuples, read, rows⟩
  cases rows with
  | cons row none =>
      cases none
      rcases row with ⟨length, bound⟩
      rcases List.length_eq_one_iff.mp length with ⟨tokens, rfl⟩
      refine ⟨tokens, read, ?_⟩
      rcases bound rfl applied with ⟨writes, added, said⟩
      rcases (added : [⟨"at", .placeholder "@p0"⟩] = writes) with rfl
      cases said with
      | cons first _ =>
          rcases first.value with ⟨name, value, named, holds, _, whole⟩
          rcases Term.placeholder.inj named with rfl
          rcases Option.some.inj holds.2 with rfl
          exact whole.mpr (.inl rfl)

/-- Half a second later the literal is the same, while the draft binds the later moment. -/
def afterOpening : DateTime :=
  ⟨{ opening.fields with nanosecond := 500000000 }, by decide, by decide⟩

theorem literal_ne_bound_of_fraction :
    insert visits "visit" [visitAt afterOpening] = .ok openingText ∧
      ((Draft.empty visits .default).apply (.insertRow (visitAt afterOpening))).1 =
        .ok (draftOf afterOpening) ∧
      Token.read? "@" openingText =
        some (insertTokens "visit" visits.persisted [[[.literal "2024-03-01 08:30:00"]]]) ∧
      Datum.read? .dateTime [.literal "2024-03-01 08:30:00"] = some (.dateTime opening) ∧
      opening ≠ afterOpening := by
  have tuple : Spells "@" (renderTuple [.text "2024-03-01 08:30:00"])
      (tupleTokens [[.literal "2024-03-01 08:30:00"]]) :=
    spells_renderTuple (.cons (spells_text distinctive_at _) .nil)
  have statement : Spells "@"
      (renderInsert "visit" visits.persisted [[.text "2024-03-01 08:30:00"]])
      (insertTokens "visit" visits.persisted [[[.literal "2024-03-01 08:30:00"]]]) :=
    spells_renderInsert _ _ (.cons tuple .nil)
  exact ⟨by rfl, by rfl, statement.read?, by rfl, by decide⟩

end Bulk

end BoundSql.Sql
