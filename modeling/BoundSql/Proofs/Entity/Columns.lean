import BoundSql.Proofs.Bulk.Reading
import BoundSql.Proofs.Entity.ColumnName
import BoundSql.Session.Row

/-!
The columns of accepted declarations. The members of a declaration are distinct, but two of them may
be mapped to one column; exactly then a write of a whole row names a column twice, and a row holds
one value for both. The main statement is `namesColumns_of_resolve`.
-/

namespace BoundSql.Entity

open Sql

/-! ## Accepted declarations -/

theorem columnsOf_eq_ok {entity : String} {seen : List String} {known : Bool}
    {members : List MemberDeclaration} {columns : List Column}
    (made : columnsOf entity seen known members = .ok columns) :
    (∀ member ∈ members, member.name ∉ seen) ∧ (members.map (·.name)).Nodup ∧
      List.Forall₂ (fun member column => column.member = member.name ∧
        column.name = columnName member.name) members columns := by
  induction members generalizing seen known columns with
  | nil =>
      rcases Except.ok.inj made with rfl
      exact ⟨by simp, .nil, .nil⟩
  | cons member members induction =>
      rw [columnsOf] at made
      split at made
      next => contradiction
      next fresh =>
          cases rest : columnsOf entity (member.name :: seen)
              (known || (member.toColumn known).isIdentity) members with
          | error e => simp [rest, Bind.bind, Except.bind] at made
          | ok others =>
              simp only [rest, Bind.bind, Except.bind, Pure.pure, Except.pure,
                Except.ok.injEq] at made
              subst made
              rcases induction rest with ⟨later, distinct, mapped⟩
              have unseen : member.name ∉ seen := by simpa using fresh
              refine ⟨List.forall_mem_cons.mpr ⟨unseen, fun other among => ?_⟩, ?_, ?_⟩
              · exact fun inside => later other among (List.mem_cons_of_mem _ inside)
              · rw [List.map_cons, List.nodup_cons, List.mem_map]
                refine ⟨?_, distinct⟩
                rintro ⟨other, among, same⟩
                exact later other among (same ▸ List.mem_cons_self ..)
              · exact .cons ⟨rfl, rfl⟩ mapped

theorem exists_columnsOf {entity : String} {seen : List String} (known : Bool)
    {members : List MemberDeclaration} (fresh : ∀ member ∈ members, member.name ∉ seen)
    (distinct : (members.map (·.name)).Nodup) :
    ∃ columns, columnsOf entity seen known members = .ok columns := by
  induction members generalizing seen known with
  | nil => exact ⟨[], rfl⟩
  | cons member members induction =>
      rcases List.forall_mem_cons.mp fresh with ⟨unseen, others⟩
      rw [List.map_cons, List.nodup_cons] at distinct
      have further : ∀ other ∈ members, other.name ∉ member.name :: seen := by
        intro other among inside
        rcases List.mem_cons.mp inside with same | inside
        · exact distinct.1 (same ▸ List.mem_map_of_mem among)
        · exact others other among inside
      rcases induction (known || (member.toColumn known).isIdentity) further distinct.2 with
        ⟨columns, made⟩
      refine ⟨member.toColumn known :: columns, ?_⟩
      rw [columnsOf, if_neg (by simpa using unseen)]
      simp [made, Bind.bind, Except.bind, Pure.pure, Except.pure]

theorem checkTableName_eq_ok_iff {name : String} :
    checkTableName name = .ok () ↔ isTableName name = true := by
  simp [checkTableName]

theorem checkTables_eq_ok_iff {names : List String} :
    names.forM checkTableName = .ok () ↔ ∀ name ∈ names, isTableName name = true := by
  simp only [forM_eq_ok_iff, checkTableName_eq_ok_iff]

theorem resolve_eq_ok_iff {declaration : Declaration} {schema : Schema} :
    Schema.resolve declaration = .ok schema ↔
      declaration.candidates = schema.tables ∧
        (∀ name ∈ schema.tables, isTableName name = true) ∧ schema.entity = declaration.name ∧
        columnsOf declaration.name [] false declaration.members = .ok schema.columns := by
  rw [Schema.resolve]
  split
  next none => simp [none, Schema.tables]
  next first others candidates =>
      rw [candidates, except_bind_eq_ok]
      simp only [except_bind_eq_ok]
      rcases schema with ⟨entity, table, tables, columns⟩
      constructor
      · rintro ⟨_, sound, _, made, same⟩
        rcases Except.ok.inj same with ⟨⟩
        exact ⟨rfl, checkTables_eq_ok_iff.mp sound, rfl, made⟩
      · rintro ⟨same, sound, rfl, made⟩
        rcases same with ⟨⟩
        exact ⟨(), checkTables_eq_ok_iff.mpr sound, columns, made, rfl⟩

theorem exists_resolve_iff {declaration : Declaration} :
    (∃ schema, Schema.resolve declaration = .ok schema) ↔
      declaration.candidates ≠ [] ∧
        (∀ name ∈ declaration.candidates, isTableName name = true) ∧
        (declaration.members.map (·.name)).Nodup := by
  simp only [resolve_eq_ok_iff]
  constructor
  · rintro ⟨schema, same, sound, -, made⟩
    rw [same]
    exact ⟨List.cons_ne_nil _ _, sound, (columnsOf_eq_ok made).2.1⟩
  · rintro ⟨some, sound, distinct⟩
    have fresh : ∀ member ∈ declaration.members, member.name ∉ [] := fun _ _ => List.not_mem_nil
    rcases @exists_columnsOf declaration.name [] false _ fresh distinct with ⟨columns, made⟩
    rcases List.exists_cons_of_ne_nil some with ⟨table, others, same⟩
    rw [same] at sound
    exact ⟨⟨declaration.name, table, others, columns⟩, same, sound, rfl, made⟩

/-! ## Shared columns -/

def Separates (columns : List Column) : Prop :=
  ∀ a ∈ columns, ∀ b ∈ columns, a.name = b.name → a.member = b.member

theorem nodup_names_iff {columns : List Column} (distinct : (columns.map (·.member)).Nodup) :
    (columns.map (·.name)).Nodup ↔ Separates columns := by
  rw [List.nodup_map_iff_inj_on distinct.of_map]
  constructor
  · intro injective a inside b inside' same
    rw [injective a inside b inside' same]
  · intro separates a inside b inside' same
    exact List.inj_on_of_nodup_map distinct inside inside' (separates a inside b inside' same)

theorem nodup_persisted {schema : Schema} (distinct : (schema.columns.map (·.member)).Nodup) :
    (schema.persisted.map (·.member)).Nodup :=
  distinct.sublist (List.filter_sublist.map _)

theorem nodup_key_persisted {schema : Schema} {key : Column} (found : schema.key? = some key)
    (distinct : (schema.columns.map (·.member)).Nodup) :
    ((key :: schema.persisted).map (·.member)).Nodup := by
  rw [List.map_cons, List.nodup_cons]
  refine ⟨?_, nodup_persisted distinct⟩
  intro among
  rcases List.mem_map.mp among with ⟨column, persisted, same⟩
  have equal := List.inj_on_of_nodup_map distinct (Bulk.mem_columns_of_mem_persisted persisted)
    (List.mem_of_find?_eq_some found) same
  have isKey := List.find?_some found
  rw [← equal, isKey_of_mem_persisted persisted] at isKey
  contradiction

/-! ## Rows -/

open Session (Row)

def rowOf (values : String → Value) (columns : List Column) (row : Row) : Row :=
  columns.foldl (fun row column => row.insert column.name (values column.member)) row

theorem get?_rowOf_of_not_mem {columns : List Column} {name : String}
    (other : name ∉ columns.map (·.name)) (values : String → Value) (row : Row) :
    (rowOf values columns row).get? name = row.get? name := by
  induction columns generalizing row with
  | nil => rfl
  | cons column columns induction =>
      simp only [List.map_cons, List.mem_cons, not_or] at other
      have later := induction other.2 (row.insert column.name (values column.member))
      exact later.trans (NamedValues.lookup_put_of_ne other.1 _ _)

theorem get?_rowOf {columns : List Column} (separates : Separates columns)
    (values : String → Value) (row : Row) :
    ∀ column ∈ columns,
      (rowOf values columns row).get? column.name = some (values column.member) := by
  induction columns generalizing row with
  | nil => simp
  | cons first columns induction =>
      have later := induction (fun a inside b inside' => separates a (List.mem_cons_of_mem _ inside)
        b (List.mem_cons_of_mem _ inside')) (row.insert first.name (values first.member))
      refine List.forall_mem_cons.mpr ⟨?_, later⟩
      by_cases again : first.name ∈ columns.map (·.name)
      · rcases List.mem_map.mp again with ⟨column, among, same⟩
        have member := separates column (List.mem_cons_of_mem _ among) first
          (List.mem_cons_self ..) same
        rw [← same, ← member]
        exact later column among
      · have kept := get?_rowOf_of_not_mem again values
          (row.insert first.name (values first.member))
        exact kept.trans (Row.get?_insert ..)

theorem get?_rowOf_iff (columns : List Column) :
    (∀ values : String → Value, ∀ column ∈ columns,
      (rowOf values columns {}).get? column.name = some (values column.member)) ↔
      Separates columns := by
  constructor
  · intro kept a inside b inside' same
    have first := kept (fun member => .bool (member = b.member)) a inside
    have second := kept (fun member => .bool (member = b.member)) b inside'
    rw [same, second] at first
    simpa [eq_comm] using first
  · intro separates values
    exact get?_rowOf separates values {}

/-! ## Statements -/

/-- A list of names that has one for every column, and none twice exactly if the columns are kept
apart. -/
structure NamesEach (columns : List Column) (names : List String) : Prop where
  inOrder : names = columns.map (·.name)
  nodup : names.Nodup ↔ Separates columns

theorem namesEach {columns : List Column} {names : List String}
    (distinct : (columns.map (·.member)).Nodup) (inOrder : names = columns.map (·.name)) :
    NamesEach columns names :=
  ⟨inOrder, inOrder ▸ nodup_names_iff distinct⟩

structure NamesColumns (declaration : Declaration) (schema : Schema) : Prop where
  members : schema.columns.map (·.member) = declaration.members.map (·.name)
  distinct : (schema.columns.map (·.member)).Nodup
  mapped : ∀ column ∈ schema.columns, column.name = columnName column.member
  nodup : (schema.columns.map (·.name)).Nodup ↔ Separates schema.columns
  ascii : ∀ a ∈ schema.columns, ∀ b ∈ schema.columns,
    IsAscii a.member.toList → IsAscii b.member.toList →
      (a.name = b.name ↔ smallWords a.member = smallWords b.member)
  insertRow : ∀ draft next : Draft, ∀ values, draft.schema = schema →
    (draft.apply (.insertRow values)).1 = .ok next →
      ∃ writes, next.inserts = draft.inserts ++ writes ∧
        NamesEach schema.persisted (writes.map (·.column))
  updateRow : ∀ draft next : Draft, ∀ values, draft.schema = schema →
    (draft.apply (.updateRow values)).1 = .ok next →
      ∃ writes, next.updates = draft.updates ++ writes ∧
        NamesEach schema.persisted (writes.map (·.column))
  bulkInsert : ∀ table rows text, Bulk.insert schema table rows = .ok text →
    ∃ inserted, (Token.read? "@" text).bind Bulk.Inserted.ofTokens? = some inserted ∧
      NamesEach schema.persisted inserted.columns
  bulkUpdate : ∀ table rows text key, schema.key? = some key →
    Bulk.update schema table rows = .ok text →
      ∃ updated, (Token.read? "@" text).bind Bulk.Updated.ofTokens? = some updated ∧
        NamesEach schema.persisted (updated.sets.map Prod.fst) ∧
        ∀ select ∈ updated.selects, NamesEach (key :: schema.persisted) (select.map Prod.snd)
  rows : (∀ values : String → Value, ∀ column ∈ schema.columns,
      (rowOf values schema.columns {}).get? (columnName column.member) =
        some (values column.member)) ↔
    Separates schema.columns

theorem columns_of_stores {values : MemberValues} {columns : List Column} {bindings : Bindings}
    {writes : List Write}
    (stores : List.Forall₂ (fun column write => write.Stores values bindings column)
      columns writes) : writes.map (·.column) = columns.map (·.name) := by
  induction stores with
  | nil => rfl
  | cons first _ induction => rw [List.map_cons, List.map_cons, first.column, induction]

section

variable {schema : Schema} {table text : String} {rows : List MemberValues}

theorem namesEach_of_bulkInsert (distinct : (schema.columns.map (·.member)).Nodup)
    (accepted : Bulk.insert schema table rows = .ok text) :
    ∃ inserted, (Token.read? "@" text).bind Bulk.Inserted.ofTokens? = some inserted ∧
      NamesEach schema.persisted inserted.columns := by
  have given : schema.persisted ≠ [] ∧ rows ≠ [] := by
    rw [Bulk.insert] at accepted
    split at accepted
    next => contradiction
    next given => simpa using given
  rcases (Bulk.readsInserted distinct given.1 given.2 accepted).statement with ⟨tuples, read, -⟩
  exact ⟨_, read, namesEach (nodup_persisted distinct) rfl⟩

theorem namesEach_of_bulkUpdate {key : Column} (found : schema.key? = some key)
    (distinct : (schema.columns.map (·.member)).Nodup)
    (accepted : Bulk.update schema table rows = .ok text) :
    ∃ updated, (Token.read? "@" text).bind Bulk.Updated.ofTokens? = some updated ∧
      NamesEach schema.persisted (updated.sets.map Prod.fst) ∧
      ∀ select ∈ updated.selects, NamesEach (key :: schema.persisted) (select.map Prod.snd) := by
  have given : schema.persisted ≠ [] ∧ rows ≠ [] := by
    rw [Bulk.update, found] at accepted
    dsimp only at accepted
    split at accepted
    next => contradiction
    next given => simpa using given
  rcases (Bulk.readsUpdated distinct found given.1 given.2 accepted).statement with
    ⟨data, read, rendered⟩
  refine ⟨_, read, namesEach (nodup_persisted distinct) (by simp), ?_⟩
  intro select among
  rcases List.mem_map.mp among with ⟨row, member, rfl⟩
  rcases forall₂_right rendered row member with ⟨values, -, each⟩
  apply namesEach (nodup_key_persisted found distinct)
  rw [List.map_snd_zip]
  rw [List.length_map, each.length_eq]

end

theorem namesColumns_of_resolve {declaration : Declaration} {schema : Schema}
    (resolved : Schema.resolve declaration = .ok schema) : NamesColumns declaration schema := by
  rcases columnsOf_eq_ok (resolve_eq_ok_iff.mp resolved).2.2.2 with ⟨-, nodup, made⟩
  have members : schema.columns.map (·.member) = declaration.members.map (·.name) := by
    rw [← List.forall₂_eq_eq_eq, List.forall₂_map_left_iff, List.forall₂_map_right_iff]
    exact made.flip.imp fun _ _ same => same.1
  have distinct : (schema.columns.map (·.member)).Nodup := members ▸ nodup
  have mapped : ∀ column ∈ schema.columns, column.name = columnName column.member := by
    intro column among
    rcases forall₂_right made column among with ⟨member, -, same, name⟩
    rw [name, same]
  have persisted := nodup_persisted distinct
  refine ⟨members, distinct, mapped, nodup_names_iff distinct, ?_, ?_, ?_, ?_, ?_, ?_⟩
  · intro a inside b inside' ascii ascii'
    rw [mapped a inside, mapped b inside', columnName_eq_iff ascii ascii']
  · rintro draft next values rfl applied
    cases Draft.takes_of_apply applied with
    | insertRow yields =>
        have stores := (Write.stores_compileColumns yields).2
        exact ⟨_, rfl, namesEach persisted (columns_of_stores stores)⟩
  · rintro draft next values rfl applied
    cases Draft.takes_of_apply applied with
    | updateRow yields =>
        have stores := (Write.stores_compileColumns yields).2
        exact ⟨_, rfl, namesEach persisted (columns_of_stores stores)⟩
  · exact fun table rows text => namesEach_of_bulkInsert distinct
  · exact fun table rows text key found => namesEach_of_bulkUpdate found distinct
  · rw [← get?_rowOf_iff]
    refine forall_congr' fun values => forall₂_congr fun column among => ?_
    rw [mapped column among]

def guestDeclaration : Declaration where
  name := "Guest"
  table := some "guests"
  members := [⟨"Id", .int, true, false, false⟩, ⟨"userName", .text, false, false, false⟩,
    ⟨"last_visit", .dateTime, false, false, false⟩]

theorem namesColumns_of_resolve_guests :
    ∃ schema, Schema.resolve guestDeclaration = .ok schema ∧
      NamesColumns guestDeclaration schema := by
  have resolved : Schema.resolve guestDeclaration = .ok
      ⟨"Guest", "guests", [], [⟨"Id", "id", .int, true, true, false, true⟩,
        ⟨"userName", "user_name", .text, false, false, false, true⟩,
        ⟨"last_visit", "last_visit", .dateTime, false, false, false, true⟩]⟩ := by rfl
  exact ⟨_, resolved, namesColumns_of_resolve resolved⟩

/-- A user with one name in two spellings. -/
def twiceNamed : Declaration where
  name := "User"
  table := some "user"
  members := [⟨"UserName", .text, false, false, false⟩, ⟨"user_name", .text, false, false, false⟩]

/-- Two spellings of one name are accepted as two members, and written to one column. -/
theorem resolve_twiceNamed :
    ∃ schema, Schema.resolve twiceNamed = .ok schema ∧
      ¬ (schema.columns.map (·.name)).Nodup ∧
      Bulk.insert schema "user" [[("UserName", .text "a"), ("user_name", .text "b")]] =
        .ok "INSERT INTO \x60user\x60 (\x60user_name\x60,\x60user_name\x60) VALUES ('a','b')" := by
  have resolved : Schema.resolve twiceNamed = .ok
      ⟨"User", "user", [], [⟨"UserName", "user_name", .text, false, false, false, true⟩,
        ⟨"user_name", "user_name", .text, false, false, false, true⟩]⟩ := by rfl
  exact ⟨_, resolved, by decide, by rfl⟩

end BoundSql.Entity
