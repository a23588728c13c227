import BoundSql.Proofs.Entity.Columns

/-!
How a schema is derived from a declaration. The columns are made on one pass over the members, which
keeps the names it has met and the number of the identity column; the number always agrees with the
flags of the columns. The main statement is `resolve_decides`.
-/

namespace BoundSql.Entity

open Sql

/-! ## Items of a list -/

theorem exists_split_cons_iff {α : Type} {found : List α → α → Prop} {first : α}
    {rest : List α} :
    (∃ before item after, first :: rest = before ++ item :: after ∧ found before item) ↔
      found [] first ∨
        ∃ before item after, rest = before ++ item :: after ∧ found (first :: before) item := by
  constructor
  · rintro ⟨before, item, after, split, holds⟩
    cases before with
    | nil =>
        rcases List.cons.inj split with ⟨rfl, rfl⟩
        exact .inl holds
    | cons other before =>
        rcases List.cons.inj split with ⟨rfl, rfl⟩
        exact .inr ⟨before, item, after, rfl, holds⟩
  · rintro (holds | ⟨before, item, after, rfl, holds⟩)
    · exact ⟨[], first, rest, rfl, holds⟩
    · exact ⟨first :: before, item, after, rfl, holds⟩

/-! ## One pass over the members -/

/-- What is known after some members: their names, the number of the identity column, and the
columns made of them. -/
structure Pass where
  seen : List String := []
  identityIndex : Option Nat := none
  columns : List Column := []

namespace Pass

def nextColumn (pass : Pass) (member : MemberDeclaration) : Column :=
  member.toColumn pass.identityIndex.isSome

def record (pass : Pass) (member : MemberDeclaration) : Pass where
  seen := member.name :: pass.seen
  identityIndex :=
    if (pass.nextColumn member).isIdentity then some pass.columns.length else pass.identityIndex
  columns := pass.columns ++ [pass.nextColumn member]

def take (entity : String) (pass : Pass) (member : MemberDeclaration) :
    Except SchemaError Pass :=
  if pass.seen.contains member.name then .error (.duplicateMember entity member.name)
  else .ok (pass.record member)

def takeAll (entity : String) (pass : Pass) (members : List MemberDeclaration) :
    Except SchemaError Pass :=
  members.foldlM (take entity) pass

theorem takeAll_cons (entity : String) (pass : Pass) (member : MemberDeclaration)
    (members : List MemberDeclaration) :
    pass.takeAll entity (member :: members) =
      if member.name ∈ pass.seen then .error (.duplicateMember entity member.name)
      else (pass.record member).takeAll entity members := by
  rw [takeAll, List.foldlM_cons, take]
  by_cases met : member.name ∈ pass.seen
  · simp [met, Bind.bind, Except.bind]
  · simp [met, Bind.bind, Except.bind, takeAll]

theorem isSome_identityIndex_record (pass : Pass) (member : MemberDeclaration) :
    (pass.record member).identityIndex.isSome =
      (pass.identityIndex.isSome || (pass.nextColumn member).isIdentity) := by
  rw [record]
  cases (pass.nextColumn member).isIdentity <;> simp

theorem columns_takeAll (entity : String) (pass : Pass) (members : List MemberDeclaration) :
    (pass.takeAll entity members).map Pass.columns =
      (columnsOf entity pass.seen pass.identityIndex.isSome members).map (pass.columns ++ ·) := by
  induction members generalizing pass with
  | nil => simp [takeAll, columnsOf, Pure.pure, Except.pure, Except.map]
  | cons member members induction =>
      rw [takeAll_cons, columnsOf]
      by_cases met : member.name ∈ pass.seen
      · simp [met, Except.map]
      · have rest := induction (pass.record member)
        rw [isSome_identityIndex_record] at rest
        rw [if_neg met, if_neg (by simpa using met), rest]
        simp only [record, nextColumn]
        cases columnsOf entity (member.name :: pass.seen)
          (pass.identityIndex.isSome || (member.toColumn pass.identityIndex.isSome).isIdentity)
          members with
        | error e => rfl
        | ok columns => simp [Except.map, Bind.bind, Except.bind, Pure.pure, Except.pure]

end Pass

/-! ## What a pass knows -/

/-- Whether a column is that of a member, its part as the identity aside. -/
structure Column.Describes (column : Column) (declared : MemberDeclaration) : Prop where
  member : column.member = declared.name
  name : column.name = columnName declared.name
  kind : column.kind = declared.kind
  isKey : column.isKey = declared.isKey
  isComputed : column.isComputed = declared.isComputed
  isWritable : column.isWritable = !declared.isReadOnly

def Column.isWritableKey (column : Column) : Bool := column.isKey && column.isWritable

namespace Pass

/-- The remembered number is that of the first writable key, and the only flag is on its column. -/
structure Knows (pass : Pass) (members : List MemberDeclaration) : Prop where
  seen : ∀ name, name ∈ pass.seen ↔ name ∈ members.map (·.name)
  distinct : (members.map (·.name)).Nodup
  describes : List.Forall₂ Column.Describes pass.columns members
  identity : pass.identityIndex = pass.columns.findIdx? (·.isWritableKey)
  flags : ∀ (index : Nat) (column : Column), pass.columns[index]? = some column →
    (column.isIdentity = true ↔ pass.identityIndex = some index)

theorem knows_empty : ({} : Pass).Knows [] :=
  ⟨by simp, .nil, .nil, rfl, by simp⟩

theorem isIdentity_nextColumn (pass : Pass) (member : MemberDeclaration) :
    (pass.nextColumn member).isIdentity =
      (pass.identityIndex.isNone && (pass.nextColumn member).isWritableKey) := by
  simp [nextColumn, MemberDeclaration.toColumn, Column.isWritableKey, Bool.and_assoc]

theorem identityIndex_record (pass : Pass) (member : MemberDeclaration) :
    (pass.record member).identityIndex = pass.identityIndex.or
      (if (pass.nextColumn member).isWritableKey then some pass.columns.length else none) := by
  rw [record]
  dsimp only
  rw [isIdentity_nextColumn]
  cases pass.identityIndex <;> simp

theorem Knows.identityIndex_lt {pass : Pass} {members : List MemberDeclaration}
    (knows : pass.Knows members) {index : Nat} (found : pass.identityIndex = some index) :
    index < pass.columns.length := by
  rw [knows.identity] at found
  exact (List.findIdx?_eq_some_iff_getElem.mp found).1

theorem Knows.flags_record {pass : Pass} {members : List MemberDeclaration}
    (knows : pass.Knows members) (member : MemberDeclaration) {index : Nat} {column : Column}
    (among : (pass.record member).columns[index]? = some column) :
    column.isIdentity = true ↔ (pass.record member).identityIndex = some index := by
  rw [identityIndex_record]
  rw [Pass.record] at among
  dsimp only at among
  rcases Nat.lt_or_ge index pass.columns.length with inside | outside
  · rw [List.getElem?_append_left inside] at among
    have flag := knows.flags index column among
    cases known : pass.identityIndex with
    | some number => rw [flag, known, Option.some_or]
    | none =>
        have other : pass.columns.length ≠ index := by omega
        rw [flag, known, Option.none_or]
        simp [other]
  · rw [List.getElem?_append_right outside, List.getElem?_singleton] at among
    have last : index = pass.columns.length := by
      split at among
      next zero => omega
      next => contradiction
    subst last
    rw [if_pos (Nat.sub_self _)] at among
    rcases Option.some.inj among with rfl
    rw [isIdentity_nextColumn]
    cases known : pass.identityIndex with
    | some number =>
        have other := Nat.ne_of_lt (knows.identityIndex_lt known)
        simp [other]
    | none => simp

theorem Knows.record {pass : Pass} {members : List MemberDeclaration}
    (knows : pass.Knows members) {member : MemberDeclaration} (fresh : member.name ∉ pass.seen) :
    (pass.record member).Knows (members ++ [member]) := by
  constructor
  · intro name
    rw [Pass.record, List.mem_cons, knows.seen, List.map_append, List.mem_append]
    simp [or_comm]
  · rw [List.map_append, List.nodup_append]
    refine ⟨knows.distinct, List.nodup_singleton _, ?_⟩
    rintro name among _ last rfl
    rw [List.map_singleton, List.mem_singleton] at last
    exact fresh ((knows.seen _).mpr (last ▸ among))
  · exact List.rel_append knows.describes (.cons ⟨rfl, rfl, rfl, rfl, rfl, rfl⟩ .nil)
  · rw [identityIndex_record, knows.identity, Pass.record, List.findIdx?_append]
    congr 1
    simp [List.findIdx?_cons]
  · exact fun index column => knows.flags_record member

theorem Knows.takeAll {entity : String} {pass last : Pass}
    {earlier members : List MemberDeclaration} (knows : pass.Knows earlier) (taken : pass.takeAll entity members = .ok last) :
    last.Knows (earlier ++ members) := by
  induction members generalizing pass earlier with
  | nil =>
      rcases Except.ok.inj taken with rfl
      rwa [List.append_nil]
  | cons member members induction =>
      rw [takeAll_cons] at taken
      split at taken
      next => contradiction
      next fresh =>
          have further := induction (knows.record fresh) taken
          rwa [List.append_assoc] at further

theorem Knows.takeAll_eq_error_iff {entity : String} {pass : Pass}
    {earlier members : List MemberDeclaration} (knows : pass.Knows earlier) {error : SchemaError} :
    pass.takeAll entity members = .error error ↔
      ∃ before member after, members = before ++ member :: after ∧
        ((earlier ++ before).map (·.name)).Nodup ∧
        member.name ∈ (earlier ++ before).map (·.name) ∧
        error = .duplicateMember entity member.name := by
  induction members generalizing pass earlier with
  | nil =>
      constructor
      · intro failed
        contradiction
      · rintro ⟨before, member, after, split, -⟩
        simp at split
  | cons next members induction =>
      rw [takeAll_cons, exists_split_cons_iff]
      split
      next met =>
          rw [knows.seen] at met
          have repeated (before : List MemberDeclaration) :
              ¬ ((earlier ++ next :: before).map (·.name)).Nodup := by
            intro distinct
            rw [List.map_append, List.map_cons, List.nodup_append] at distinct
            exact absurd rfl (distinct.2.2 _ met _ (List.mem_cons_self ..))
          simp only [List.append_nil, knows.distinct, met, repeated, Except.error.injEq, true_and,
            false_and, and_false, exists_false, or_false, eq_comm (a := error)]
      next fresh =>
          rw [induction (knows.record fresh)]
          rw [knows.seen] at fresh
          simp only [List.append_assoc, List.singleton_append, List.append_nil, fresh, false_and,
            and_false, false_or]

end Pass

/-! ## Refused declarations -/

/-- Why a declaration is refused. The tables are checked before the members, each in order. -/
inductive Flaw (declaration : Declaration) : SchemaError → Prop
  | noTable (none : declaration.candidates = []) : Flaw declaration (.noTable declaration.name)
  | table {before after : List String} {name : String}
      (split : declaration.candidates = before ++ name :: after)
      (sound : ∀ table ∈ before, isTableName table = true) (unsound : isTableName name = false) :
      Flaw declaration (.invalidTableName name)
  | member {before after : List MemberDeclaration} {member : MemberDeclaration}
      (some : declaration.candidates ≠ [])
      (sound : ∀ table ∈ declaration.candidates, isTableName table = true)
      (split : declaration.members = before ++ member :: after)
      (distinct : (before.map (·.name)).Nodup) (again : member.name ∈ before.map (·.name)) :
      Flaw declaration (.duplicateMember declaration.name member.name)

theorem checkTables_eq_error_iff {names : List String} {error : SchemaError} :
    names.forM checkTableName = .error error ↔
      ∃ before name after, names = before ++ name :: after ∧
        (∀ table ∈ before, isTableName table = true) ∧ isTableName name = false ∧
        error = .invalidTableName name := by
  induction names with
  | nil =>
      constructor
      · intro failed
        contradiction
      · rintro ⟨before, name, after, split, -⟩
        simp at split
  | cons first names induction =>
      rw [List.forM_eq_forM, List.forM_cons, except_bind_eq_error, ← List.forM_eq_forM, induction,
        exists_split_cons_iff, checkTableName]
      cases sound : isTableName first with
      | false => simp [sound, eq_comm (a := error)]
      | true => simp [sound]

theorem columnsOf_eq (entity : String) (members : List MemberDeclaration) :
    columnsOf entity [] false members = (({} : Pass).takeAll entity members).map Pass.columns := by
  have made := Pass.columns_takeAll entity {} members
  dsimp only [Option.isSome_none, List.nil_append] at made
  rw [made]
  cases columnsOf entity [] false members <;> rfl

theorem columnsOf_eq_ok_iff {entity : String} {members : List MemberDeclaration}
    {columns : List Column} :
    columnsOf entity [] false members = .ok columns ↔
      ∃ pass, ({} : Pass).takeAll entity members = .ok pass ∧ pass.columns = columns := by
  rw [columnsOf_eq]
  cases ({} : Pass).takeAll entity members <;> simp [Except.map]

theorem columnsOf_eq_error_iff {entity : String} {members : List MemberDeclaration}
    {error : SchemaError} :
    columnsOf entity [] false members = .error error ↔
      ∃ before member after, members = before ++ member :: after ∧
        (before.map (·.name)).Nodup ∧ member.name ∈ before.map (·.name) ∧
        error = .duplicateMember entity member.name := by
  have stops := @Pass.Knows.takeAll_eq_error_iff entity _ _ members Pass.knows_empty error
  simp only [List.nil_append] at stops
  rw [columnsOf_eq, ← stops]
  cases ({} : Pass).takeAll entity members <;> simp [Except.map]

theorem resolve_eq_error_iff {declaration : Declaration} {error : SchemaError} :
    Schema.resolve declaration = .error error ↔ Flaw declaration error := by
  rw [Schema.resolve]
  split
  next none =>
      constructor
      · rintro ⟨⟩
        exact .noTable none
      · rintro (none | split | some)
        · rfl
        · simp [none] at split
        · exact absurd none some
  next first others candidates =>
      rw [← candidates, except_bind_eq_error, checkTables_eq_error_iff]
      simp only [except_bind_eq_error, columnsOf_eq_error_iff]
      constructor
      · rintro (⟨before, name, after, split, sound, unsound, rfl⟩ |
          ⟨_, sound, ⟨before, member, after, split, distinct, again, rfl⟩ | ⟨columns, -, failed⟩⟩)
        · exact .table split sound unsound
        · exact .member (candidates ▸ List.cons_ne_nil _ _) (checkTables_eq_ok_iff.mp sound) split
            distinct again
        · contradiction
      · rintro (none | ⟨split, sound, unsound⟩ | ⟨-, sound, split, distinct, again⟩)
        · rw [none] at candidates
          contradiction
        · exact .inl ⟨_, _, _, split, sound, unsound, rfl⟩
        · exact .inr ⟨(), checkTables_eq_ok_iff.mpr sound,
            .inl ⟨_, _, _, split, distinct, again, rfl⟩⟩

/-! ## Accepted declarations -/

namespace Pass.Knows

variable {pass : Pass} {members : List MemberDeclaration} (knows : pass.Knows members)

include knows

theorem identityIndex_eq : pass.identityIndex = pass.columns.findIdx? (·.isIdentity) := by
  symm
  cases known : pass.identityIndex with
  | none =>
      rw [List.findIdx?_eq_none_iff]
      intro column among
      rcases List.mem_iff_getElem?.mp among with ⟨index, found⟩
      have flag := knows.flags index column found
      rw [known] at flag
      simpa using flag
  | some number =>
      have inside := knows.identityIndex_lt known
      rw [List.findIdx?_eq_some_iff_getElem]
      refine ⟨inside, ?_, ?_⟩
      · exact (knows.flags number _ (List.getElem?_eq_getElem inside)).mpr known
      · intro index before flagged
        have here := List.getElem?_eq_getElem (Nat.lt_trans before inside)
        have same := (knows.flags index _ here).mp flagged
        rw [known, Option.some.injEq] at same
        omega

theorem nodup_columns : (pass.columns.map (·.member)).Nodup := by
  have members : pass.columns.map (·.member) = members.map (·.name) := by
    rw [← List.forall₂_eq_eq_eq, List.forall₂_map_left_iff, List.forall₂_map_right_iff]
    exact knows.describes.imp fun _ _ describes => describes.member
  rw [members]
  exact knows.distinct

theorem countP_isIdentity_le : pass.columns.countP (·.isIdentity) ≤ 1 := by
  rw [List.countP_eq_length_filter]
  have distinct := knows.nodup_columns.of_map.filter (·.isIdentity)
  have same : ∀ a ∈ pass.columns.filter (·.isIdentity), ∀ b ∈ pass.columns.filter (·.isIdentity),
      a = b := by
    intro a first b second
    rw [List.mem_filter] at first second
    rcases List.mem_iff_getElem?.mp first.1 with ⟨index, found⟩
    rcases List.mem_iff_getElem?.mp second.1 with ⟨index', found'⟩
    have known := (knows.flags index a found).mp first.2
    have known' := (knows.flags index' b found').mp second.2
    rw [known, Option.some.injEq] at known'
    rw [known', found', Option.some.injEq] at found
    exact found.symm
  cases flagged : pass.columns.filter (·.isIdentity) with
  | nil => exact Nat.zero_le 1
  | cons a others =>
      cases others with
      | nil => exact Nat.le_refl 1
      | cons b others =>
          rw [flagged] at same distinct
          have equal := same a (List.mem_cons_self ..) b (by simp)
          simp [equal] at distinct

end Pass.Knows

structure Schema.DerivesFrom (schema : Schema) (declaration : Declaration) : Prop where
  entity : schema.entity = declaration.name
  tables : schema.tables = declaration.candidates
  columns : List.Forall₂ Column.Describes schema.columns declaration.members
  column? : ∀ member column, schema.column? member = some column ↔
    column ∈ schema.columns ∧ column.member = member
  atMostOne : schema.columns.countP (·.isIdentity) ≤ 1
  flagged : ∀ column ∈ schema.columns,
    column.isIdentity = true ↔ schema.identity? = some column
  identity? : schema.identity? = schema.columns.find? (·.isWritableKey)
  remembered : ∃ pass, ({} : Pass).takeAll declaration.name declaration.members = .ok pass ∧
    pass.columns = schema.columns ∧ pass.identityIndex = schema.identityIndex?
  inRange : ∀ index, schema.identityIndex? = some index →
    ∃ inside : index < schema.columns.length, schema.identity? = some schema.columns[index]
  persisted : schema.persisted.Sublist schema.columns
  mem_persisted : ∀ column, column ∈ schema.persisted ↔ column ∈ schema.columns ∧
    column.isWritable = true ∧ column.isKey = false ∧ column.isComputed = false
  notPersisted : ∀ column, schema.identity? = some column → column ∉ schema.persisted

theorem derivesFrom_of_pass {declaration : Declaration} {schema : Schema} {pass : Pass}
    (entity : schema.entity = declaration.name) (tables : schema.tables = declaration.candidates)
    (columns : pass.columns = schema.columns)
    (taken : ({} : Pass).takeAll declaration.name declaration.members = .ok pass) :
    schema.DerivesFrom declaration := by
  have knows := Pass.knows_empty.takeAll taken
  rw [List.nil_append] at knows
  have index : pass.identityIndex = schema.identityIndex? := by
    rw [knows.identityIndex_eq, columns]
    rfl
  have found : schema.identity? = schema.identityIndex?.bind (schema.columns[·]?) :=
    List.find?_eq_bind_findIdx?_getElem?
  have inRange (number : Nat) (known : schema.identityIndex? = some number) :
      ∃ inside : number < schema.columns.length,
        schema.identity? = some schema.columns[number] := by
    have inside := knows.identityIndex_lt (index.trans known)
    rw [columns] at inside
    refine ⟨inside, ?_⟩
    rw [found, known, Option.bind_some, List.getElem?_eq_getElem inside]
  have first : schema.identity? = schema.columns.find? (·.isWritableKey) := by
    rw [found, ← index, knows.identity, columns]
    exact List.find?_eq_bind_findIdx?_getElem?.symm
  have describes := knows.describes
  have distinct := knows.nodup_columns
  have single := knows.countP_isIdentity_le
  rw [columns] at describes distinct single
  refine ⟨entity, tables, describes, fun _ _ => column?_eq_some_iff distinct, single, ?_, first,
    ⟨pass, taken, columns, index⟩, inRange, List.filter_sublist, ?_, ?_⟩
  · intro column among
    constructor
    · intro flag
      rcases List.mem_iff_getElem?.mp among with ⟨number, here⟩
      have known := (knows.flags number column (columns ▸ here)).mp flag
      rw [found, ← index, known, Option.bind_some, here]
    · exact fun identity => List.find?_some identity
  · intro column
    rw [Schema.persisted, List.mem_filter, Column.isPersisted]
    simp [and_assoc]
  · intro column identity among
    rw [first] at identity
    have key := List.find?_some identity
    rw [Column.isWritableKey, isKey_of_mem_persisted among] at key
    contradiction

theorem derivesFrom_of_resolve {declaration : Declaration} {schema : Schema}
    (resolved : Schema.resolve declaration = .ok schema) : schema.DerivesFrom declaration := by
  rcases resolve_eq_ok_iff.mp resolved with ⟨tables, -, entity, made⟩
  rcases columnsOf_eq_ok_iff.mp made with ⟨pass, taken, columns⟩
  exact derivesFrom_of_pass entity tables.symm columns taken

/-- A declaration is accepted if it has tables, all well named, and its members are distinct; the
first thing that is wrong is the error. What is accepted has one column for each member in order,
and its identity is the first writable key. -/
theorem resolve_decides (declaration : Declaration) :
    ((∃ schema, Schema.resolve declaration = .ok schema) ↔
      declaration.candidates ≠ [] ∧
        (∀ name ∈ declaration.candidates, isTableName name = true) ∧
        (declaration.members.map (·.name)).Nodup) ∧
    (∀ error, Schema.resolve declaration = .error error ↔ Flaw declaration error) ∧
    (∀ schema, Schema.resolve declaration = .ok schema → schema.DerivesFrom declaration) := by
  exact ⟨exists_resolve_iff, fun error => resolve_eq_error_iff,
    fun schema => derivesFrom_of_resolve⟩

/-- Orders in two tables, with a key that is only read in front of their identity. -/
def orderDeclaration : Declaration where
  name := "Order"
  tableSet := ["orders_east", "orders_west"]
  members := [⟨"Code", .text, true, false, true⟩, ⟨"OrderId", .int, true, false, false⟩,
    ⟨"Amount", .float, false, false, false⟩, ⟨"DisplayName", .text, false, true, false⟩]

theorem resolve_decides_orders :
    ∃ schema, Schema.resolve orderDeclaration = .ok schema ∧
      schema.DerivesFrom orderDeclaration ∧ schema.identityIndex? = some 1 := by
  have resolved : Schema.resolve orderDeclaration = .ok
      ⟨"Order", "orders_east", ["orders_west"],
        [⟨"Code", "code", .text, false, true, false, false⟩,
          ⟨"OrderId", "order_id", .int, true, true, false, true⟩,
          ⟨"Amount", "amount", .float, false, false, false, true⟩,
          ⟨"DisplayName", "display_name", .text, false, false, true, true⟩]⟩ := by rfl
  exact ⟨_, resolved, (resolve_decides orderDeclaration).2.2 _ resolved, rfl⟩

example : Schema.resolve
    { name := "Dup", tableSet := ["dup", "2nd", "3rd"],
      members := [⟨"A", .int, false, false, false⟩, ⟨"A", .text, false, false, false⟩] } =
      .error (.invalidTableName "2nd") := by
  rfl

end BoundSql.Entity
