import BoundSql.Entity.Catalog
import BoundSql.Proofs.Entity.Derivation

/-!
Catalogs. Entities are resolved one after the other, and the first that is not resolved or has the
name of an earlier one is the error. A catalog that is loaded has the schemas of its entities and no
others, each under its name. A definition is declared column by column, in order and with the flags
that are set. The main statement is `ofDefinitions_decides`.
-/

namespace BoundSql.Entity

open Sql

/-! ## Definitions and declarations -/

namespace Declaration

/-- What a run over columns makes of a declaration: each column adds its member behind the members
that are there, and nothing else changes. -/
theorem foldl_declare (declaration : Declaration) (columns : List ColumnDefinition) :
    columns.foldl (fun declaration column => declaration.declare column.declaration) declaration =
      { declaration with
        members := declaration.members ++ columns.map ColumnDefinition.declaration } := by
  induction columns generalizing declaration with
  | nil => simp
  | cons column columns induction =>
      rw [List.foldl_cons, induction]
      simp [declare]

end Declaration

structure MemberDeclaration.Declares (member : MemberDeclaration) (defined : ColumnDefinition) :
    Prop where
  name : member.name = defined.member
  kind : member.kind = defined.kind
  isKey : member.isKey = defined.isKey
  isComputed : member.isComputed = defined.isComputed
  isReadOnly : member.isReadOnly = defined.isReadOnly

theorem ColumnDefinition.declares_declaration (column : ColumnDefinition) :
    column.declaration.Declares column := by
  rcases column with ⟨member, kind, _ | _, _ | _, _ | _⟩ <;> exact ⟨rfl, rfl, rfl, rfl, rfl⟩

/-- Whether a column is as it is defined, its part as the identity aside. -/
structure Column.Reflects (column : Column) (defined : ColumnDefinition) : Prop where
  member : column.member = defined.member
  name : column.name = columnName defined.member
  kind : column.kind = defined.kind
  isKey : column.isKey = defined.isKey
  isComputed : column.isComputed = defined.isComputed
  isWritable : column.isWritable = !defined.isReadOnly

theorem Column.Describes.reflects {column : Column} {member : MemberDeclaration}
    {defined : ColumnDefinition} (describes : column.Describes member)
    (declares : member.Declares defined) : column.Reflects defined where
  member := describes.member.trans declares.name
  name := declares.name ▸ describes.name
  kind := describes.kind.trans declares.kind
  isKey := describes.isKey.trans declares.isKey
  isComputed := describes.isComputed.trans declares.isComputed
  isWritable := declares.isReadOnly ▸ describes.isWritable

theorem Column.forall₂_reflects {columns : List Column} {members : List MemberDeclaration}
    {defined : List ColumnDefinition} (described : List.Forall₂ Column.Describes columns members)
    (declared : List.Forall₂ MemberDeclaration.Declares members defined) :
    List.Forall₂ Column.Reflects columns defined := by
  induction described generalizing defined with
  | nil =>
      cases declared
      exact .nil
  | cons describes _ induction =>
      cases declared with
      | cons declares declared => exact .cons (describes.reflects declares) (induction declared)

namespace Definition

def tableNames (definition : Definition) : List String :=
  match definition.tables with
  | some (.single name) => [name]
  | some (.several names) => names
  | none => []

theorem declaration_eq (definition : Definition) :
    definition.declaration =
      { (Declaration.named definition.name).place definition.tables with
        members := definition.columns.map ColumnDefinition.declaration } := by
  have placed : ((Declaration.named definition.name).place definition.tables).members = [] := by
    rcases definition.tables with _ | (table | tables) <;> rfl
  have folded := Declaration.foldl_declare
    ((Declaration.named definition.name).place definition.tables) definition.columns
  rw [placed, List.nil_append] at folded
  rw [← folded]
  simp [declaration]

theorem name_declaration (definition : Definition) :
    definition.declaration.name = definition.name := by
  rw [declaration_eq]
  rcases definition.tables with _ | (table | tables) <;> rfl

theorem candidates_declaration (definition : Definition) :
    definition.declaration.candidates = definition.tableNames := by
  rw [declaration_eq, tableNames]
  rcases definition.tables with _ | (table | tables) <;> rfl

theorem members_declaration (definition : Definition) :
    List.Forall₂ MemberDeclaration.Declares definition.declaration.members definition.columns := by
  rw [declaration_eq, List.forall₂_map_left_iff, List.forall₂_same]
  exact fun column _ => column.declares_declaration

/-- What is resolved from a definition has its tables and a column for each of its columns. -/
structure Gives (definition : Definition) (schema : Schema) : Prop where
  resolved : Schema.resolve definition.declaration = .ok schema
  entity : schema.entity = definition.name
  tables : schema.tables = definition.tableNames
  columns : List.Forall₂ Column.Reflects schema.columns definition.columns

theorem gives_of_resolve {definition : Definition} {schema : Schema}
    (resolved : Schema.resolve definition.declaration = .ok schema) :
    definition.Gives schema := by
  have derives := derivesFrom_of_resolve resolved
  refine ⟨resolved, ?_, ?_, ?_⟩
  · rw [derives.entity, name_declaration]
  · rw [derives.tables, candidates_declaration]
  · exact Column.forall₂_reflects derives.columns definition.members_declaration

end Definition

namespace Catalog

/-! ## Catalogs and their entities -/

structure Loadable (definitions : List Definition) : Prop where
  resolved : ∀ definition ∈ definitions,
    ∃ schema, Schema.resolve definition.declaration = .ok schema
  distinct : (definitions.map (·.name)).Nodup

/-- Why an entity does not come into a catalog after those before it. -/
inductive Bars (earlier : List Definition) (definition : Definition) : SchemaError → Prop
  | unresolved (failed : Schema.resolve definition.declaration = .error error) :
      Bars earlier definition error
  | repeated (resolved : Schema.resolve definition.declaration = .ok schema)
      (again : definition.name ∈ earlier.map (·.name)) :
      Bars earlier definition (.definedTwice definition.name)

theorem Bars.unique {earlier : List Definition} {definition : Definition}
    {error other : SchemaError} (barred : Bars earlier definition error)
    (barred' : Bars earlier definition other) : error = other := by
  cases barred with
  | unresolved failed =>
      cases barred' with
      | unresolved failed' => exact Except.error.inj (failed.symm.trans failed')
      | repeated resolved => simp [failed] at resolved
  | repeated resolved =>
      cases barred' with
      | unresolved failed => simp [failed] at resolved
      | repeated => rfl

theorem Bars.not_loadable {earlier : List Definition} {definition : Definition}
    {error : SchemaError} (barred : Bars earlier definition error) (after : List Definition) :
    ¬ Loadable (earlier ++ definition :: after) := by
  intro loadable
  cases barred with
  | unresolved failed =>
      rcases loadable.resolved definition (by simp) with ⟨schema, resolved⟩
      simp [failed] at resolved
  | repeated _ again =>
      have distinct := loadable.distinct
      rw [List.map_append, List.map_cons, List.nodup_append] at distinct
      exact distinct.2.2 _ again _ (List.mem_cons_self ..) rfl

structure Holds (catalog : Catalog) (definitions : List Definition) : Prop where
  entries : List.Forall₂ (fun entry definition => entry.1 = definition.name ∧
    Schema.resolve definition.declaration = .ok entry.2) catalog.schemas definitions
  distinct : (definitions.map (·.name)).Nodup

section

variable {catalog last : Catalog} {earlier definitions : List Definition}
  {definition : Definition} {name : String} {schema : Schema} {error : SchemaError}

theorem holds_empty : ({} : Catalog).Holds [] := ⟨.nil, .nil⟩

theorem Holds.names_eq (holds : catalog.Holds definitions) :
    catalog.schemas.map Prod.fst = definitions.map (·.name) := by
  rw [← List.forall₂_eq_eq_eq, List.forall₂_map_left_iff, List.forall₂_map_right_iff]
  exact holds.entries.imp fun _ _ entry => entry.1

theorem Holds.loadable (holds : catalog.Holds definitions) : Loadable definitions := by
  refine ⟨?_, holds.distinct⟩
  intro definition among
  rcases forall₂_right holds.entries definition among with ⟨entry, -, -, resolved⟩
  exact ⟨entry.2, resolved⟩

theorem Holds.lookup_eq_none_iff (holds : catalog.Holds definitions) :
    catalog.schemas.lookup name = none ↔ name ∉ definitions.map (·.name) := by
  rw [← holds.names_eq, List.lookup_eq_none_iff, List.mem_map]
  constructor
  · intro others found
    rcases found with ⟨entry, among, same⟩
    have different := others entry among
    simp [same] at different
  · intro absent entry among
    have different : name ≠ entry.1 := fun same => absent ⟨entry, among, same.symm⟩
    simpa using different

theorem Holds.lookup (holds : catalog.Holds definitions) (among : definition ∈ definitions) :
    ∃ schema, catalog.schemas.lookup definition.name = some schema ∧
      Schema.resolve definition.declaration = .ok schema := by
  rcases forall₂_right holds.entries definition among with ⟨entry, inside, named, resolved⟩
  refine ⟨entry.2, ?_, resolved⟩
  have distinct := holds.distinct
  rcases List.append_of_mem inside with ⟨before, after, split⟩
  rw [← holds.names_eq, split, List.map_append, List.map_cons, List.nodup_append] at distinct
  rw [List.lookup_eq_some_iff, split, ← named]
  refine ⟨before, after, rfl, ?_⟩
  intro other member
  have different := distinct.2.2 _ (List.mem_map_of_mem member) _ (List.mem_cons_self ..)
  simpa using different.symm

theorem Holds.add (holds : catalog.Holds earlier)
    (resolved : Schema.resolve definition.declaration = .ok schema)
    (fresh : definition.name ∉ earlier.map (·.name)) :
    Holds { schemas := catalog.schemas ++ [(definition.name, schema)] }
      (earlier ++ [definition]) := by
  constructor
  · exact List.rel_append holds.entries (.cons ⟨rfl, resolved⟩ .nil)
  · rw [List.map_append, List.map_singleton, List.nodup_append]
    refine ⟨holds.distinct, List.nodup_singleton _, ?_⟩
    intro name among other new same
    rw [List.mem_singleton] at new
    rw [same, new] at among
    exact fresh among

/-! ## Loading -/

theorem Holds.extend_cons (holds : catalog.Holds earlier) (definition : Definition)
    (definitions : List Definition) :
    catalog.extend (definition :: definitions) =
      match Schema.resolve definition.declaration with
      | .error error => .error error
      | .ok schema =>
          if definition.name ∈ earlier.map (·.name) then .error (.definedTwice definition.name)
          else
            extend { schemas := catalog.schemas ++ [(definition.name, schema)] }
              definitions := by
  have known : (catalog.schemas.lookup definition.name).isSome = true ↔
      definition.name ∈ earlier.map (·.name) := by
    rw [Option.isSome_iff_ne_none, Ne, holds.lookup_eq_none_iff, not_not]
  simp only [Catalog.extend, known]
  cases Schema.resolve definition.declaration <;> rfl

theorem Holds.extend (holds : catalog.Holds earlier)
    (loaded : catalog.extend definitions = .ok last) :
    last.Holds (earlier ++ definitions) := by
  induction definitions generalizing catalog earlier with
  | nil =>
      rcases Except.ok.inj loaded with rfl
      rwa [List.append_nil]
  | cons definition definitions induction =>
      rw [holds.extend_cons] at loaded
      split at loaded
      next => contradiction
      next schema resolved =>
          split at loaded
          next => contradiction
          next fresh =>
              have further := induction (holds.add resolved fresh) loaded
              rwa [List.append_assoc] at further

theorem Holds.extend_eq_error_iff (holds : catalog.Holds earlier) :
    catalog.extend definitions = .error error ↔
      ∃ before definition after, definitions = before ++ definition :: after ∧
        Loadable (earlier ++ before) ∧ Bars (earlier ++ before) definition error := by
  induction definitions generalizing catalog earlier with
  | nil =>
      constructor
      · intro failed
        contradiction
      · intro found
        rcases found with ⟨before, definition, after, split, -⟩
        simp at split
  | cons definition definitions induction =>
      rw [holds.extend_cons, exists_split_cons_iff, List.append_nil]
      have stop {failure : SchemaError} (barred : Bars earlier definition failure) :
          (Except.error failure : Except SchemaError Catalog) = .error error ↔
            Loadable earlier ∧ Bars earlier definition error ∨
              ∃ before other after, definitions = before ++ other :: after ∧
                Loadable (earlier ++ definition :: before) ∧
                Bars (earlier ++ definition :: before) other error := by
        constructor
        · intro same
          rcases Except.error.inj same with rfl
          exact .inl ⟨holds.loadable, barred⟩
        · intro found
          rcases found with ⟨-, other⟩ | ⟨before, -, -, -, loadable, -⟩
          · rw [barred.unique other]
          · exact absurd loadable (barred.not_loadable before)
      split
      next failure failed => exact stop (.unresolved failed)
      next schema resolved =>
          split
          next again => exact stop (.repeated resolved again)
          next fresh =>
              have added := holds.add resolved fresh
              rw [induction added]
              simp only [List.append_assoc, List.singleton_append]
              constructor
              · exact .inr
              · intro found
                rcases found with ⟨-, barred⟩ | found
                · exact absurd added.loadable (barred.not_loadable [])
                · exact found

end

/-! ## Names -/

theorem names_increasing {catalog : Catalog} (distinct : (catalog.schemas.map Prod.fst).Nodup) :
    catalog.names.Pairwise (· < ·) := by
  have sorted : catalog.names.Pairwise fun a b => decide (a ≤ b) = true := by
    apply List.pairwise_mergeSort
    · intro a b c first second
      exact decide_eq_true (String.le_trans (of_decide_eq_true first) (of_decide_eq_true second))
    · intro a b
      simpa using String.le_total a b
  have apart : catalog.names.Nodup := (List.mergeSort_perm _ _).nodup_iff.mpr distinct
  apply (sorted.and apart).imp
  intro a b order
  exact Std.lt_of_le_of_ne (of_decide_eq_true order.1) order.2

/-! ## Loaded catalogs -/

structure Presents (catalog : Catalog) (definitions : List Definition) : Prop where
  size : catalog.size = definitions.length
  names : catalog.names.Perm (definitions.map (·.name))
  increasing : catalog.names.Pairwise (· < ·)
  find : ∀ definition ∈ definitions, ∃ schema,
    catalog.find definition.name = .ok schema ∧ definition.Gives schema
  unknown : ∀ name, name ∉ definitions.map (·.name) →
    catalog.find name = .error (.unknownEntity name)

theorem Holds.presents {catalog : Catalog} {definitions : List Definition}
    (holds : catalog.Holds definitions) : catalog.Presents definitions := by
  refine ⟨holds.entries.length_eq, ?_, ?_, ?_, ?_⟩
  · rw [← holds.names_eq]
    exact List.mergeSort_perm _ _
  · apply names_increasing
    rw [holds.names_eq]
    exact holds.distinct
  · intro definition among
    rcases holds.lookup among with ⟨schema, found, resolved⟩
    exact ⟨schema, by rw [Catalog.find, found], Definition.gives_of_resolve resolved⟩
  · intro name absent
    rw [Catalog.find, holds.lookup_eq_none_iff.mpr absent]

/-- A catalog is loaded exactly if its entities are resolved and have distinct names; otherwise the
error is that of the first entity that is not resolved or has the name of an earlier one. -/
theorem ofDefinitions_decides (definitions : List Definition) :
    ((∃ catalog, ofDefinitions definitions = .ok catalog) ↔
      (∀ definition ∈ definitions,
        ∃ schema, Schema.resolve definition.declaration = .ok schema) ∧
      (definitions.map (·.name)).Nodup) ∧
    (∀ error, ofDefinitions definitions = .error error ↔
      ∃ before definition after, definitions = before ++ definition :: after ∧
        Loadable before ∧ Bars before definition error) ∧
    ∀ catalog, ofDefinitions definitions = .ok catalog →
      catalog.Presents definitions := by
  have stops (error : SchemaError) :=
    @Holds.extend_eq_error_iff _ _ definitions error holds_empty
  simp only [List.nil_append] at stops
  have holds {catalog : Catalog}
      (loaded : ofDefinitions definitions = .ok catalog) :
      catalog.Holds definitions := holds_empty.extend loaded
  refine ⟨?_, stops, fun catalog loaded => (holds loaded).presents⟩
  constructor
  · intro some
    rcases some with ⟨catalog, loaded⟩
    exact ⟨(holds loaded).loadable.resolved, (holds loaded).distinct⟩
  · intro sound
    cases outcome : ofDefinitions definitions with
    | ok catalog => exact ⟨catalog, rfl⟩
    | error error =>
        rcases (stops error).mp outcome with ⟨before, definition, after, rfl, -, barred⟩
        exact absurd ⟨sound.1, sound.2⟩ (barred.not_loadable after)

def deviceDefinitions : List Definition :=
  [{ name := "User", tables := some (.single "user"), columns :=
      [⟨"Id", .int, true, false, false⟩, ⟨"DisplayName", .text, false, true, true⟩] },
   { name := "DeviceLog", tables := some (.several ["device_log", "device_log_archive"]), columns :=
      [⟨"LogId", .int, true, false, false⟩] }]

theorem ofDefinitions_decides_devices :
    ∃ catalog, ofDefinitions deviceDefinitions = .ok catalog ∧
      catalog.Presents deviceDefinitions := by
  have loaded : ofDefinitions deviceDefinitions = .ok
      { schemas :=
          [("User", ⟨"User", "user", [], [⟨"Id", "id", .int, true, true, false, true⟩,
            ⟨"DisplayName", "display_name", .text, false, false, true, false⟩]⟩),
           ("DeviceLog", ⟨"DeviceLog", "device_log", ["device_log_archive"],
            [⟨"LogId", "log_id", .int, true, true, false, true⟩]⟩)] } := by rfl
  exact ⟨_, loaded, (ofDefinitions_decides deviceDefinitions).2.2 _ loaded⟩

example :
    let undeclared : Definition := { name := "User", tables := none, columns := [] }
    ofDefinitions (deviceDefinitions ++ [undeclared]) =
      .error (.noTable "User") := by
  rfl

end Catalog

end BoundSql.Entity
