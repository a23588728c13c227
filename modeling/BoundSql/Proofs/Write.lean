import BoundSql.Proofs.Condition.Meaning

/-!
Compiled writes. Whatever an update, an insert or a row of values binds, its writes go to
declared columns and their terms are made of declared columns and bound placeholders. A row binds
what its columns store.
-/

namespace BoundSql.Sql

open Entity Compiler

theorem hasColumn_of_columnOf {schema : Schema} {member : String} {column : Column}
    (found : columnOf schema member = .ok column) : schema.HasColumn column.name :=
  hasColumn_of_column? (columnOf_eq_ok_iff.mp found)

/-! ## What writes are made of -/

def Term.Over (columns placeholders : String → Prop) : Term → Prop
  | .placeholder name => placeholders name
  | .column name => columns name
  | .compute _ left right =>
      Over columns placeholders left ∧ Over columns placeholders right

structure Write.Over (columns placeholders : String → Prop) (write : Write) : Prop where
  column : columns write.column
  value : write.value.Over columns placeholders

structure Write.IsBound (columns placeholders : String → Prop) (write : Write) : Prop where
  column : columns write.column
  value : ∃ name, write.value = .placeholder name ∧ placeholders name

theorem Write.IsBound.uses {columns placeholders : String → Prop} {write : Write}
    (bound : write.IsBound columns placeholders) : write.Over columns placeholders := by
  rcases bound.value with ⟨name, value, known⟩
  exact ⟨bound.column, value ▸ known⟩

theorem Term.Over.imp {columns columns' placeholders placeholders' : String → Prop}
    (column : ∀ name, columns name → columns' name)
    (placeholder : ∀ name, placeholders name → placeholders' name) {term : Term}
    (uses : term.Over columns placeholders) : term.Over columns' placeholders' := by
  induction term with
  | placeholder name => exact placeholder name uses
  | column name => exact column name uses
  | compute _ _ _ first second => exact ⟨first uses.1, second uses.2⟩

theorem Write.Over.imp {columns columns' placeholders placeholders' : String → Prop}
    (column : ∀ name, columns name → columns' name)
    (placeholder : ∀ name, placeholders name → placeholders' name) {write : Write}
    (uses : write.Over columns placeholders) : write.Over columns' placeholders' :=
  ⟨column _ uses.column, uses.value.imp column placeholder⟩

theorem Write.IsBound.imp {columns columns' placeholders placeholders' : String → Prop}
    (column : ∀ name, columns name → columns' name)
    (placeholder : ∀ name, placeholders name → placeholders' name) {write : Write}
    (bound : write.IsBound columns placeholders) : write.IsBound columns' placeholders' := by
  rcases bound.value with ⟨name, value, known⟩
  exact ⟨column _ bound.column, name, value, placeholder name known⟩

theorem Write.Over.grows {before after : Bindings} (grows : before.Grows after)
    {columns : String → Prop} {write : Write} (uses : write.Over columns before.Knows) :
    write.Over columns after.Knows :=
  uses.imp (fun _ => id) (fun _ => grows.knows)

theorem Write.IsBound.grows {before after : Bindings} (grows : before.Grows after)
    {columns : String → Prop} {write : Write} (bound : write.IsBound columns before.Knows) :
    write.IsBound columns after.Knows :=
  bound.imp (fun _ => id) (fun _ => grows.knows)

theorem isKey_of_mem_persisted {schema : Schema} {column : Column}
    (persisted : column ∈ schema.persisted) : column.isKey = false := by
  have kept := (List.mem_filter.mp persisted).2
  simp only [Column.isPersisted, Bool.and_eq_true, Bool.not_eq_true'] at kept
  exact kept.1.2

/-! ## Rows

A row of values is bound column by column, each value in the form that its column stores. -/

namespace Write

section

variable {values : MemberValues} {column : Column}

def storedIn? (values : MemberValues) (column : Column) : Option Value :=
  (values.lookup column.member).bind (Value.stored? column.kind)

theorem valueOf_eq_ok_iff {member : String} {value : Value} :
    valueOf values member = .ok value ↔ values.lookup member = some value := by
  rw [valueOf]
  cases values.lookup member <;> simp

theorem valueOf_eq_error_iff {member : String} {error : CompileError} :
    valueOf values member = .error error ↔
      values.lookup member = none ∧ error = .missingMemberValue member := by
  rw [valueOf]
  cases values.lookup member <;> simp [eq_comm]

theorem coerceFor_eq_error_iff {value : Value} {error : CompileError} :
    coerceFor column value = .error error ↔ Value.stored? column.kind value = none ∧
      error = .coercion column.member (.mismatch column.kind value) := by
  rw [coerceFor, Value.coerce]
  cases Value.stored? column.kind value <;> simp [eq_comm]

theorem stored_eq_ok_iff {stored : Value} :
    (valueOf values column.member >>= coerceFor column) = .ok stored ↔
      storedIn? values column = some stored := by
  simp only [except_bind_eq_ok, valueOf_eq_ok_iff, coerceFor_eq_ok_iff, storedIn?,
    Option.bind_eq_some_iff]

theorem storedIn?_eq_some {value stored : Value}
    (found : valueOf values column.member = .ok value)
    (coerced : coerceFor column value = .ok stored) : storedIn? values column = some stored :=
  stored_eq_ok_iff.mp (except_bind_eq_ok.mpr ⟨value, found, coerced⟩)

/-- Why a column has nothing to store of a row. -/
inductive Lacks (values : MemberValues) (column : Column) : CompileError → Prop
  | missing (absent : values.lookup column.member = none) :
      Lacks values column (.missingMemberValue column.member)
  | misfit {value : Value} (given : values.lookup column.member = some value)
      (unfit : Value.stored? column.kind value = none) :
      Lacks values column (.coercion column.member (.mismatch column.kind value))

theorem stored_eq_error_iff {error : CompileError} :
    (valueOf values column.member >>= coerceFor column) = .error error ↔
      Lacks values column error := by
  simp only [except_bind_eq_error, valueOf_eq_ok_iff, valueOf_eq_error_iff,
    coerceFor_eq_error_iff]
  constructor
  · rintro (⟨absent, rfl⟩ | ⟨value, given, unfit, rfl⟩)
    · exact .missing absent
    · exact .misfit given unfit
  · rintro (absent | ⟨given, unfit⟩)
    · exact .inl ⟨absent, rfl⟩
    · exact .inr ⟨_, given, unfit, rfl⟩

/-- A write that binds for a column what the column stores of a row. -/
structure Stores (values : MemberValues) (bindings : Bindings) (target : Column)
    (write : Write) : Prop where
  column : write.column = target.name
  value : ∃ name stored, write.value = .placeholder name ∧ bindings.Holds name stored ∧
    storedIn? values target = some stored

theorem Stores.grows {before after : Bindings} (grows : before.Grows after) {write : Write}
    (stores : write.Stores values before column) : write.Stores values after column := by
  rcases stores.value with ⟨name, stored, value, holds, kept⟩
  exact ⟨stores.column, name, stored, value, grows.holds holds, kept⟩

theorem Stores.isBound {schema : Schema} {bindings : Bindings} {write : Write}
    (stores : write.Stores values bindings column) (known : schema.HasColumn column.name) :
    write.IsBound schema.HasColumn bindings.Knows := by
  rcases stores.value with ⟨name, stored, value, holds, _⟩
  exact ⟨stores.column ▸ known, name, value, holds.knows⟩

theorem stores_compileColumns {columns : List Column} {before after : Scratch}
    {writes : List Write} (yields : (compileColumns values columns).Yields before writes after) :
    before.bindings.Grows after.bindings ∧
      List.Forall₂ (fun column write => write.Stores values after.bindings column)
        columns writes := by
  induction columns generalizing before writes with
  | nil =>
      rcases yields_pure.mp yields with ⟨rfl, rfl⟩
      exact ⟨.refl _, .nil⟩
  | cons column columns induction =>
      simp only [compileColumns, bindStored, yields_bind, yields_ofExcept, yields_pure] at yields
      rcases yields with ⟨value, _, ⟨found, rfl⟩, write, _,
        ⟨stored, _, ⟨coerced, rfl⟩, name, middle, bound, rfl, rfl⟩, writes, _, others, rfl, rfl⟩
      rcases bound.held with ⟨grows, holds⟩
      rcases induction others with ⟨more, rest⟩
      have first : Stores values middle.bindings column ⟨column.name, .placeholder name⟩ :=
        ⟨rfl, name, stored, rfl, holds, storedIn?_eq_some found coerced⟩
      exact ⟨grows.trans more, .cons (first.grows more) rest⟩

end

end Write

/-! ## Compiled writes -/

namespace Write

section

variable {schema : Schema} {before after : Scratch} {write : Write}

theorem hasColumn_of_targetOf {member : String} {column : Column}
    (target : targetOf schema member = .ok column) : schema.HasColumn column.name := by
  rw [targetOf, except_bind_eq_ok] at target
  rcases target with ⟨known, found, target⟩
  split at target
  next => contradiction
  next =>
      rcases Except.ok.inj target with rfl
      exact hasColumn_of_columnOf found

theorem yields_bindStored {column : Column} {value : Value} (known : schema.HasColumn column.name)
    (yields : (bindStored column value).Yields before write after) :
    before.bindings.Grows after.bindings ∧
      write.IsBound schema.HasColumn after.bindings.Knows := by
  simp only [bindStored, yields_bind, yields_ofExcept, yields_pure] at yields
  rcases yields with ⟨stored, _, ⟨_, rfl⟩, name, _, bound, rfl, rfl⟩
  rcases bound.held with ⟨grows, holds⟩
  exact ⟨grows, known, name, rfl, holds.knows⟩

theorem yields_compileTerm {expr : Expr} {term : Term}
    (yields : (compileTerm schema expr).Yields before term after) :
    before.bindings.Grows after.bindings ∧
      term.Over schema.HasColumn after.bindings.Knows := by
  fun_induction compileTerm schema expr generalizing before term after with
  | case1 operand inner => exact inner yields
  | case2 items => exact absurd yields yields_throw
  | case3 value notList =>
      simp only [yields_bind, yields_pure] at yields
      rcases yields with ⟨name, _, bound, rfl, rfl⟩
      rcases bound.held with ⟨grows, holds⟩
      exact ⟨grows, holds.knows⟩
  | case4 member =>
      simp only [yields_bind, yields_ofExcept, yields_pure] at yields
      rcases yields with ⟨column, _, ⟨found, rfl⟩, rfl, rfl⟩
      exact ⟨.refl _, hasColumn_of_columnOf found⟩
  | case5 op left right first second =>
      simp only [yields_bind, yields_pure] at yields
      rcases yields with ⟨a, middle, left, b, _, right, rfl, rfl⟩
      rcases first left with ⟨grows, overLeft⟩
      rcases second right with ⟨more, overRight⟩
      exact ⟨grows.trans more, overLeft.imp (fun _ => id) (fun _ => more.knows), overRight⟩
  | case6 => exact absurd yields yields_throw

theorem yields_compileUpdateItem {member : String} {value : Expr}
    (yields : (compileUpdateItem schema member value).Yields before write after) :
    before.bindings.Grows after.bindings ∧
      write.Over schema.HasColumn after.bindings.Knows := by
  simp only [compileUpdateItem, yields_bind, yields_ofExcept] at yields
  rcases yields with ⟨column, _, ⟨target, rfl⟩, yields⟩
  have known := hasColumn_of_targetOf target
  split at yields
  next =>
      rcases yields_bindStored known yields with ⟨grows, bound⟩
      exact ⟨grows, bound.uses⟩
  next =>
      simp only [yields_bind, yields_pure] at yields
      rcases yields with ⟨term, _, compiled, rfl, rfl⟩
      rcases yields_compileTerm compiled with ⟨grows, uses⟩
      exact ⟨grows, known, uses⟩

theorem yields_compileInsertItem {member : String} {value : Expr}
    (yields : (compileInsertItem schema member value).Yields before write after) :
    before.bindings.Grows after.bindings ∧
      write.IsBound schema.HasColumn after.bindings.Knows := by
  simp only [compileInsertItem, yields_bind, yields_ofExcept] at yields
  rcases yields with ⟨column, _, ⟨target, rfl⟩, yields⟩
  split at yields
  next => exact yields_bindStored (hasColumn_of_targetOf target) yields
  next => exact absurd yields yields_throw

theorem forall₂_compileEach {item : String → Expr → Compiler Write}
    (Sound : Bindings → String × Expr → Write → Prop)
    (keeps : ∀ {before after assignment write}, Bindings.Grows before after →
      Sound before assignment write → Sound after assignment write)
    (sound : ∀ {member value before write after}, (item member value).Yields before write after →
      before.bindings.Grows after.bindings ∧ Sound after.bindings (member, value) write)
    {assignments : List (String × Expr)} {writes : List Write}
    (yields : (compileEach item assignments).Yields before writes after) :
    before.bindings.Grows after.bindings ∧
      List.Forall₂ (Sound after.bindings) assignments writes := by
  induction assignments generalizing before writes with
  | nil =>
      rcases yields_pure.mp yields with ⟨rfl, rfl⟩
      exact ⟨.refl _, .nil⟩
  | cons assignment assignments induction =>
      simp only [compileEach, yields_bind, yields_pure] at yields
      rcases yields with ⟨write, middle, first, writes, _, others, rfl, rfl⟩
      rcases sound first with ⟨grows, once⟩
      rcases induction others with ⟨more, rest⟩
      exact ⟨grows.trans more, .cons (keeps more once) rest⟩

theorem yields_compileEach {item : String → Expr → Compiler Write}
    (Sound : Bindings → Write → Prop)
    (keeps : ∀ {before after write}, Bindings.Grows before after → Sound before write →
      Sound after write)
    (sound : ∀ {member value before write after}, (item member value).Yields before write after →
      before.bindings.Grows after.bindings ∧ Sound after.bindings write)
    {assignments : List (String × Expr)} {writes : List Write}
    (yields : (compileEach item assignments).Yields before writes after) :
    before.bindings.Grows after.bindings ∧ ∀ write ∈ writes, Sound after.bindings write := by
  rcases forall₂_compileEach (fun bindings _ => Sound bindings) keeps sound yields with
    ⟨grows, each⟩
  refine ⟨grows, ?_⟩
  intro write member
  rcases forall₂_right each write member with ⟨_, _, holds⟩
  exact holds

theorem yields_compileUpdate {expr : Expr} {writes : List Write}
    (yields : (compileUpdate schema expr).Yields before writes after) :
    before.bindings.Grows after.bindings ∧
      ∀ write ∈ writes, write.Over schema.HasColumn after.bindings.Knows := by
  simp only [compileUpdate, yields_bind, yields_ofExcept] at yields
  rcases yields with ⟨assignments, _, ⟨_, rfl⟩, yields⟩
  exact yields_compileEach (fun bindings write => write.Over schema.HasColumn bindings.Knows)
    (fun more uses => uses.grows more) yields_compileUpdateItem yields

theorem yields_compileInsert {expr : Expr} {writes : List Write}
    (yields : (compileInsert schema expr).Yields before writes after) :
    before.bindings.Grows after.bindings ∧
      ∀ write ∈ writes, write.IsBound schema.HasColumn after.bindings.Knows := by
  simp only [compileInsert, yields_bind, yields_ofExcept] at yields
  rcases yields with ⟨assignments, _, ⟨_, rfl⟩, yields⟩
  exact yields_compileEach (fun bindings write => write.IsBound schema.HasColumn bindings.Knows)
    (fun more bound => bound.grows more) yields_compileInsertItem yields

theorem yields_compileColumns {values : MemberValues} {columns : List Column}
    {writes : List Write} (known : ∀ column ∈ columns, schema.HasColumn column.name)
    (yields : (compileColumns values columns).Yields before writes after) :
    before.bindings.Grows after.bindings ∧
      ∀ write ∈ writes, write.IsBound schema.HasColumn after.bindings.Knows := by
  rcases stores_compileColumns yields with ⟨grows, stores⟩
  refine ⟨grows, ?_⟩
  intro write member
  rcases forall₂_right stores write member with ⟨column, among, stored⟩
  exact stored.isBound (known column among)

theorem yields_compileRow {values : MemberValues} {writes : List Write}
    (yields : (compileRow schema values).Yields before writes after) :
    before.bindings.Grows after.bindings ∧
      ∀ write ∈ writes, write.IsBound schema.HasColumn after.bindings.Knows := by
  refine yields_compileColumns ?_ yields
  intro column member
  exact ⟨column, List.mem_of_mem_filter member, rfl⟩

end

end Write

end BoundSql.Sql
