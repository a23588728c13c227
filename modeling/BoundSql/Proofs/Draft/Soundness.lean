import BoundSql.Proofs.Draft.Run
import BoundSql.Proofs.Selection
import BoundSql.Proofs.Statement.Vocabulary

/-!
What gets into a draft. Every part that a step adds names declared columns and bound
placeholders only, so a statement has nothing in it but its vocabulary, its table, columns,
placeholders and numbers of rows, whatever the steps were made of.
-/

namespace BoundSql.Sql

open Entity

namespace Draft

variable {draft next : Draft}

/-! ## Sound drafts -/

/-- A draft whose parts are made of declared columns and bound placeholders. -/
structure Sound (draft : Draft) : Prop where
  conditions : ∀ condition ∈ draft.conditions,
    condition.Over draft.schema.HasColumn draft.bindings.Knows
  updates : ∀ write ∈ draft.updates, write.Over draft.schema.HasColumn draft.bindings.Knows
  inserts : ∀ write ∈ draft.inserts, write.IsBound draft.schema.HasColumn draft.bindings.Knows
  ordering : ∀ key ∈ draft.ordering, draft.schema.HasColumn key.column
  selection : ∀ name ∈ draft.selection.names, draft.schema.HasColumn name

theorem sound_empty (schema : Schema) (settings : Settings) : (empty schema settings).Sound := by
  constructor <;> simp [empty, Selection.names]

theorem Sound.withBindings (sound : draft.Sound) {after : Scratch}
    (grows : draft.bindings.Grows after.bindings) : (draft.withBindings after).Sound where
  conditions condition member :=
    (sound.conditions condition member).imp (fun _ => id) (fun _ => grows.knows)
  updates write member := (sound.updates write member).grows grows
  inserts write member := (sound.inserts write member).grows grows
  ordering := sound.ordering
  selection := sound.selection

theorem Sound.addUpdates (sound : draft.Sound) {writes : List Write}
    (uses : ∀ write ∈ writes, write.Over draft.schema.HasColumn draft.bindings.Knows) :
    (draft.addUpdates writes).Sound :=
  { sound with updates := List.forall_mem_append.mpr ⟨sound.updates, uses⟩ }

theorem Sound.addInserts (sound : draft.Sound) {writes : List Write}
    (bound : ∀ write ∈ writes, write.IsBound draft.schema.HasColumn draft.bindings.Knows) :
    (draft.addInserts writes).Sound :=
  { sound with inserts := List.forall_mem_append.mpr ⟨sound.inserts, bound⟩ }

theorem Takes.sound {step : Step} (sound : draft.Sound) (takes : draft.Takes step next) :
    next.Sound := by
  cases takes with
  | filter yields =>
      rcases Condition.yields_compile yields with ⟨grows, stands⟩
      have kept := sound.withBindings grows
      exact { kept with
        conditions := List.forall_mem_append.mpr
          ⟨kept.conditions, List.forall_mem_singleton.mpr stands.uses⟩ }
  | update yields =>
      rcases Write.yields_compileUpdate yields with ⟨grows, uses⟩
      exact (sound.withBindings grows).addUpdates uses
  | updateRow yields =>
      rcases Write.yields_compileRow yields with ⟨grows, bound⟩
      exact (sound.withBindings grows).addUpdates fun write member => (bound write member).uses
  | insert yields =>
      rcases Write.yields_compileInsert yields with ⟨grows, bound⟩
      exact (sound.withBindings grows).addInserts bound
  | insertRow yields =>
      rcases Write.yields_compileRow yields with ⟨grows, bound⟩
      exact (sound.withBindings grows).addInserts bound
  | order key compiled =>
      rcases SortKey.namesColumn_of_compile compiled with ⟨name, named, rfl⟩
      exact { sound with
        ordering := List.forall_mem_append.mpr
          ⟨sound.ordering, List.forall_mem_singleton.mpr named.hasColumn⟩ }
  | select compiled =>
      rcases Selection.namesColumns_of_compile compiled with ⟨names, rfl, fields⟩
      refine { sound with selection := ?_ }
      intro name member
      rcases forall₂_right fields name member with ⟨field, _, named⟩
      exact named.hasColumn
  | aggregate compiled =>
      rcases Selection.namesColumn_of_compileAggregate compiled with ⟨name, rfl, named⟩
      exact { sound with selection := List.forall_mem_singleton.mpr named.hasColumn }
  | _ => exact { sound with }

/-! ## The statement of a sound draft -/

def window (draft : Draft) : List Token :=
  match draft.kind, draft.paging with
  | .select, some paging => paging.tokens
  | _, _ => []

theorem Sound.statement (sound : draft.Sound) {statement : Statement}
    (made : draft.statement = .ok statement) :
    statement.Over draft.schema.HasColumn draft.bindings.Knows ∧
      statement.kind = draft.kind ∧ statement.table = draft.table ∧
      statement.window = draft.window := by
  rw [Draft.statement.eq_def] at made
  split at made
  next kind =>
      rcases Except.ok.inj made with rfl
      refine ⟨⟨sound.selection, sound.conditions, sound.ordering⟩, kind.symm, rfl, ?_⟩
      cases paging : draft.paging <;> simp [Statement.window, window, kind, paging]
  next kind =>
      rcases Except.ok.inj made with rfl
      exact ⟨sound.conditions, kind.symm, rfl, by simp [Statement.window, window, kind]⟩
  next kind =>
      split at made
      next => contradiction
      next =>
          rcases Except.ok.inj made with rfl
          exact ⟨sound.inserts, kind.symm, rfl, by simp [Statement.window, window, kind]⟩
  next kind =>
      split at made
      next => contradiction
      next =>
          rcases Except.ok.inj made with rfl
          exact ⟨⟨sound.updates, sound.conditions⟩, kind.symm, rfl,
            by simp [Statement.window, window, kind]⟩
  next kind =>
      rcases Except.ok.inj made with rfl
      exact ⟨sound.conditions, kind.symm, rfl, by simp [Statement.window, window, kind]⟩

theorem window_not_hostile (draft : Draft) : ∀ token ∈ draft.window, ¬ token.Hostile := by
  unfold window
  split
  next paging _ _ => cases paging <;> simp [Paging.tokens, Token.Hostile]
  next => simp

/-- Nothing but its vocabulary, its table, declared columns, bound placeholders, constant
conditions and numbers of rows is in a statement that a draft renders. -/
theorem sql_has_clean_tokens {schema : Schema} {settings : Settings}
    (distinctive : Distinctive settings.sigil) {steps : List Step}
    (ran : (empty schema settings).attempt steps = draft) {text : String}
    (rendered : draft.sql = .ok text) :
    ∃ opening body,
      Token.read? settings.sigil text = some (opening ++
        .word draft.kind.tableWord :: .identifier draft.table :: (body ++ draft.window)) ∧
      Clean schema.HasColumn (· ∈ draft.bindings.names) draft.kind.openingVocabulary opening ∧
      Clean schema.HasColumn (· ∈ draft.bindings.names) draft.kind.bodyVocabulary body ∧
      ∀ token ∈ opening ++ body ++ draft.window, ¬ token.Hostile := by
  subst ran
  rcases (empty schema settings).attempt_grows steps with ⟨sameSchema, grows⟩
  have sound := attempt_preserves (fun sound takes => Takes.sound sound takes)
    (sound_empty schema settings) steps
  generalize (empty schema settings).attempt steps = draft at *
  cases made : draft.statement with
  | error e => simp [sql, made, Except.map] at rendered
  | ok statement =>
      have same : statement.render = text := by simpa [sql, made, Except.map] using rendered
      subst same
      rcases sound.statement made with ⟨uses, kind, table, window⟩
      rw [sameSchema] at uses
      have numbered : statement.Over schema.HasColumn (IsNumbered settings.sigil) :=
        uses.imp (fun _ => id) (fun _ => grows.isNumbered)
      have named : statement.Over schema.HasColumn (· ∈ draft.bindings.names) :=
        uses.imp (fun _ => id) (fun _ knows => knows.2)
      have read := (spells_statement distinctive numbered).read?
      rw [Statement.tokens, kind, table, window] at read
      have opening := clean_opening named
      have body := clean_body named
      rw [kind] at opening body
      refine ⟨_, _, read, opening, body, ?_⟩
      have semicolons := draft.kind.semicolon_not_mem
      intro token member
      rcases List.mem_append.mp member with inside | inside
      · rcases List.mem_append.mp inside with inside | inside
        · exact opening.not_hostile semicolons.1 token inside
        · exact body.not_hostile semicolons.2 token inside
      · exact draft.window_not_hostile token inside

def guestUpdate : List Step :=
  [.update (.assign [("Age",
      .binary (.compute .add) (.member "Age") (.constant (.int 1)))]),
   .filter guestFilter]

def guestUpdateText : String :=
  "UPDATE \x60guests\x60 SET \x60age\x60=\x60age\x60 + @p0 " ++
    "WHERE (\x60age\x60 > @p1 OR NOT (\x60name\x60 LIKE @p2))"

theorem sql_has_clean_tokens_guests :
    ((empty guests .default).attempt guestUpdate).sql = .ok guestUpdateText ∧
      ∃ opening body,
        Token.read? "@" guestUpdateText =
          some (opening ++ .word "UPDATE" :: .identifier "guests" :: (body ++ [])) ∧
        Clean guests.HasColumn (· ∈ ["@p0", "@p1", "@p2"])
          StatementKind.update.openingVocabulary opening ∧
        Clean guests.HasColumn (· ∈ ["@p0", "@p1", "@p2"])
          StatementKind.update.bodyVocabulary body := by
  have rendered : ((empty guests .default).attempt guestUpdate).sql = .ok guestUpdateText := by
    rfl
  rcases sql_has_clean_tokens distinctive_at rfl rendered with
    ⟨opening, body, read, cleanOpening, cleanBody, _⟩
  exact ⟨rendered, opening, body, read, cleanOpening, cleanBody⟩

end Draft

end BoundSql.Sql
