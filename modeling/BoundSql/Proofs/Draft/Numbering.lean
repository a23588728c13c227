import BoundSql.Proofs.Numbering
import BoundSql.Proofs.Draft.Soundness

/-!
Placeholders in texts. What a compiler writes has exactly the placeholders that it adds to
the bindings, each once and in the order of binding. The bindings of a draft stay numbered
whatever steps are tried on it, so no step fails because of a name, and the text of a draft
has no placeholder that is not bound.
-/

namespace BoundSql.Sql

open Entity Compiler

/-! ## Placeholders among tokens -/

def Token.placeholder? : Token → Option String
  | .placeholder name => some name
  | _ => none

def placeholdersIn? (sigil : String) : List String → Option (List String)
  | [] => some []
  | text :: texts => do
      let tokens ← Token.read? sigil text
      let names ← placeholdersIn? sigil texts
      return tokens.filterMap Token.placeholder? ++ names

theorem filterMap_commaTokens (items : List (List Token)) :
    (commaTokens items).filterMap Token.placeholder? =
      items.flatMap (·.filterMap Token.placeholder?) := by
  induction items with
  | nil => rfl
  | cons item items induction =>
      cases items with
      | nil => simp
      | cons next items =>
          rw [commaTokens_cons_cons, List.filterMap_append, List.flatMap_cons, ← induction]
          rfl

theorem Condition.placeholders_eq (condition : Condition) :
    condition.tokens.filterMap Token.placeholder? = condition.placeholders := by
  induction condition with
  | always truth => rfl
  | compare column op name => rfl
  | isNull column negated name => cases negated <;> rfl
  | like column name => rfl
  | among column names =>
      simp [tokens, placeholders, List.filterMap_cons, Token.placeholder?, filterMap_commaTokens,
        List.flatMap_map]
  | and left right first second =>
      simp [tokens, placeholders, List.filterMap_cons, Token.placeholder?, first, second]
  | or left right first second =>
      simp [tokens, placeholders, List.filterMap_cons, Token.placeholder?, first, second]
  | not operand inner =>
      simp [tokens, placeholders, List.filterMap_cons, Token.placeholder?, inner]

theorem Term.placeholders_eq (term : Term) (nested : Bool) :
    (term.tokensIn nested).filterMap Token.placeholder? = term.placeholders := by
  induction term generalizing nested with
  | placeholder name => rfl
  | column name => rfl
  | compute op left right first second =>
      cases nested <;>
        simp [tokensIn, placeholders, List.filterMap_cons, Token.placeholder?, first true,
          second true]

section

variable {sigil : String}

theorem Spells.placeholdersIn? {text : String} {tokens : List Token}
    (spells : Spells sigil text tokens) (texts : List String) :
    Sql.placeholdersIn? sigil (text :: texts) =
      (Sql.placeholdersIn? sigil texts).map (tokens.filterMap Token.placeholder? ++ ·) := by
  rw [Sql.placeholdersIn?, spells.read?]
  cases Sql.placeholdersIn? sigil texts <;> rfl

theorem Spells.placeholdersIn?_singleton {text : String} {tokens : List Token}
    (spells : Spells sigil text tokens) :
    Sql.placeholdersIn? sigil [text] = some (tokens.filterMap Token.placeholder?) := by
  rw [spells.placeholdersIn?, Sql.placeholdersIn?, Option.map_some, List.append_nil]

theorem Condition.placeholdersIn?_render (distinctive : Distinctive sigil) {condition : Condition}
    (uses : condition.Over (fun _ => True) (IsNumbered sigil)) :
    placeholdersIn? sigil [condition.render] = some condition.placeholders := by
  rw [(spells_render distinctive uses).placeholdersIn?_singleton, placeholders_eq]

def Write.texts (writes : List Write) : List String :=
  writes.flatMap fun write => [write.renderColumn, write.renderValue]

theorem Write.placeholdersIn?_texts (distinctive : Distinctive sigil)
    {columns : String → Prop} {writes : List Write}
    (uses : ∀ write ∈ writes, write.Over columns (IsNumbered sigil)) :
    placeholdersIn? sigil (texts writes) = some (writes.flatMap placeholders) := by
  induction writes with
  | nil => rfl
  | cons write writes induction =>
      rw [List.forall_mem_cons] at uses
      have column : Spells sigil write.renderColumn _ :=
        spells_identifier distinctive write.column
      have value : Spells sigil write.renderValue _ := spells_term distinctive uses.1.value false
      have others := induction uses.2
      rw [texts] at others
      rw [texts, List.flatMap_cons, List.cons_append, List.cons_append, List.nil_append,
        column.placeholdersIn?, value.placeholdersIn?, others, Term.placeholders_eq]
      rfl

end

/-! ## Compilers over numbered bindings -/

/-- What can be said of a compiler over numbered bindings: they stay numbered whether it fails
or not, and it never fails because of a name. If it succeeds, it keeps all that is bound and adds
exactly the placeholders of its texts, in order and each once. -/
structure Compiler.Numbers (compiler : Compiler α) (texts : α → List String) : Prop where
  numbered : ∀ bindings : Bindings, bindings.Numbered → (compiler.run bindings).2.bindings.Numbered
  noCollision : ∀ bindings : Bindings, bindings.Numbered →
    ∀ name, (compiler.run bindings).1 ≠ .error (.parameterCollision name)
  added : ∀ bindings : Bindings, bindings.Numbered →
    ∀ result after, compiler.run bindings = (.ok result, after) →
      ∃ names, names.Nodup ∧ bindings.Adds names after.bindings ∧
        (Distinctive bindings.sigil →
          placeholdersIn? bindings.sigil (texts result) = some names)

namespace Compiler

variable {compiler : Compiler α} {names : α → List String}

theorem Emits.yields (emits : Emits compiler (names · = ·)) {before after : Scratch}
    (numbered : before.bindings.Numbered) {result : α}
    (yields : compiler.Yields before result after) :
    after.bindings.Numbered ∧ before.bindings.Adds (names result) after.bindings := by
  have run := emits before numbered
  rw [show compiler.outcome before = (.ok result, after) from yields] at run
  rcases run with ⟨still, added, equal, adds⟩
  subst equal
  exact ⟨still, adds⟩

theorem Emits.safe (emits : Emits compiler (names · = ·)) (before : Scratch)
    (numbered : before.bindings.Numbered) : Safe (compiler.outcome before).1 := by
  have run := (emits before numbered).2
  intro e failed
  rw [failed] at run
  exact run

theorem Emits.numbers (emits : Emits compiler (names · = ·)) {texts : α → List String}
    (reads : ∀ {before : Scratch} {result : α} {after : Scratch},
      Distinctive before.bindings.sigil → compiler.Yields before result after →
        placeholdersIn? before.bindings.sigil (texts result) = some (names result)) :
    compiler.Numbers texts where
  numbered bindings numbered := (emits { bindings } numbered).1
  noCollision := by
    intro bindings numbered name failed
    have other := emits.safe { bindings } numbered _ failed
    simp [CompileError.isCollision] at other
  added := by
    intro bindings numbered result after run
    have yields := run_eq_ok_iff.mp run
    rcases emits.yields numbered yields with ⟨still, adds⟩
    exact ⟨_, adds.nodup still, adds, fun distinctive => reads distinctive yields⟩

end Compiler

section

variable (schema : Schema)

theorem Condition.numbers_compile (expr : Expr) :
    (compile schema expr).Numbers fun condition => [condition.render] := by
  apply (emits_compile expr).numbers
  intro before condition after distinctive yields
  rcases yields_compile yields with ⟨grows, stands⟩
  exact placeholdersIn?_render distinctive
    (stands.uses.imp (fun _ _ => trivial) fun _ => grows.isNumbered)

namespace Write

theorem numbers_compileUpdate (expr : Expr) : (compileUpdate schema expr).Numbers texts := by
  apply (emits_compileUpdate expr).numbers
  intro before writes after distinctive yields
  rcases yields_compileUpdate yields with ⟨grows, uses⟩
  exact placeholdersIn?_texts distinctive fun write member =>
    (uses write member).imp (fun _ => id) fun _ => grows.isNumbered

theorem numbers_compileInsert (expr : Expr) : (compileInsert schema expr).Numbers texts := by
  apply (emits_compileInsert expr).numbers
  intro before writes after distinctive yields
  rcases yields_compileInsert yields with ⟨grows, bound⟩
  exact placeholdersIn?_texts distinctive fun write member =>
    (bound write member).uses.imp (fun _ => id) fun _ => grows.isNumbered

theorem numbers_compileRow (values : MemberValues) :
    (compileRow schema values).Numbers texts := by
  apply (emits_compileRow values).numbers
  intro before writes after distinctive yields
  rcases yields_compileRow yields with ⟨grows, bound⟩
  exact placeholdersIn?_texts distinctive fun write member =>
    (bound write member).uses.imp (fun _ => id) fun _ => grows.isNumbered

end Write

end

/-! ## Placeholders of a statement -/

theorem placeholders_of_clean {columns known : String → Prop} {vocabulary : Vocabulary}
    {tokens : List Token} (clean : Clean columns known vocabulary tokens) :
    ∀ name ∈ tokens.filterMap Token.placeholder?, known name := by
  induction clean with
  | nil => simp
  | placeholder here _ induction =>
      rw [List.filterMap_cons]
      exact List.forall_mem_cons.mpr ⟨here, induction⟩
  | _ =>
      rename_i induction
      exact induction

theorem Paging.no_placeholders (paging : Paging) :
    paging.tokens.filterMap Token.placeholder? = [] := by
  cases paging <;> rfl

theorem Statement.placeholders_subset {columns known : String → Prop} {statement : Statement}
    (uses : statement.Over columns known) :
    ∀ name ∈ statement.tokens.filterMap Token.placeholder?, known name := by
  have window : statement.window.filterMap Token.placeholder? = [] := by
    unfold Statement.window
    split
    next paging => exact paging.no_placeholders
    next => rfl
  have opening := placeholders_of_clean (clean_opening uses)
  have body := placeholders_of_clean (clean_body uses)
  intro name member
  rw [Statement.tokens, List.filterMap_append, List.filterMap_cons, List.filterMap_cons,
    List.filterMap_append, window, List.append_nil] at member
  rcases List.mem_append.mp member with inside | inside
  · exact opening name inside
  · exact body name inside

/-! ## Drafts -/

theorem safe_columnNamed (schema : Schema) {otherwise : CompileError}
    (other : otherwise.isCollision = false) (expr : Expr) :
    Safe (columnNamed schema otherwise expr) := by
  unfold columnNamed
  split
  next => exact safe_columnOf schema _
  next => exact Safe.error other

theorem safe_mapM {make : α → Except CompileError β} (safe : ∀ item, Safe (make item))
    (items : List α) : Safe (items.mapM make) := by
  induction items with
  | nil => exact Safe.ok
  | cons item items induction =>
      rw [List.mapM_cons]
      apply Safe.bind (safe item)
      intro made
      apply Safe.bind induction
      intro rest
      exact Safe.ok

theorem Safe.map {given : Except CompileError α} (safe : Safe given) (make : α → β) :
    Safe (given.map make) := by
  cases given with
  | error e => exact Safe.error (safe e rfl)
  | ok value => exact Safe.ok

namespace Draft

variable {draft next : Draft}

theorem Takes.numbered {step : Step} (takes : draft.Takes step next)
    (numbered : draft.bindings.Numbered) : next.bindings.Numbered := by
  cases takes with
  | filter yields => exact ((Condition.emits_compile _).yields numbered yields).1
  | update yields => exact ((Write.emits_compileUpdate _).yields numbered yields).1
  | updateRow yields => exact ((Write.emits_compileRow _).yields numbered yields).1
  | insert yields => exact ((Write.emits_compileInsert _).yields numbered yields).1
  | insertRow yields => exact ((Write.emits_compileRow _).yields numbered yields).1
  | _ => exact numbered

theorem attempt_numbered (schema : Schema) (settings : Settings) (steps : List Step) :
    ((empty schema settings).attempt steps).bindings.Numbered :=
  attempt_preserves (motive := fun draft => draft.bindings.Numbered)
    (fun numbered takes => takes.numbered numbered) (Bindings.numbered_empty _) steps

theorem safe_compile {compiler : Compiler α} {names : α → List String}
    (emits : Emits compiler (names · = ·)) (numbered : draft.bindings.Numbered)
    (add : Draft → α → Draft) : Safe (draft.compile compiler add).1 := by
  have safe := emits.safe { bindings := draft.bindings } numbered
  unfold compile
  split
  next => exact Safe.ok
  next run =>
      apply Safe.error
      exact safe _ (congrArg Prod.fst run)

theorem safe_apply (numbered : draft.bindings.Numbered) (step : Step) :
    Safe (draft.apply step).1 := by
  cases step with
  | setTable name =>
      simp only [apply, Draft.setTable]
      split
      next => exact Safe.ok
      next => exact Safe.error rfl
  | setTableIndex index =>
      simp only [apply, Draft.setTableIndex]
      split
      next => exact Safe.ok
      next => exact Safe.error rfl
  | setKind kind => exact Safe.ok
  | filter expr => exact safe_compile (Condition.emits_compile expr) numbered _
  | update expr => exact safe_compile (Write.emits_compileUpdate expr) numbered _
  | updateRow values => exact safe_compile (Write.emits_compileRow values) numbered _
  | insert expr => exact safe_compile (Write.emits_compileInsert expr) numbered _
  | insertRow values => exact safe_compile (Write.emits_compileRow values) numbered _
  | order expr direction =>
      apply Safe.map
      apply Safe.bind (safe_columnNamed draft.schema rfl expr)
      intro column
      exact Safe.ok
  | select expr =>
      have item (item : Expr) : Safe (Selection.compileItem draft.schema item) := by
        apply Safe.bind (safe_columnNamed draft.schema rfl item)
        intro column
        exact Safe.ok
      apply Safe.map
      unfold Selection.compile
      split
      next => exact Safe.error rfl
      next items _ =>
          apply Safe.bind (safe_mapM item items)
          intro names
          exact Safe.ok
      next =>
          apply Safe.bind (safe_mapM item [expr])
          intro names
          exact Safe.ok
  | aggregate function expr =>
      apply Safe.map
      apply Safe.bind (safe_columnNamed draft.schema rfl expr)
      intro column
      exact Safe.ok
  | top size =>
      simp only [apply, setTop]
      split
      next => exact Safe.error rfl
      next => exact Safe.ok
  | range page size =>
      simp only [apply, setRange]
      split
      next => exact Safe.error rfl
      next =>
          split
          next => exact Safe.ok
          next => exact Safe.error rfl

theorem safe_sql (draft : Draft) : Safe draft.sql := by
  have made : Safe draft.statement := by
    unfold Draft.statement
    split
    next => exact Safe.ok
    next => exact Safe.ok
    next =>
        split
        next => exact Safe.error rfl
        next => exact Safe.ok
    next =>
        split
        next => exact Safe.error rfl
        next => exact Safe.ok
    next => exact Safe.ok
  exact made.map Statement.render

theorem statement_of_sql {schema : Schema} {settings : Settings}
    (distinctive : Distinctive settings.sigil) {steps : List Step}
    (ran : (empty schema settings).attempt steps = draft) {text : String}
    (rendered : draft.sql = .ok text) :
    ∃ statement, draft.statement = .ok statement ∧
      statement.Over draft.schema.HasColumn draft.bindings.Knows ∧
      Spells settings.sigil text statement.tokens := by
  subst ran
  have grows := ((empty schema settings).attempt_grows steps).2
  have sound := attempt_preserves (fun sound takes => Takes.sound sound takes)
    (sound_empty schema settings) steps
  generalize (empty schema settings).attempt steps = draft at *
  cases made : draft.statement with
  | error e => simp [sql, made, Except.map] at rendered
  | ok statement =>
      have same : statement.render = text := by simpa [sql, made, Except.map] using rendered
      subst same
      have uses := (sound.statement made).1
      exact ⟨statement, rfl, uses, spells_statement distinctive
        (uses.imp (fun _ => id) fun _ knows => grows.isNumbered knows)⟩

theorem placeholders_of_sql {schema : Schema} {settings : Settings}
    (distinctive : Distinctive settings.sigil) {steps : List Step}
    (ran : (empty schema settings).attempt steps = draft) {text : String}
    (rendered : draft.sql = .ok text) :
    ∃ names, placeholdersIn? settings.sigil [text] = some names ∧
      ∀ name ∈ names, name ∈ draft.bindings.names := by
  rcases statement_of_sql distinctive ran rendered with ⟨statement, _, uses, spells⟩
  exact ⟨_, spells.placeholdersIn?_singleton,
    Statement.placeholders_subset (uses.imp (fun _ => id) fun _ knows => knows.2)⟩

/-! ## Numbering -/

/-- Placeholders are numbered without a gap: by each compiler, in the order of its texts, and by
any steps that are tried on a draft, whether they succeed or not. -/
theorem placeholders_are_numbered (schema : Schema) :
    (∀ expr, (Condition.compile schema expr).Numbers fun condition => [condition.render]) ∧
    (∀ expr, (Write.compileUpdate schema expr).Numbers Write.texts) ∧
    (∀ expr, (Write.compileInsert schema expr).Numbers Write.texts) ∧
    (∀ values, (Write.compileRow schema values).Numbers Write.texts) ∧
    ∀ settings steps draft, (empty schema settings).attempt steps = draft →
      draft.bindings.names =
        (List.range draft.bindings.size).map (Bindings.nameOf settings.sigil) ∧
      draft.bindings.names.Nodup ∧
      (∀ step name, (draft.apply step).1 ≠ .error (.parameterCollision name)) ∧
      (∀ name, draft.sql ≠ .error (.parameterCollision name)) ∧
      (Distinctive settings.sigil → ∀ text, draft.sql = .ok text →
        ∃ names, placeholdersIn? settings.sigil [text] = some names ∧
          ∀ name ∈ names, name ∈ draft.bindings.names) := by
  refine ⟨Condition.numbers_compile schema, Write.numbers_compileUpdate schema,
    Write.numbers_compileInsert schema, Write.numbers_compileRow schema, ?_⟩
  intro settings steps draft ran
  have numbered : draft.bindings.Numbered := ran ▸ attempt_numbered schema settings steps
  have sigil : draft.bindings.sigil = settings.sigil :=
    ran ▸ ((empty schema settings).attempt_grows steps).2.sigil
  refine ⟨sigil ▸ numbered.names, numbered.nodup, ?_, ?_, ?_⟩
  · intro step name failed
    simpa [CompileError.isCollision] using safe_apply numbered step _ failed
  · intro name failed
    simpa [CompileError.isCollision] using safe_sql draft _ failed
  · intro distinctive text rendered
    exact placeholders_of_sql distinctive ran rendered

theorem placeholders_are_numbered_guests :
    (Write.compileUpdate guests (.assign [("Age", .constant (.int 4))])).run
        { sigil := "@", next := 1, entries := [("@p0", .null)] } =
      (.ok [⟨"age", .placeholder "@p1"⟩],
        { bindings := { sigil := "@", next := 2
                        entries := [("@p0", .null), ("@p1", .int 4)] } }) ∧
    placeholdersIn? "@" (Write.texts [⟨"age", .placeholder "@p1"⟩]) = some ["@p1"] ∧
    ((empty guests .default).attempt guestUpdate).sql = .ok guestUpdateText ∧
    ∃ names, placeholdersIn? "@" [guestUpdateText] = some names ∧
      ∀ name ∈ names, name ∈ ["@p0", "@p1", "@p2"] := by
  have all := placeholders_are_numbered guests
  have compiled : (Write.compileUpdate guests (.assign [("Age", .constant (.int 4))])).run
      { sigil := "@", next := 1, entries := [("@p0", .null)] } =
        (.ok [⟨"age", .placeholder "@p1"⟩],
          { bindings := { sigil := "@", next := 2
                          entries := [("@p0", .null), ("@p1", .int 4)] } }) := by
    rfl
  have rendered : ((empty guests .default).attempt guestUpdate).sql = .ok guestUpdateText := by
    rfl
  rcases (all.2.1 _).added _ ⟨rfl, rfl⟩ _ _ compiled with ⟨names, _, adds, reads⟩
  have behind : ["@p0", "@p1"] = ["@p0"] ++ names := adds.names
  rcases (List.cons.inj behind).2 with rfl
  exact ⟨compiled, reads distinctive_at, rendered,
    (all.2.2.2.2 .default guestUpdate _ rfl).2.2.2.2 distinctive_at _ rendered⟩

end Draft

end BoundSql.Sql
