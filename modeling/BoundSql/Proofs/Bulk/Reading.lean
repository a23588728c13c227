import BoundSql.Proofs.Bulk.Reader

/-!
Which rows bulk statements accept, and what they say of the rows that they do. A statement is made
if every needed column has a literal for every row, and is read back row for row, whatever its
texts are. The main statement is `insert_and_update_read_back`.
-/

namespace BoundSql.Sql.Bulk

open Entity Write

/-! ## Which rows have literals -/

def HasLiteral (values : MemberValues) (column : Column) : Prop :=
  ∃ stored, storedIn? values column = some stored ∧
    ∀ x, stored = .float x → x.isFinite = true

/-- Why a row has no literal for a column. -/
inductive NoLiteral (values : MemberValues) (column : Column) : CompileError → Prop
  | lacks {error : CompileError} (reason : Lacks values column error) :
      NoLiteral values column error
  | notFinite {x : Binary64} (stored : storedIn? values column = some (.float x))
      (infinite : x.isFinite = false) :
      NoLiteral values column
        (.unsupported .insert ("non-finite float " ++ Value.floatText x))

section

variable {values : MemberValues} {column : Column} {error : CompileError} {stored : Value}

theorem ofValue_eq_error_iff (kept : storedIn? values column = some stored) :
    Literal.ofValue stored = .error error ↔
      ∃ x, stored = .float x ∧ x.isFinite = false ∧
        error = .unsupported .insert ("non-finite float " ++ Value.floatText x) := by
  rcases Option.bind_eq_some_iff.mp kept with ⟨value, -, fits⟩
  have kind := Value.kind_of_stored? fits
  cases stored with
  | float x =>
      rw [Literal.ofValue]
      split
      next finite => simp [finite]
      next infinite => simpa [infinite] using eq_comm
  | list items => simp [Value.kind?] at kind
  | _ => simp [Literal.ofValue]

theorem literalIn_eq_error_iff :
    literalIn values column = .error error ↔ NoLiteral values column error := by
  rw [literalIn, except_bind_eq_error, stored_eq_error_iff]
  constructor
  · rintro (lacks | ⟨stored, kept, failed⟩)
    · exact .lacks lacks
    · rw [stored_eq_ok_iff] at kept
      rcases (ofValue_eq_error_iff kept).mp failed with ⟨x, rfl, infinite, rfl⟩
      exact .notFinite kept infinite
  · rintro (lacks | ⟨kept, infinite⟩)
    · exact .inl lacks
    · exact .inr ⟨_, stored_eq_ok_iff.mpr kept,
        (ofValue_eq_error_iff kept).mpr ⟨_, rfl, infinite, rfl⟩⟩

theorem exists_literalIn_iff :
    (∃ literal, literalIn values column = .ok literal) ↔ HasLiteral values column := by
  rw [literalIn]
  constructor
  · rintro ⟨literal, made⟩
    rcases except_bind_eq_ok.mp made with ⟨stored, kept, made⟩
    rw [stored_eq_ok_iff] at kept
    refine ⟨stored, kept, ?_⟩
    rintro x rfl
    rw [Literal.ofValue] at made
    split at made
    next finite => exact finite
    next => contradiction
  · rintro ⟨stored, kept, finite⟩
    cases made : Literal.ofValue stored with
    | ok literal =>
        exact ⟨literal, except_bind_eq_ok.mpr ⟨stored, stored_eq_ok_iff.mpr kept, made⟩⟩
    | error error =>
        rcases (ofValue_eq_error_iff kept).mp made with ⟨x, rfl, infinite, -⟩
        rw [finite x rfl] at infinite
        contradiction

end

/-- A statement is made exactly if all its rows have all their literals; otherwise the first
missing one, row by row and column by column, is the error. -/
structure Decides (columns : List Column) (rows : List MemberValues)
    (outcome : Except CompileError String) : Prop where
  accepts : (∃ text, outcome = .ok text) ↔
    ∀ values ∈ rows, ∀ column ∈ columns, HasLiteral values column
  refuses : ∀ error, outcome = .error error ↔
    FirstFailure (fun values => FirstFailure (NoLiteral values) columns) rows error

theorem mapM_literalIn_eq_error_iff {columns : List Column} {values : MemberValues}
    {error : CompileError} :
    columns.mapM (literalIn values) = .error error ↔
      FirstFailure (NoLiteral values) columns error := by
  simp only [mapM_eq_error_iff, literalIn_eq_error_iff]

theorem exists_mapM_literalIn_iff {columns : List Column} {values : MemberValues} :
    (∃ literals, columns.mapM (literalIn values) = .ok literals) ↔
      ∀ column ∈ columns, HasLiteral values column := by
  simp only [exists_mapM_eq_ok_iff, exists_literalIn_iff]

theorem decides_mapM (columns : List Column) (rows : List MemberValues)
    (render : List (List Literal) → String) :
    Decides columns rows
      (rows.mapM (fun values => columns.mapM (literalIn values)) >>= fun literals =>
        return render literals) := by
  constructor
  · simp only [← exists_mapM_literalIn_iff, ← @exists_mapM_eq_ok_iff MemberValues,
      except_bind_eq_ok]
    constructor
    · rintro ⟨_, literals, made, -⟩
      exact ⟨literals, made⟩
    · rintro ⟨literals, made⟩
      exact ⟨render literals, literals, made, rfl⟩
  · intro error
    simp only [except_bind_eq_error, @mapM_eq_error_iff MemberValues,
      mapM_literalIn_eq_error_iff]
    refine or_iff_left ?_
    rintro ⟨literals, -, failed⟩
    contradiction

/-! ## What literals say -/

section

variable {values : MemberValues} {column : Column}

/-- What the literal of the value that a column stores of a row is read as. Read on its own it says
the same, and a text says itself, whatever its characters are. -/
def Renders (values : MemberValues) (column : Column) (datum : Datum) : Prop :=
  ∃ stored literal, storedIn? values column = some stored ∧
    Literal.ofValue stored = .ok literal ∧
    (Token.read? "@" literal.render).bind Datum.ofTokens? = some datum ∧
    Datum.storedAs? column.kind datum = some stored.written ∧
    ∀ text, stored = .text text → datum = .text text

theorem exists_datum {literal : Literal} (made : literalIn values column = .ok literal) :
    ∃ group datum, Spells "@" literal.render group ∧ IsDatum group datum ∧
      Renders values column datum := by
  rw [literalIn] at made
  rcases except_bind_eq_ok.mp made with ⟨stored, kept, made⟩
  rw [stored_eq_ok_iff] at kept
  rcases Option.bind_eq_some_iff.mp kept with ⟨value, -, fits⟩
  rcases says_ofValue made (Value.kind_of_stored? fits) with ⟨group, spells, read⟩
  rcases Option.bind_eq_some_iff.mp read with ⟨datum, isDatum, stores⟩
  refine ⟨group, datum, spells, isDatum, stored, literal, kept, made, ?_, stores, ?_⟩
  · rw [spells.read?, Option.bind_some, isDatum]
  · rintro text rfl
    rcases Except.ok.inj made with rfl
    have same := Option.some.inj (spells.read?.symm.trans (spells_text distinctive_at text).read?)
    subst same
    exact (Option.some.inj isDatum).symm

end

theorem exists_row {columns : List Column} {values : MemberValues} {literals : List Literal}
    (made : List.Forall₂ (fun column literal => literalIn values column = .ok literal)
      columns literals) :
    ∃ groups data, List.Forall₂ (Spells "@") (literals.map Literal.render) groups ∧
      List.Forall₂ IsDatum groups data ∧ List.Forall₂ (Renders values) columns data := by
  induction made with
  | nil => exact ⟨[], [], .nil, .nil, .nil⟩
  | cons first _ induction =>
      rcases exists_datum first with ⟨group, datum, spells, read, renders⟩
      rcases induction with ⟨groups, data, spelled, others, rendered⟩
      exact ⟨group :: groups, datum :: data, .cons spells spelled, .cons read others,
        .cons renders rendered⟩

theorem exists_rows {columns : List Column} (anyColumn : columns ≠ []) {rows : List MemberValues}
    {literals : List (List Literal)}
    (made : List.Forall₂ (fun values row => columns.mapM (literalIn values) = .ok row)
      rows literals) :
    ∃ groups data,
      List.Forall₂ (fun row groups => List.Forall₂ (Spells "@") (row.map Literal.render) groups)
        literals groups ∧
      List.Forall₂ IsRow groups data ∧
      List.Forall₂ (fun values data => List.Forall₂ (Renders values) columns data) rows data := by
  induction made with
  | nil => exact ⟨[], [], .nil, .nil, .nil⟩
  | cons first _ induction =>
      rcases exists_row (forall₂_of_mapM first) with ⟨groups, data, spells, each, renders⟩
      rcases induction with ⟨others, rest, spelled, read, rendered⟩
      have nonempty : data ≠ [] := by
        rintro rfl
        exact anyColumn (List.forall₂_nil_right_iff.mp renders)
      exact ⟨groups :: others, data :: rest, .cons spells spelled, .cons ⟨nonempty, each⟩ read,
        .cons renders rendered⟩

/-! ## Spelling of updates -/

theorem spells_qualified (table : String) (word : isWord table = true)
    (name : String) :
    Spells "@" (qualified table name) (qualifiedTokens table name) := by
  intro rest breaks
  rw [isWord] at word
  cases shape : table.toList with
  | nil => simp [shape] at word
  | cons c row =>
      simp only [shape, Bool.and_eq_true, Bool.not_eq_true', List.all_eq_true] at word
      have quoted := spells_identifier distinctive_at name rest breaks
      have point : ∀ d ∈ ('.' :: ((quoteIdentifier name).toList ++ rest)).head?,
          Token.isNameChar d = false := by simp [Token.isNameChar]
      have before := readAll_name distinctive_at word.2 point
      have text : (qualified table name).toList ++ rest =
          c :: row ++ '.' :: ((quoteIdentifier name).toList ++ rest) := by
        simp [qualified, shape]
      rw [toList_at] at quoted before ⊢
      rw [text, before, readAll_point, quoted, ← shape, String.ofList_toList, word.1]
      simp [qualifiedTokens, Function.comp_def]

theorem spells_renderPair (column : Column) {operator : String}
    (leads : Leads "@" operator [.symbol "="]) (opens : Opens operator) :
    Spells "@" (renderPair column operator) (pairTokens column) := by
  have left := spells_qualified "T1" (by decide) column.name
  have right := spells_qualified "T2" (by decide) column.name
  have pair := (left.leads_append leads opens).spells_append right
  simpa [pairTokens, renderPair] using pair

theorem spells_renderSelect (columns : List Column) {literals : List Literal}
    {groups : List (List Token)}
    (spelled : List.Forall₂ (Spells "@") (literals.map Literal.render) groups) :
    Spells "@" (renderSelect columns literals) (selectTokens columns groups) := by
  have opening : Leads "@" "SELECT " [.word "SELECT"] := leads_phrase distinctive_at (by decide)
  have named : Leads "@" " AS " [.word "AS"] := leads_phrase distinctive_at (by decide)
  apply opening.spells_append
  apply spells_row distinctive_at
  rw [List.forall₂_map_left_iff] at spelled
  induction spelled generalizing columns with
  | nil => exact .nil
  | cons first _ induction =>
      cases columns with
      | nil => exact .nil
      | cons column columns =>
          have item := (first.leads_append named (by decide)).spells_append
            (spells_identifier distinctive_at column.name)
          rw [List.append_assoc] at item
          exact .cons item (induction columns)

theorem spells_renderUpdate (table : String) (key : Column) (columns : List Column)
    {rows : List (List Literal)} {groups : List (List (List Token))}
    (spelled : List.Forall₂
      (fun row groups => List.Forall₂ (Spells "@") (row.map Literal.render) groups)
      rows groups) :
    Spells "@" (renderUpdate table key columns rows) (updateTokens table key columns groups) := by
  have update : Leads "@" "UPDATE " [.word "UPDATE"] := leads_phrase distinctive_at (by decide)
  have union : Leads "@" " UNION ALL " [.word "UNION", .word "ALL"] :=
    leads_phrase distinctive_at (by decide)
  -- The short names have digits, which no phrase has.
  have target : Leads "@" (" " ++ "T1" ++ " JOIN (")
      ([] ++ [.word "T1"] ++ [.word "JOIN", .symbol "("]) :=
    (leads_blank.spells_append (spells_word distinctive_at (by decide))).leads_append
      (leads_phrase distinctive_at (by decide)) (by decide)
  have close : Leads "@" ") " [.symbol ")"] := leads_phrase distinctive_at (by decide)
  have source : Leads "@" (") " ++ "T2" ++ " ON ")
      ([.symbol ")"] ++ [.word "T2"] ++ [.word "ON"]) :=
    (close.spells_append (spells_word distinctive_at (by decide))).leads_append
      (leads_phrase distinctive_at (by decide)) (by decide)
  have set : Leads "@" " SET " [.word "SET"] := leads_phrase distinctive_at (by decide)
  have selects : Spells "@"
      (" UNION ALL ".intercalate (rows.map (renderSelect (key :: columns))))
      ([.word "UNION", .word "ALL"].intercalate (groups.map (selectTokens (key :: columns)))) := by
    apply spells_separated union (by decide)
    rw [List.forall₂_map_left_iff, List.forall₂_map_right_iff]
    exact spelled.imp fun _ _ => spells_renderSelect (key :: columns)
  have equals : Leads "@" (" " ++ "=" ++ " ") [.symbol "="] :=
    leads_operator distinctive_at (by decide)
  have joined := spells_renderPair key equals (by decide)
  have sets : Spells "@" (",".intercalate (columns.map fun column => renderPair column "="))
      (commaTokens (columns.map pairTokens)) :=
    spells_commas distinctive_at fun column _ =>
      spells_renderPair column (leads_phrase distinctive_at (by decide)) (by decide)
  have head := (update.spells_append (spells_identifier distinctive_at table)).leads_append target
    (by decide)
  have derived := (head.spells_append selects).leads_append source (by decide)
  have statement := ((derived.spells_append joined).leads_append set (by decide)).spells_append sets
  simpa [updateTokens, renderUpdate] using statement

/-! ## Statements -/

structure ReadsInserted (schema : Schema) (table : String) (rows : List MemberValues)
    (text : String) : Prop where
  statement : ∃ tuples,
    (Token.read? "@" text).bind Inserted.ofTokens? =
      some { table, columns := schema.persisted.map (·.name), tuples } ∧
    List.Forall₂ (fun values tuple => List.Forall₂ (Renders values) schema.persisted tuple)
      rows tuples

/-- What an update is read back as: one select for each row, its items named for the key and the
persisted columns, a join on the key, and the persisted columns to be set. -/
structure ReadsUpdated (schema : Schema) (table : String) (key : Column)
    (rows : List MemberValues) (text : String) : Prop where
  statement : ∃ data,
    (Token.read? "@" text).bind Updated.ofTokens? =
      some { table
             selects := data.map (·.zip ((key :: schema.persisted).map (·.name)))
             joined := (key.name, key.name)
             sets := schema.persisted.map fun column => (column.name, column.name) } ∧
    List.Forall₂ (fun values data => List.Forall₂ (Renders values) (key :: schema.persisted) data)
      rows data

/-- The columns that an update assigns, as it is read back. -/
def Assigns (text name : String) : Prop :=
  ∃ updated, (Token.read? "@" text).bind Updated.ofTokens? = some updated ∧
    name ∈ updated.sets.map Prod.fst

theorem ReadsUpdated.assigns_iff {schema : Schema} {table text : String} {key : Column}
    {rows : List MemberValues} (reads : ReadsUpdated schema table key rows text) {name : String} :
    Assigns text name ↔ name ∈ schema.persisted.map (·.name) := by
  rcases reads.statement with ⟨data, read, -⟩
  unfold Assigns
  simp [read]

theorem name_not_mem_persisted {schema : Schema} {key : Column} (found : schema.key? = some key)
    (distinct : (schema.columns.map (·.name)).Nodup) :
    key.name ∉ schema.persisted.map (·.name) := by
  intro among
  rcases List.mem_map.mp among with ⟨column, persisted, same⟩
  have equal := List.inj_on_of_nodup_map distinct (mem_columns_of_mem_persisted persisted)
    (List.mem_of_find?_eq_some found) same
  have isKey := List.find?_some found
  have notKey := isKey_of_mem_persisted persisted
  rw [equal, isKey] at notKey
  contradiction

section

variable {schema : Schema} (distinct : (schema.columns.map (·.member)).Nodup)

include distinct

theorem insert_eq (table : String) {rows : List MemberValues}
    (anyColumn : schema.persisted ≠ []) (anyRow : rows ≠ []) :
    insert schema table rows =
      rows.mapM (fun values => schema.persisted.mapM (literalIn values)) >>= fun literals =>
        return renderInsert table schema.persisted literals := by
  have literals : literalsFor schema schema.persisted =
      fun values => schema.persisted.mapM (literalIn values) :=
    funext (literalsFor_eq distinct fun _ => mem_columns_of_mem_persisted)
  simp [insert, anyColumn, anyRow, literals]

theorem update_eq (table : String) {key : Column} {rows : List MemberValues}
    (found : schema.key? = some key) (anyColumn : schema.persisted ≠ []) (anyRow : rows ≠ []) :
    update schema table rows =
      rows.mapM (fun values => (key :: schema.persisted).mapM (literalIn values)) >>=
        fun literals => return renderUpdate table key schema.persisted literals := by
  have inside : ∀ column ∈ key :: schema.persisted, column ∈ schema.columns :=
    List.forall_mem_cons.mpr
      ⟨List.mem_of_find?_eq_some found, fun _ => mem_columns_of_mem_persisted⟩
  have literals : literalsFor schema (key :: schema.persisted) =
      fun values => (key :: schema.persisted).mapM (literalIn values) :=
    funext (literalsFor_eq distinct inside)
  simp only [update, found, literals]
  simp [anyColumn, anyRow]

theorem readsInserted {table text : String} {rows : List MemberValues}
    (anyColumn : schema.persisted ≠ []) (anyRow : rows ≠ [])
    (accepted : insert schema table rows = .ok text) : ReadsInserted schema table rows text := by
  rw [insert_eq distinct table anyColumn anyRow, except_bind_eq_ok] at accepted
  rcases accepted with ⟨literals, made, rendered⟩
  rcases Except.ok.inj rendered with rfl
  rcases exists_rows anyColumn (forall₂_of_mapM made) with ⟨tuples, data, spelled, read, rendered⟩
  have anyDatum : data ≠ [] := by
    rintro rfl
    exact anyRow (List.forall₂_nil_right_iff.mp rendered)
  have spells : List.Forall₂ (Spells "@") (literals.map renderTuple) (tuples.map tupleTokens) := by
    rw [List.forall₂_map_left_iff, List.forall₂_map_right_iff]
    exact spelled.imp fun _ _ => spells_renderTuple
  refine ⟨data, ?_, rendered⟩
  rw [(spells_renderInsert table schema.persisted spells).read?, Option.bind_some,
    ofTokens?_insertTokens table anyColumn anyDatum read]

theorem readsUpdated {table text : String} {key : Column} {rows : List MemberValues}
    (found : schema.key? = some key) (anyColumn : schema.persisted ≠ []) (anyRow : rows ≠ [])
    (accepted : update schema table rows = .ok text) :
    ReadsUpdated schema table key rows text := by
  rw [update_eq distinct table found anyColumn anyRow, except_bind_eq_ok] at accepted
  rcases accepted with ⟨literals, made, rendered⟩
  rcases Except.ok.inj rendered with rfl
  rcases exists_rows (by simp) (forall₂_of_mapM made) with ⟨groups, data, spelled, read, rendered⟩
  have anyDatum : data ≠ [] := by
    rintro rfl
    exact anyRow (List.forall₂_nil_right_iff.mp rendered)
  refine ⟨data, ?_, rendered⟩
  rw [(spells_renderUpdate table key schema.persisted spelled).read?, Option.bind_some,
    ofTokens?_updateTokens table key anyColumn anyDatum read]

/-- Bulk statements are made exactly of rows that have all their literals, and are read back row for
row. An update assigns the column of its key exactly if a persisted column has the same name, so
never where the names of the columns are distinct. -/
theorem insert_and_update_read_back (table : String) {rows : List MemberValues}
    (anyColumn : schema.persisted ≠ []) (anyRow : rows ≠ []) :
    (Decides schema.persisted rows (insert schema table rows) ∧
      ∀ text, insert schema table rows = .ok text → ReadsInserted schema table rows text) ∧
    ∀ key, schema.key? = some key →
      Decides (key :: schema.persisted) rows (update schema table rows) ∧
        ∀ text, update schema table rows = .ok text →
          ReadsUpdated schema table key rows text ∧
          (Assigns text key.name ↔ key.name ∈ schema.persisted.map (·.name)) ∧
          ((schema.columns.map (·.name)).Nodup → ¬ Assigns text key.name) := by
  refine ⟨⟨?_, fun text => readsInserted distinct anyColumn anyRow⟩, ?_⟩
  · rw [insert_eq distinct table anyColumn anyRow]
    exact decides_mapM ..
  · intro key found
    constructor
    · rw [update_eq distinct table found anyColumn anyRow]
      exact decides_mapM ..
    · intro text accepted
      have reads := readsUpdated distinct found anyColumn anyRow accepted
      refine ⟨reads, reads.assigns_iff, fun apart assigned => ?_⟩
      exact name_not_mem_persisted found apart (reads.assigns_iff.mp assigned)

end

/-- Two guests, one of them with a name that looks like the end of a tuple. -/
def guestRows : List MemberValues :=
  [[("Id", .int 1), ("Name", .text "Ann'),('\\"), ("Age", .null)],
   [("Id", .int 2), ("Name", .text "Bob"), ("Age", .int (-3))]]

theorem insert_and_update_read_back_guests :
    (∃ text, insert guests "guests" guestRows = .ok text ∧
      ReadsInserted guests "guests" guestRows text) ∧
    ∃ key text, guests.key? = some key ∧ update guests "guests" guestRows = .ok text ∧
      ReadsUpdated guests "guests" key guestRows text ∧ ¬ Assigns text key.name := by
  have distinct : (guests.columns.map (·.member)).Nodup := by decide
  have apart : (guests.columns.map (·.name)).Nodup := by decide
  have anyColumn : guests.persisted ≠ [] := List.cons_ne_nil _ _
  have anyRow : guestRows ≠ [] := List.cons_ne_nil _ _
  have read := insert_and_update_read_back distinct "guests" anyColumn anyRow
  have updated := (read.2 _ rfl).2 _ rfl
  exact ⟨⟨_, by rfl, read.1.2 _ rfl⟩, _, _, by rfl, by rfl, updated.1, updated.2.2 apart⟩

def twiceIdentified : Declaration where
  name := "User"
  table := some "user"
  members := [⟨"UserID", .int, true, false, false⟩, ⟨"user_id", .text, false, false, false⟩]

def twiceIdentifiedSchema : Schema where
  entity := "User"
  defaultTable := "user"
  otherTables := []
  columns := [⟨"UserID", "user_id", .int, true, true, false, true⟩,
    ⟨"user_id", "user_id", .text, false, false, false, true⟩]

/-- The declaration is accepted, and an update assigns the column of its key. -/
theorem update_assigns_key :
    Schema.resolve twiceIdentified = .ok twiceIdentifiedSchema ∧
    ∃ key text, twiceIdentifiedSchema.key? = some key ∧
      update twiceIdentifiedSchema "user" [[("UserID", .int 1), ("user_id", .text "a")]] =
        .ok text ∧
      Assigns text key.name := by
  have distinct : (twiceIdentifiedSchema.columns.map (·.member)).Nodup := by decide
  have found : twiceIdentifiedSchema.key? =
      some ⟨"UserID", "user_id", .int, true, true, false, true⟩ := rfl
  have anyColumn : twiceIdentifiedSchema.persisted ≠ [] := List.cons_ne_nil _ _
  have updated : update twiceIdentifiedSchema "user"
      [[("UserID", .int 1), ("user_id", .text "a")]] = .ok
        ("UPDATE \x60user\x60 T1 JOIN (SELECT 1 AS \x60user_id\x60,'a' AS \x60user_id\x60) T2 " ++
          "ON T1.\x60user_id\x60 = T2.\x60user_id\x60 SET T1.\x60user_id\x60=T2.\x60user_id\x60") :=
    by rfl
  have reads := readsUpdated distinct found anyColumn (List.cons_ne_nil _ _) updated
  have shared : "user_id" ∈ twiceIdentifiedSchema.persisted.map (·.name) := by decide
  exact ⟨by rfl, _, _, found, updated, reads.assigns_iff.mpr shared⟩

end BoundSql.Sql.Bulk
