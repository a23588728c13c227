import BoundSql.Proofs.Write
import BoundSql.Proofs.Selection

/-!
The tokens of statements. A statement is spelled by what stands before the name of its
table, that name, what stands behind it, and a window of rows.
-/

namespace BoundSql.Sql

/-! ## Tokens -/

namespace Term

def tokensIn (nested : Bool) : Term → List Token
  | .placeholder name => [.placeholder name]
  | .column name => [.identifier name]
  | .compute op left right =>
      let row := tokensIn true left ++ .symbol op.symbol :: tokensIn true right
      if nested then .symbol "(" :: (row ++ [.symbol ")"]) else row

def tokens (term : Term) : List Token := term.tokensIn false

end Term

def Write.tokens (write : Write) : List Token :=
  .identifier write.column :: .symbol "=" :: write.value.tokens

def SortKey.tokens (key : SortKey) : List Token :=
  [.identifier key.column, .word key.direction.keyword]

def Selection.tokens : Selection → List Token
  | .everything => [.symbol "*"]
  | .columns names => commaTokens (names.map fun name => [.identifier name])
  | .aggregate function column =>
      [.word function.function, .symbol "(", .identifier column, .symbol ")"]

def Paging.tokens : Paging → List Token
  | .top size => [.word "LIMIT", .number (wordText size)]
  | .page offset size =>
      [.word "LIMIT", .number (wordText offset), .symbol ",", .number (wordText size)]

namespace Statement

def whereTokens : List Condition → List Token
  | [] => []
  | first :: rest => .word "WHERE" :: (Condition.conjunction first rest).tokens

def orderingTokens : List SortKey → List Token
  | [] => []
  | keys => .word "ORDER" :: .word "BY" :: commaTokens (keys.map SortKey.tokens)

def table : Statement → String
  | .select _ table _ _ _ => table
  | .count table _ => table
  | .insert table _ => table
  | .update table _ _ => table
  | .delete table _ => table

def opening : Statement → List Token
  | .select selection _ _ _ _ => .word "SELECT" :: selection.tokens
  | .count _ _ => [.word "SELECT", .word "COUNT", .symbol "(", .symbol "*", .symbol ")"]
  | .insert _ _ => [.word "INSERT"]
  | .update _ _ _ => []
  | .delete _ _ => [.word "DELETE"]

def body : Statement → List Token
  | .select _ _ conditions ordering _ => whereTokens conditions ++ orderingTokens ordering
  | .count _ conditions => whereTokens conditions
  | .insert _ writes =>
      .symbol "(" :: (commaTokens (writes.map fun write => [.identifier write.column]) ++
        .symbol ")" :: .word "VALUES" :: .symbol "(" ::
          (commaTokens (writes.map fun write => write.value.tokens) ++ [.symbol ")"]))
  | .update _ writes conditions =>
      .word "SET" :: (commaTokens (writes.map Write.tokens) ++ whereTokens conditions)
  | .delete _ conditions => whereTokens conditions

def window : Statement → List Token
  | .select _ _ _ _ (some paging) => paging.tokens
  | _ => []

def kind : Statement → StatementKind
  | .select _ _ _ _ _ => .select
  | .count _ _ => .count
  | .insert _ _ => .insert
  | .update _ _ _ => .update
  | .delete _ _ => .delete

end Statement

def StatementKind.tableWord : StatementKind → String
  | .insert => "INTO"
  | .update => "UPDATE"
  | _ => "FROM"

def Statement.tokens (statement : Statement) : List Token :=
  statement.opening ++ .word statement.kind.tableWord :: .identifier statement.table ::
    (statement.body ++ statement.window)

/-! ## What statements are made of -/

def Statement.Over (columns placeholders : String → Prop) : Statement → Prop
  | .select selection _ conditions ordering _ =>
      (∀ name ∈ selection.names, columns name) ∧
        (∀ condition ∈ conditions, condition.Over columns placeholders) ∧
        ∀ key ∈ ordering, columns key.column
  | .count _ conditions => ∀ condition ∈ conditions, condition.Over columns placeholders
  | .insert _ writes => ∀ write ∈ writes, write.IsBound columns placeholders
  | .update _ writes conditions =>
      (∀ write ∈ writes, write.Over columns placeholders) ∧
        ∀ condition ∈ conditions, condition.Over columns placeholders
  | .delete _ conditions => ∀ condition ∈ conditions, condition.Over columns placeholders

theorem Statement.Over.imp {columns columns' placeholders placeholders' : String → Prop}
    (column : ∀ name, columns name → columns' name)
    (placeholder : ∀ name, placeholders name → placeholders' name) {statement : Statement}
    (uses : statement.Over columns placeholders) : statement.Over columns' placeholders' := by
  have each {conditions : List Condition}
      (uses : ∀ condition ∈ conditions, condition.Over columns placeholders) :
      ∀ condition ∈ conditions, condition.Over columns' placeholders' :=
    fun condition member => (uses condition member).imp column placeholder
  cases statement with
  | select selection table conditions ordering paging =>
      exact ⟨fun name member => column name (uses.1 name member), each uses.2.1,
        fun key member => column _ (uses.2.2 key member)⟩
  | count table conditions => exact each uses
  | insert table writes => exact fun write member => (uses write member).imp column placeholder
  | update table writes conditions =>
      exact ⟨fun write member => (uses.1 write member).imp column placeholder, each uses.2⟩
  | delete table conditions => exact each uses

/-! ## Spelling -/

section

variable {sigil : String}

/-- A clause that may stand behind anything: it is empty or keeps its distance. -/
structure Follows (sigil text : String) (tokens : List Token) : Prop where
  spells : Spells sigil text tokens
  opens : text = "" ∨ Opens text

theorem follows_nil : Follows sigil "" [] := by
  refine ⟨?_, .inl rfl⟩
  intro rest _
  simp

theorem Spells.follows_append {left right : String} {leftTokens rightTokens : List Token}
    (first : Spells sigil left leftTokens) (clause : Follows sigil right rightTokens) :
    Spells sigil (left ++ right) (leftTokens ++ rightTokens) := by
  rcases clause.opens with rfl | opens
  · intro rest breaks
    have silent := clause.spells rest breaks
    rw [String.toList_append, List.append_assoc, first _ (by simpa using breaks), silent]
    simp [Function.comp_def]
  · exact first.append clause.spells opens

theorem Leads.follows {phrase text : String} {between tokens : List Token}
    (leads : Leads sigil phrase between) (opens : Opens phrase) (row : Spells sigil text tokens) :
    Follows sigil (phrase ++ text) (between ++ tokens) :=
  ⟨leads.spells_append row, .inr (opens.append text)⟩

variable (distinctive : Distinctive sigil)

include distinctive

theorem spells_term {columns : String → Prop} {term : Term}
    (uses : term.Over columns (IsNumbered sigil)) (nested : Bool) :
    Spells sigil (term.renderIn nested) (term.tokensIn nested) := by
  induction term generalizing nested with
  | placeholder name => exact IsNumbered.spells distinctive uses
  | column name => exact spells_identifier distinctive name
  | compute op left right first second =>
      have known : op.symbol ∈ operators := by cases op <;> decide
      have opens : Opens (" " ++ op.symbol ++ " ") := by cases op <;> decide
      have row := ((first uses.1 true).leads_append (leads_operator distinctive known)
        opens).spells_append (second uses.2 true)
      cases nested with
      | false => simpa [Term.renderIn, Term.tokensIn, String.append_assoc] using row
      | true =>
          have opening : Leads sigil "(" [.symbol "("] := leads_phrase distinctive (by decide)
          have whole := (opening.closed distinctive row).spells
          simpa [Term.renderIn, Term.tokensIn, String.append_assoc] using whole

theorem spells_write {columns : String → Prop} {write : Write}
    (uses : write.Over columns (IsNumbered sigil)) :
    Spells sigil write.render write.tokens := by
  have equals : Leads sigil "=" [.symbol "="] := leads_phrase distinctive (by decide)
  have value := spells_term distinctive uses.value false
  exact ((spells_identifier distinctive write.column).leads_append equals
    (by decide)).spells_append value

theorem spells_sortKey (key : SortKey) : Spells sigil key.render key.tokens := by
  have word : isWord key.direction.keyword = true := by cases key.direction <;> decide
  have leads := (spells_identifier distinctive key.column).leads_append leads_blank (by decide)
  exact leads.spells_append (spells_word distinctive word)

theorem spells_selection (selection : Selection) :
    Spells sigil selection.render selection.tokens := by
  cases selection with
  | everything => exact (leads_phrase distinctive (by decide)).spells
  | columns names =>
      exact spells_commas distinctive fun name _ => spells_identifier distinctive name
  | aggregate function column =>
      have opening : Leads sigil (function.function ++ "(")
          [.word function.function, .symbol "("] := by
        cases function <;> exact leads_phrase distinctive (by decide)
      exact (opening.closed distinctive (spells_identifier distinctive column)).spells

theorem follows_where {columns : String → Prop} {conditions : List Condition}
    (uses : ∀ condition ∈ conditions, condition.Over columns (IsNumbered sigil)) :
    Follows sigil (Statement.renderWhere conditions) (Statement.whereTokens conditions) := by
  cases conditions with
  | nil => exact follows_nil
  | cons first rest =>
      have phrase : Leads sigil " WHERE " [.word "WHERE"] :=
        leads_phrase distinctive (by decide)
      have whole := (Condition.over_conjunction uses).imp (fun _ _ => trivial) (fun _ => id)
      rw [Statement.renderWhere, Condition.renderAll_cons]
      · exact phrase.follows (by decide) (Condition.spells_render distinctive whole)
      · simp

theorem follows_ordering (keys : List SortKey) :
    Follows sigil (Statement.renderOrdering keys) (Statement.orderingTokens keys) := by
  cases keys with
  | nil => exact follows_nil
  | cons key keys =>
      have phrase : Leads sigil " ORDER BY " [.word "ORDER", .word "BY"] :=
        leads_phrase distinctive (by decide)
      exact phrase.follows (by decide)
        (spells_commas distinctive fun key _ => spells_sortKey distinctive key)

theorem follows_paging (paging : Option Paging) :
    Follows sigil (Statement.renderPaging paging) ((paging.map Paging.tokens).getD []) := by
  have phrase : Leads sigil " LIMIT " [.word "LIMIT"] :=
    leads_phrase distinctive (by decide)
  have number (n : UInt64) : Spells sigil (wordText n) [.number (wordText n)] :=
    spells_number distinctive n.toNat
  rcases paging with - | ⟨size⟩ | ⟨offset, size⟩
  · exact follows_nil
  · exact phrase.follows (by decide) (number size)
  · have pair := ((number offset).leads_append (leads_comma distinctive)
      (by decide)).spells_append (number size)
    have clause := phrase.follows (by decide) pair
    simpa [Statement.renderPaging, Paging.render, Paging.tokens, String.append_assoc] using clause

theorem spells_table (table : String) {phrase : String} {before : List Token}
    (leads : Leads sigil phrase before) :
    Spells sigil (phrase ++ quoteIdentifier table) (before ++ [.identifier table]) :=
  leads.spells_append (spells_identifier distinctive table)

theorem spells_statement {columns : String → Prop} {statement : Statement}
    (uses : statement.Over columns (IsNumbered sigil)) :
    Spells sigil statement.render statement.tokens := by
  cases statement with
  | select selection table conditions ordering paging =>
      have opening : Leads sigil "SELECT " [.word "SELECT"] :=
        leads_phrase distinctive (by decide)
      have source : Leads sigil " FROM " [.word "FROM"] := leads_phrase distinctive (by decide)
      have opens : Opens " FROM " := by decide
      have head := (opening.spells_append (spells_selection distinctive selection)).leads_append
        source opens
      have filtered := (spells_table distinctive table head).follows_append
        (follows_where distinctive uses.2.1)
      have ordered := filtered.follows_append (follows_ordering distinctive ordering)
      have spells := ordered.follows_append (follows_paging distinctive paging)
      have window : (Statement.select selection table conditions ordering paging).window =
          (paging.map Paging.tokens).getD [] := by
        cases paging <;> rfl
      rw [Statement.tokens, window]
      simpa [Statement.render.eq_def, Statement.opening, Statement.kind,
        StatementKind.tableWord, Statement.table, Statement.body] using spells
  | count table conditions =>
      have opening : Leads sigil "SELECT COUNT(*) FROM "
          [.word "SELECT", .word "COUNT", .symbol "(", .symbol "*", .symbol ")", .word "FROM"] :=
        leads_phrase distinctive (by decide)
      have spells := (spells_table distinctive table opening).follows_append
        (follows_where distinctive uses)
      simpa [Statement.render.eq_def, Statement.tokens, Statement.opening, Statement.kind,
        StatementKind.tableWord, Statement.table, Statement.body, Statement.window] using spells
  | insert table writes =>
      have opening : Leads sigil "INSERT INTO " [.word "INSERT", .word "INTO"] :=
        leads_phrase distinctive (by decide)
      have columnRow : Leads sigil " (" [.symbol "("] := leads_phrase distinctive (by decide)
      have valueRow : Leads sigil ") VALUES (" [.symbol ")", .word "VALUES", .symbol "("] :=
        leads_phrase distinctive (by decide)
      have columns : Spells sigil (",".intercalate (writes.map Write.renderColumn))
          (commaTokens (writes.map fun write => [.identifier write.column])) :=
        spells_commas distinctive fun write _ => spells_identifier distinctive write.column
      have values : Spells sigil (",".intercalate (writes.map Write.renderValue))
          (commaTokens (writes.map fun write => write.value.tokens)) :=
        spells_commas distinctive fun write member =>
          spells_term distinctive (uses write member).uses.value false
      have head := (((spells_table distinctive table opening).leads_append columnRow
        (by decide)).spells_append columns).leads_append valueRow (by decide)
      have spells := (head.closed distinctive values).spells
      simpa [Statement.render.eq_def, Statement.tokens, Statement.opening, Statement.kind,
        StatementKind.tableWord, Statement.table, Statement.body, Statement.window]
        using spells
  | update table writes conditions =>
      have opening : Leads sigil "UPDATE " [.word "UPDATE"] :=
        leads_phrase distinctive (by decide)
      have assign : Leads sigil " SET " [.word "SET"] := leads_phrase distinctive (by decide)
      have row := spells_commas distinctive fun write member =>
        spells_write distinctive (uses.1 write member)
      have spells := (((spells_table distinctive table opening).leads_append assign
        (by decide)).spells_append row).follows_append (follows_where distinctive uses.2)
      simpa [Statement.render.eq_def, Statement.tokens, Statement.opening, Statement.kind,
        StatementKind.tableWord, Statement.table, Statement.body, Statement.window] using spells
  | delete table conditions =>
      have opening : Leads sigil "DELETE FROM " [.word "DELETE", .word "FROM"] :=
        leads_phrase distinctive (by decide)
      have spells := (spells_table distinctive table opening).follows_append
        (follows_where distinctive uses)
      simpa [Statement.render.eq_def, Statement.tokens, Statement.opening, Statement.kind,
        StatementKind.tableWord, Statement.table, Statement.body, Statement.window] using spells

end

end BoundSql.Sql
