import BoundSql.Proofs.Statement.Tokens

/-!
The vocabulary of statements. Each kind of statement has its keywords and symbols; whatever
else stands in it is a column, a placeholder, a constant condition or a number of rows.
-/

namespace BoundSql.Sql

structure Vocabulary where
  words : List String
  symbols : List String

def Vocabulary.allows (vocabulary : Vocabulary) : Token → Bool
  | .word text => text ∈ vocabulary.words
  | .symbol text => text ∈ vocabulary.symbols
  | _ => false

/-- Tokens of a vocabulary with columns, placeholders and constant conditions among them. -/
inductive Clean (columns placeholders : String → Prop) (vocabulary : Vocabulary) :
    List Token → Prop
  | nil : Clean columns placeholders vocabulary []
  | constant (truth : Bool) (rest : Clean columns placeholders vocabulary tokens) :
      Clean columns placeholders vocabulary
        (.number "1" :: .symbol "=" :: .number (if truth then "1" else "0") :: tokens)
  | identifier (known : columns name) (rest : Clean columns placeholders vocabulary tokens) :
      Clean columns placeholders vocabulary (.identifier name :: tokens)
  | placeholder (known : placeholders name)
      (rest : Clean columns placeholders vocabulary tokens) :
      Clean columns placeholders vocabulary (.placeholder name :: tokens)
  | word (known : text ∈ vocabulary.words)
      (rest : Clean columns placeholders vocabulary tokens) :
      Clean columns placeholders vocabulary (.word text :: tokens)
  | symbol (known : text ∈ vocabulary.symbols)
      (rest : Clean columns placeholders vocabulary tokens) :
      Clean columns placeholders vocabulary (.symbol text :: tokens)

/-- A token that could hide something: a text, a comment or the end of a statement. -/
def Token.Hostile : Token → Prop
  | .literal _ => True
  | .comment => True
  | .symbol text => text = ";"
  | _ => False

section

variable {columns placeholders : String → Prop} {vocabulary larger : Vocabulary}
  {tokens others : List Token}

theorem Clean.append (first : Clean columns placeholders vocabulary tokens)
    (second : Clean columns placeholders vocabulary others) :
    Clean columns placeholders vocabulary (tokens ++ others) := by
  induction first with
  | nil => exact second
  | constant truth _ induction => exact .constant truth induction
  | identifier known _ induction => exact .identifier known induction
  | placeholder known _ induction => exact .placeholder known induction
  | word known _ induction => exact .word known induction
  | symbol known _ induction => exact .symbol known induction

theorem clean_fixed (fixed : tokens.all vocabulary.allows = true) :
    Clean columns placeholders vocabulary tokens := by
  induction tokens with
  | nil => exact .nil
  | cons token tokens induction =>
      rw [List.all_cons, Bool.and_eq_true] at fixed
      have rest := induction fixed.2
      cases token with
      | word text => exact .word (of_decide_eq_true fixed.1) rest
      | symbol text => exact .symbol (of_decide_eq_true fixed.1) rest
      | _ => exact absurd fixed.1 Bool.false_ne_true

theorem Clean.imp (words : vocabulary.words ⊆ larger.words)
    (symbols : vocabulary.symbols ⊆ larger.symbols)
    (clean : Clean columns placeholders vocabulary tokens) :
    Clean columns placeholders larger tokens := by
  induction clean with
  | nil => exact .nil
  | constant truth _ induction => exact .constant truth induction
  | identifier known _ induction => exact .identifier known induction
  | placeholder known _ induction => exact .placeholder known induction
  | word known _ induction => exact .word (words known) induction
  | symbol known _ induction => exact .symbol (symbols known) induction

theorem Clean.commas {items : List α} {row : α → List Token} (comma : "," ∈ vocabulary.symbols)
    (each : ∀ item ∈ items, Clean columns placeholders vocabulary (row item)) :
    Clean columns placeholders vocabulary (commaTokens (items.map row)) := by
  induction items with
  | nil => exact .nil
  | cons item items induction =>
      rw [List.forall_mem_cons] at each
      cases items with
      | nil => simpa using each.1
      | cons next items =>
          rw [List.map_cons, List.map_cons, commaTokens_cons_cons, ← List.map_cons]
          exact each.1.append (.symbol comma (induction each.2))

theorem Clean.parentheses (signs : ["(", ")"] ⊆ vocabulary.symbols)
    (inside : Clean columns placeholders vocabulary tokens) :
    Clean columns placeholders vocabulary (.symbol "(" :: (tokens ++ [.symbol ")"])) := by
  have opening : "(" ∈ vocabulary.symbols := signs (by simp)
  have closing : ")" ∈ vocabulary.symbols := signs (by simp)
  exact .symbol opening (inside.append (.symbol closing .nil))

theorem Clean.not_hostile (semicolon : ";" ∉ vocabulary.symbols)
    (clean : Clean columns placeholders vocabulary tokens) :
    ∀ token ∈ tokens, ¬ token.Hostile := by
  induction clean with
  | nil => simp
  | constant truth _ induction => simpa [Token.Hostile] using induction
  | identifier known _ induction => simpa [Token.Hostile] using induction
  | placeholder known _ induction => simpa [Token.Hostile] using induction
  | word known _ induction => simpa [Token.Hostile] using induction
  | symbol known _ induction =>
      refine List.forall_mem_cons.mpr ⟨?_, induction⟩
      intro equal
      subst equal
      exact semicolon known

end

/-! ## Vocabularies -/

def Condition.vocabulary : Vocabulary where
  words := ["WHERE", "AND", "OR", "NOT", "IS", "LIKE", "IN"]
  symbols := ["(", ")", ",", "=", "<>", ">", ">=", "<", "<="]

def Term.vocabulary : Vocabulary where
  words := []
  symbols := ["(", ")", "+", "-", "*", "/"]

namespace StatementKind

def openingVocabulary : StatementKind → Vocabulary
  | .select => ⟨["SELECT", "DISTINCT", "MAX", "SUM"], ["*", ",", "(", ")"]⟩
  | .count => ⟨["SELECT", "COUNT"], ["(", "*", ")"]⟩
  | .insert => ⟨["INSERT"], []⟩
  | .update => ⟨[], []⟩
  | .delete => ⟨["DELETE"], []⟩

def bodyVocabulary : StatementKind → Vocabulary
  | .select => ⟨["ORDER", "BY", "ASC", "DESC"] ++ Condition.vocabulary.words,
      Condition.vocabulary.symbols⟩
  | .insert => ⟨["VALUES"], ["(", ")", ","]⟩
  | .update => ⟨"SET" :: Condition.vocabulary.words,
      Condition.vocabulary.symbols ++ Term.vocabulary.symbols⟩
  | .count => Condition.vocabulary
  | .delete => Condition.vocabulary

theorem semicolon_not_mem (kind : StatementKind) :
    ";" ∉ kind.openingVocabulary.symbols ∧ ";" ∉ kind.bodyVocabulary.symbols := by
  cases kind <;> decide

end StatementKind

/-! ## Clean parts -/

section

variable {columns placeholders : String → Prop}

theorem clean_condition {condition : Condition} (uses : condition.Over columns placeholders) :
    Clean columns placeholders Condition.vocabulary condition.tokens := by
  induction condition with
  | always truth => exact .constant truth .nil
  | compare column op name =>
      have known : op.symbol ∈ Condition.vocabulary.symbols := by cases op <;> decide
      exact .identifier uses.1 (.symbol known (.placeholder uses.2 .nil))
  | isNull column negated name =>
      cases negated with
      | false => exact .identifier uses.1 (.word (by decide) (.placeholder uses.2 .nil))
      | true =>
          exact .identifier uses.1
            (.word (by decide) (.word (by decide) (.placeholder uses.2 .nil)))
  | like column name => exact .identifier uses.1 (.word (by decide) (.placeholder uses.2 .nil))
  | among column names =>
      have row : Clean columns placeholders Condition.vocabulary
          (commaTokens (names.map fun name => [.placeholder name])) := by
        apply Clean.commas (by decide)
        intro name member
        exact .placeholder (uses.2.2 name member) .nil
      exact .identifier uses.1 (.word (by decide) (row.parentheses (by decide)))
  | and left right first second =>
      exact (first uses.1).append (.word (by decide) (second uses.2))
  | or left right first second =>
      have known : "OR" ∈ Condition.vocabulary.words := by decide
      have inside := (first uses.1).append (.word known (second uses.2))
      exact inside.parentheses (by decide)
  | not operand inner => exact .word (by decide) ((inner uses).parentheses (by decide))

theorem clean_where {conditions : List Condition}
    (uses : ∀ condition ∈ conditions, condition.Over columns placeholders) :
    Clean columns placeholders Condition.vocabulary (Statement.whereTokens conditions) := by
  cases conditions with
  | nil => exact .nil
  | cons first rest =>
      exact .word (by decide) (clean_condition (Condition.over_conjunction uses))

theorem clean_term {term : Term} (uses : term.Over columns placeholders) (nested : Bool) :
    Clean columns placeholders Term.vocabulary (term.tokensIn nested) := by
  induction term generalizing nested with
  | placeholder name => exact .placeholder uses .nil
  | column name => exact .identifier uses .nil
  | compute op left right first second =>
      have known : op.symbol ∈ Term.vocabulary.symbols := by cases op <;> decide
      have row := (first uses.1 true).append (.symbol known (second uses.2 true))
      cases nested with
      | false => exact row
      | true => exact row.parentheses (by decide)

theorem clean_selection {selection : Selection} (uses : ∀ name ∈ selection.names, columns name) :
    Clean columns placeholders StatementKind.select.openingVocabulary selection.tokens := by
  cases selection with
  | everything => exact .symbol (by decide) .nil
  | columns names =>
      apply Clean.commas (by decide)
      intro name member
      exact .identifier (uses name member) .nil
  | aggregate function column =>
      have known : function.function ∈ StatementKind.select.openingVocabulary.words := by
        cases function <;> decide
      have inside : Clean columns placeholders StatementKind.select.openingVocabulary
          [.identifier column] := .identifier (uses column (List.mem_singleton.mpr rfl)) .nil
      exact .word known (inside.parentheses (by decide))

theorem clean_ordering {keys : List SortKey} (uses : ∀ key ∈ keys, columns key.column) :
    Clean columns placeholders StatementKind.select.bodyVocabulary
      (Statement.orderingTokens keys) := by
  have row : Clean columns placeholders StatementKind.select.bodyVocabulary
      (commaTokens (keys.map SortKey.tokens)) := by
    apply Clean.commas (by decide)
    intro key member
    have known : key.direction.keyword ∈ StatementKind.select.bodyVocabulary.words := by
      cases key.direction <;> decide
    exact .identifier (uses key member) (.word known .nil)
  cases keys with
  | nil => exact .nil
  | cons key keys => exact .word (by decide) (.word (by decide) row)

/-! ## Clean statements -/

variable {statement : Statement}

theorem clean_opening (uses : statement.Over columns placeholders) :
    Clean columns placeholders statement.kind.openingVocabulary statement.opening := by
  cases statement with
  | select selection table conditions ordering paging =>
      have known : "SELECT" ∈ StatementKind.select.openingVocabulary.words := by decide
      exact .word known (clean_selection uses.1)
  | count table conditions => exact clean_fixed rfl
  | insert table writes => exact clean_fixed rfl
  | update table writes conditions => exact .nil
  | delete table conditions => exact clean_fixed rfl

theorem clean_body (uses : statement.Over columns placeholders) :
    Clean columns placeholders statement.kind.bodyVocabulary statement.body := by
  cases statement with
  | select selection table conditions ordering paging =>
      have words : Condition.vocabulary.words ⊆ StatementKind.select.bodyVocabulary.words := by
        decide
      exact ((clean_where uses.2.1).imp words (List.Subset.refl _)).append
        (clean_ordering uses.2.2)
  | count table conditions => exact clean_where uses
  | insert table writes =>
      have names : Clean columns placeholders StatementKind.insert.bodyVocabulary
          (commaTokens (writes.map fun write => [.identifier write.column])) := by
        apply Clean.commas (by decide)
        intro write member
        exact .identifier (uses write member).column .nil
      have values : Clean columns placeholders StatementKind.insert.bodyVocabulary
          (commaTokens (writes.map fun write => write.value.tokens)) := by
        apply Clean.commas (by decide)
        intro write member
        rcases (uses write member).value with ⟨name, value, known⟩
        rw [value]
        exact .placeholder known .nil
      have signs : ["(", ")"] ⊆ StatementKind.insert.bodyVocabulary.symbols := by decide
      have word : "VALUES" ∈ StatementKind.insert.bodyVocabulary.words := by decide
      have behind := Clean.word word (values.parentheses signs)
      exact .symbol (signs (by simp)) (names.append (.symbol (signs (by simp)) behind))
  | update table writes conditions =>
      have row : Clean columns placeholders StatementKind.update.bodyVocabulary
          (commaTokens (writes.map Write.tokens)) := by
        apply Clean.commas (by decide)
        intro write member
        have words : Term.vocabulary.words ⊆ StatementKind.update.bodyVocabulary.words :=
          List.nil_subset _
        have symbols : Term.vocabulary.symbols ⊆ StatementKind.update.bodyVocabulary.symbols :=
          List.subset_append_right _ _
        have value := (clean_term (uses.1 write member).value false).imp words symbols
        exact .identifier (uses.1 write member).column (.symbol (by decide) value)
      have known : "SET" ∈ StatementKind.update.bodyVocabulary.words := List.mem_cons_self ..
      have words : Condition.vocabulary.words ⊆ StatementKind.update.bodyVocabulary.words :=
        List.subset_cons_self _ _
      have symbols : Condition.vocabulary.symbols ⊆ StatementKind.update.bodyVocabulary.symbols :=
        List.subset_append_left _ _
      exact .word known (row.append ((clean_where uses.2).imp words symbols))
  | delete table conditions => exact clean_where uses

end

end BoundSql.Sql
