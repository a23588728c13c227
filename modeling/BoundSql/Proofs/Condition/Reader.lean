import BoundSql.Proofs.Spelling

/-!
Reading conditions back. `Condition.read?` takes a text apart as a database does: OR binds
weaker than AND, AND weaker than NOT, and parentheses hold together what is inside them.
What `Condition.render` writes is read back as it was, but for the grouping of AND.
-/

namespace BoundSql.Sql.Condition

open Token

/-! ## A reader -/

def after? (token : Token) : List Token → Option (List Token)
  | [] => none
  | first :: rest => if first = token then some rest else none

def comparisonOf? (sign : String) : Option Comparison :=
  [.equal, .notEqual, .greaterThan, .greaterThanOrEqual, .lessThan, .lessThanOrEqual].find?
    (·.symbol == sign)

def readPlaceholders : List Token → Option (List String × List Token)
  | .placeholder name :: .symbol "," :: rest =>
      (readPlaceholders rest).map (Prod.map (name :: ·) id)
  | .placeholder name :: .symbol ")" :: rest => some ([name], rest)
  | _ => none

def readTest : List Token → Option (Condition × List Token)
  | .number left :: .symbol "=" :: .number right :: rest =>
      some (.always (Number.valueOf left.toList = Number.valueOf right.toList), rest)
  | .identifier column :: .symbol sign :: .placeholder name :: rest =>
      (comparisonOf? sign).map fun op => (.compare column op name, rest)
  | .identifier column :: .word "IS" :: .placeholder name :: rest =>
      some (.isNull column false name, rest)
  | .identifier column :: .word "IS" :: .word "NOT" :: .placeholder name :: rest =>
      some (.isNull column true name, rest)
  | .identifier column :: .word "LIKE" :: .placeholder name :: rest =>
      some (.like column name, rest)
  | .identifier column :: .word "IN" :: .symbol "(" :: rest =>
      (readPlaceholders rest).map (Prod.map (.among column) id)
  | _ => none

mutual
def readOr : (fuel : Nat) → List Token → Option (Condition × List Token)
  | 0, _ => none
  | fuel + 1, tokens => do
      let (left, rest) ← readAnd fuel tokens
      match after? (.word "OR") rest with
      | none => some (left, rest)
      | some rest => (readOr fuel rest).map (Prod.map (.or left) id)

def readAnd : (fuel : Nat) → List Token → Option (Condition × List Token)
  | 0, _ => none
  | fuel + 1, tokens => do
      let (left, rest) ← readNot fuel tokens
      match after? (.word "AND") rest with
      | none => some (left, rest)
      | some rest => (readAnd fuel rest).map (Prod.map (.and left) id)

def readNot : (fuel : Nat) → List Token → Option (Condition × List Token)
  | 0, _ => none
  | fuel + 1, tokens =>
      match after? (.word "NOT") tokens, after? (.symbol "(") tokens with
      | some rest, _ => (readNot fuel rest).map (Prod.map .not id)
      | none, some rest => do
          let (inner, rest) ← readOr fuel rest
          let rest ← after? (.symbol ")") rest
          return (inner, rest)
      | none, none => readTest tokens
end

/-- The condition that tokens make up as a whole. Each token is passed on at most three
times. -/
def ofTokens? (tokens : List Token) : Option Condition :=
  match readOr (3 * tokens.length + 2) tokens with
  | some (condition, []) => some condition
  | _ => none

def read? (sigil text : String) : Option Condition := (Token.read? sigil text).bind ofTokens?

/-! ## The tokens of a condition -/

def tokens : Condition → List Token
  | .always truth => [.number "1", .symbol "=", .number (if truth then "1" else "0")]
  | .compare column op name => [.identifier column, .symbol op.symbol, .placeholder name]
  | .isNull column false name => [.identifier column, .word "IS", .placeholder name]
  | .isNull column true name =>
      [.identifier column, .word "IS", .word "NOT", .placeholder name]
  | .like column name => [.identifier column, .word "LIKE", .placeholder name]
  | .among column names =>
      .identifier column :: .word "IN" :: .symbol "(" ::
        (commaTokens (names.map fun name => [.placeholder name]) ++ [.symbol ")"])
  | .and left right => tokens left ++ .word "AND" :: tokens right
  | .or left right =>
      .symbol "(" :: (tokens left ++ .word "OR" :: tokens right ++ [.symbol ")"])
  | .not operand => .word "NOT" :: .symbol "(" :: (tokens operand ++ [.symbol ")"])

def Over (columns placeholders : String → Prop) : Condition → Prop
  | .always _ => True
  | .compare column _ name => columns column ∧ placeholders name
  | .isNull column _ name => columns column ∧ placeholders name
  | .like column name => columns column ∧ placeholders name
  | .among column names =>
      columns column ∧ names ≠ [] ∧ ∀ name ∈ names, placeholders name
  | .and left right => Over columns placeholders left ∧ Over columns placeholders right
  | .or left right => Over columns placeholders left ∧ Over columns placeholders right
  | .not operand => Over columns placeholders operand

theorem Over.imp {columns columns' placeholders placeholders' : String → Prop}
    (column : ∀ name, columns name → columns' name)
    (placeholder : ∀ name, placeholders name → placeholders' name) {condition : Condition}
    (uses : condition.Over columns placeholders) : condition.Over columns' placeholders' := by
  induction condition with
  | always _ => trivial
  | compare _ _ _ => exact ⟨column _ uses.1, placeholder _ uses.2⟩
  | isNull _ _ _ => exact ⟨column _ uses.1, placeholder _ uses.2⟩
  | like _ _ => exact ⟨column _ uses.1, placeholder _ uses.2⟩
  | among _ _ =>
      exact ⟨column _ uses.1, uses.2.1, fun name member => placeholder _ (uses.2.2 name member)⟩
  | and _ _ first second => exact ⟨first uses.1, second uses.2⟩
  | or _ _ first second => exact ⟨first uses.1, second uses.2⟩
  | not _ inner => exact inner uses

section

variable {sigil : String} (distinctive : Distinctive sigil)

include distinctive

theorem spells_always (truth : Bool) :
    Spells sigil (render (.always truth)) (tokens (.always truth)) := by
  have one : Spells sigil "1" [.number "1"] := spells_number distinctive 1
  have zero : Spells sigil "0" [.number "0"] := spells_number distinctive 0
  have equals : Leads sigil " = " [.symbol "="] := leads_phrase distinctive (by decide)
  have opens : Opens " = " := by decide
  cases truth with
  | true => exact (one.leads_append equals opens).spells_append one
  | false => exact (one.leads_append equals opens).spells_append zero

theorem spells_against (column : String) {phrase name : String} {between : List Token}
    (leads : Leads sigil phrase between) (opens : Opens phrase)
    (numbered : IsNumbered sigil name) :
    Spells sigil (quoteIdentifier column ++ phrase ++ name)
      (.identifier column :: between ++ [.placeholder name]) :=
  ((spells_identifier distinctive column).leads_append leads opens).spells_append
    (numbered.spells distinctive)

theorem spells_compare (column : String) (op : Comparison) {name : String}
    (numbered : IsNumbered sigil name) :
    Spells sigil (render (.compare column op name)) (tokens (.compare column op name)) := by
  have known : op.symbol ∈ operators := by cases op <;> decide
  have opens : Opens (" " ++ op.symbol ++ " ") := by cases op <;> decide
  have spells := spells_against distinctive column (leads_operator distinctive known) opens numbered
  simpa [render, tokens, String.append_assoc] using spells

theorem spells_among (column : String) {names : List String}
    (numbered : ∀ name ∈ names, IsNumbered sigil name) :
    Spells sigil (render (.among column names)) (tokens (.among column names)) := by
  have phrase : Leads sigil " IN (" [.word "IN", .symbol "("] :=
    leads_phrase distinctive (by decide)
  have opening := (spells_identifier distinctive column).leads_append phrase (by decide)
  have row := spells_commas distinctive fun name member =>
    (numbered name member).spells distinctive
  simpa [render, tokens] using (opening.closed distinctive row).spells

theorem spells_render {condition : Condition}
    (uses : condition.Over (fun _ => True) (IsNumbered sigil)) :
    Spells sigil condition.render condition.tokens := by
  induction condition with
  | always truth => exact spells_always distinctive truth
  | compare column op name => exact spells_compare distinctive column op uses.2
  | isNull column negated name =>
      cases negated with
      | false =>
          have phrase : Leads sigil " IS " [.word "IS"] :=
            leads_phrase distinctive (by decide)
          exact spells_against distinctive column phrase (by decide) uses.2
      | true =>
          have phrase : Leads sigil " IS NOT " [.word "IS", .word "NOT"] :=
            leads_phrase distinctive (by decide)
          exact spells_against distinctive column phrase (by decide) uses.2
  | like column name =>
      have phrase : Leads sigil " LIKE " [.word "LIKE"] :=
        leads_phrase distinctive (by decide)
      exact spells_against distinctive column phrase (by decide) uses.2
  | among column names => exact spells_among distinctive column uses.2.2
  | and left right first second =>
      have phrase : Leads sigil " AND " [.word "AND"] :=
        leads_phrase distinctive (by decide)
      have spells := ((first uses.1).leads_append phrase (by decide)).spells_append
        (second uses.2)
      simpa [render, tokens] using spells
  | or left right first second =>
      have opening : Leads sigil "(" [.symbol "("] :=
        leads_phrase distinctive (by decide)
      have phrase : Leads sigil " OR " [.word "OR"] :=
        leads_phrase distinctive (by decide)
      have row := ((first uses.1).leads_append phrase (by decide)).spells_append
        (second uses.2)
      simpa [render, tokens, String.append_assoc] using (opening.closed distinctive row).spells
  | not operand inner =>
      have opening : Leads sigil "NOT (" [.word "NOT", .symbol "("] :=
        leads_phrase distinctive (by decide)
      simpa [render, tokens] using (opening.closed distinctive (inner uses)).spells

end

/-! ## Grouping

The text of a condition does not say how a chain of AND is grouped. The reader groups it
to the right. -/

def followedBy (condition : Condition) : Option Condition → Condition
  | none => condition
  | some last => .and condition last

def groupOnto : Condition → Option Condition → Condition
  | .and left right, last => groupOnto left (some (groupOnto right last))
  | .or left right, last => followedBy (.or (groupOnto left none) (groupOnto right none)) last
  | .not operand, last => followedBy (.not (groupOnto operand none)) last
  | test, last => followedBy test last

def grouped (condition : Condition) : Condition := condition.groupOnto none

/-- Equal up to how AND is grouped. -/
inductive Regroups : Condition → Condition → Prop
  | refl (condition : Condition) : Regroups condition condition
  | symm : Regroups a b → Regroups b a
  | trans : Regroups a b → Regroups b c → Regroups a c
  | assoc (a b c : Condition) : Regroups (.and (.and a b) c) (.and a (.and b c))
  | and : Regroups a c → Regroups b d → Regroups (.and a b) (.and c d)
  | or : Regroups a c → Regroups b d → Regroups (.or a b) (.or c d)
  | not : Regroups a b → Regroups (.not a) (.not b)

theorem Regroups.followedBy {a b : Condition} (regroups : Regroups a b) (last : Option Condition) :
    Regroups (a.followedBy last) (b.followedBy last) := by
  cases last with
  | none => exact regroups
  | some last => exact .and regroups (.refl last)

theorem groupOnto_regroups (condition : Condition) (last : Option Condition) :
    Regroups (condition.groupOnto last) (condition.followedBy last) := by
  induction condition generalizing last with
  | always _ => exact .refl _
  | compare _ _ _ => exact .refl _
  | isNull _ _ _ => exact .refl _
  | like _ _ => exact .refl _
  | among _ _ => exact .refl _
  | and left right first second =>
      have inner := (first (some (right.groupOnto last))).trans (.and (.refl left) (second last))
      cases last with
      | none => exact inner
      | some last => exact inner.trans (.symm (.assoc left right last))
  | or left right first second => exact (Regroups.or (first none) (second none)).followedBy last
  | not operand inner => exact (Regroups.not (inner none)).followedBy last

theorem grouped_regroups (condition : Condition) : Regroups condition.grouped condition :=
  condition.groupOnto_regroups none

/-! ## Conjunctions -/

def conjunction : Condition → List Condition → Condition
  | first, [] => first
  | first, next :: rest => .and first (conjunction next rest)

theorem renderAll_cons (first : Condition) (rest : List Condition) :
    renderAll (first :: rest) = (conjunction first rest).render := by
  induction rest generalizing first with
  | nil => simp [renderAll, conjunction]
  | cons next rest induction =>
      rw [conjunction, render, ← induction]
      simp [renderAll, String.append_assoc]

theorem over_conjunction {columns placeholders : String → Prop} {first : Condition}
    {rest : List Condition}
    (uses : ∀ condition ∈ first :: rest, condition.Over columns placeholders) :
    (conjunction first rest).Over columns placeholders := by
  induction rest generalizing first with
  | nil => exact uses first (List.mem_cons_self ..)
  | cons next rest induction =>
      rw [List.forall_mem_cons] at uses
      exact ⟨uses.1, induction uses.2⟩

/-! ## What is written is read -/

/-- The tokens behind a condition, as `readAnd` sees them: it either stops there or goes
on with a last conjunct. -/
inductive Continues (fuel : Nat) : List Token → Option Condition → List Token → Prop
  | stop (stops : after? (.word "AND") rest = none) : Continues fuel rest none rest
  | go (reads : ∀ more, fuel ≤ more → readAnd more row = some (last, rest)) :
      Continues fuel (.word "AND" :: row) (some last) rest

theorem readAnd_of_readNot {fuel enough : Nat} {tokens rest others : List Token}
    {condition : Condition} {last : Option Condition}
    (first : readNot fuel tokens = some (condition, rest))
    (continues : Continues enough rest last others) (le : enough ≤ fuel) :
    readAnd (fuel + 1) tokens = some (condition.followedBy last, others) := by
  rw [readAnd, first]
  cases continues with
  | stop stops => simp [stops, followedBy]
  | go reads => simp [after?, reads fuel le, followedBy]

theorem readOr_of_readAnd {fuel : Nat} {tokens rest : List Token} {condition : Condition}
    (first : readAnd fuel tokens = some (condition, rest))
    (stops : after? (.word "OR") rest = none) :
    readOr (fuel + 1) tokens = some (condition, rest) := by
  simp [readOr, first, stops]

theorem readOr_or {fuel : Nat} {row rest others : List Token} {left right : Condition}
    (first : readAnd fuel row = some (left, .word "OR" :: rest))
    (second : readOr fuel rest = some (right, others)) :
    readOr (fuel + 1) row = some (.or left right, others) := by
  rw [readOr, first]
  simp [after?, second]

theorem readNot_parentheses {fuel : Nat} {row rest : List Token} {inner : Condition}
    (read : readOr fuel row = some (inner, .symbol ")" :: rest)) :
    readNot (fuel + 1) (.symbol "(" :: row) = some (inner, rest) := by
  simp [readNot, after?, read]

theorem readNot_not {fuel : Nat} {row rest : List Token} {operand : Condition}
    (read : readNot fuel row = some (operand, rest)) :
    readNot (fuel + 1) (.word "NOT" :: row) = some (.not operand, rest) := by
  simp [readNot, after?, read]

theorem readPlaceholders_commaTokens {names : List String} (nonempty : names ≠ [])
    (rest : List Token) :
    readPlaceholders (commaTokens (names.map fun name => [.placeholder name]) ++
      .symbol ")" :: rest) = some (names, rest) := by
  induction names with
  | nil => contradiction
  | cons name names induction =>
      cases names with
      | nil => simp [readPlaceholders]
      | cons next names =>
          have others := induction (by simp)
          rw [List.map_cons] at others
          simp [readPlaceholders, others]

theorem comparisonOf?_symbol (op : Comparison) : comparisonOf? op.symbol = some op := by
  cases op <;> decide

def IsTest : Condition → Prop
  | .and _ _ => False
  | .or _ _ => False
  | .not _ => False
  | _ => True

theorem readNot_test {test : Condition} (isTest : test.IsTest)
    (uses : test.Over (fun _ => True) (fun _ => True)) (fuel : Nat) (rest : List Token) :
    readNot (fuel + 1) (test.tokens ++ rest) = some (test, rest) := by
  cases test with
  | always truth =>
      cases truth with
      | true => simp [readNot, tokens, after?, readTest]
      | false =>
          have different : Number.valueOf ['1'] ≠ Number.valueOf ['0'] := by decide
          simpa [readNot, tokens, after?, readTest] using different
  | compare column op name =>
      simp [readNot, tokens, after?, readTest, comparisonOf?_symbol]
  | isNull column negated name => cases negated <;> simp [readNot, tokens, after?, readTest]
  | like column name => simp [readNot, tokens, after?, readTest]
  | among column names =>
      have read := readPlaceholders_commaTokens uses.2.1 rest
      simp [readNot, tokens, after?, readTest, read]
  | and _ _ => contradiction
  | or _ _ => contradiction
  | not _ => contradiction

theorem length_tokens_pos (condition : Condition) : 0 < condition.tokens.length := by
  cases condition with
  | isNull _ negated _ => cases negated <;> simp [tokens]
  | and left right =>
      simp only [tokens, List.length_append, List.length_cons]
      omega
  | _ => simp [tokens]

theorem readAnd_test {test : Condition} (isTest : test.IsTest)
    (uses : test.Over (fun _ => True) (fun _ => True)) {fuel enough : Nat}
    {rest others : List Token} {last : Option Condition}
    (continues : Continues enough rest last others)
    (le : 3 * test.tokens.length + 1 + enough ≤ fuel) :
    readAnd fuel (test.tokens ++ rest) = some (test.groupOnto last, others) := by
  have whole : test.groupOnto last = test.followedBy last := by
    cases test <;> first | rfl | contradiction
  have positive := test.length_tokens_pos
  obtain ⟨fuel, rfl⟩ : ∃ less, fuel = less + 1 + 1 := ⟨fuel - 2, by omega⟩
  rw [whole]
  exact readAnd_of_readNot (readNot_test isTest uses fuel rest) continues (by omega)

theorem readAnd_tokens {condition : Condition}
    (uses : condition.Over (fun _ => True) (fun _ => True)) {fuel enough : Nat}
    {rest others : List Token} {last : Option Condition}
    (continues : Continues enough rest last others)
    (le : 3 * condition.tokens.length + 1 + enough ≤ fuel) :
    readAnd fuel (condition.tokens ++ rest) = some (condition.groupOnto last, others) := by
  induction condition generalizing fuel enough rest others last with
  | always truth => exact readAnd_test (by trivial) uses continues le
  | compare _ _ _ => exact readAnd_test (by trivial) uses continues le
  | isNull _ _ _ => exact readAnd_test (by trivial) uses continues le
  | like _ _ => exact readAnd_test (by trivial) uses continues le
  | among _ _ => exact readAnd_test (by trivial) uses continues le
  | and left right first second =>
      simp only [tokens, List.length_append, List.length_cons] at le
      have behind : Continues (3 * right.tokens.length + 1 + enough)
          (.word "AND" :: (right.tokens ++ rest)) (some (right.groupOnto last)) others :=
        .go fun more enoughMore => second uses.2 continues enoughMore
      rw [tokens, List.append_assoc, List.cons_append, groupOnto]
      exact first uses.1 behind (by omega)
  | or left right first second =>
      simp only [tokens, List.length_append, List.length_cons, List.length_nil] at le
      obtain ⟨fuel, rfl⟩ : ∃ less, fuel = less + 1 + 1 + 1 + 1 := ⟨fuel - 4, by omega⟩
      have readLeft : readAnd (fuel + 1) (left.tokens ++ .word "OR" ::
          (right.tokens ++ .symbol ")" :: rest)) =
            some (left.grouped, .word "OR" :: (right.tokens ++ .symbol ")" :: rest)) :=
        first uses.1 (@Continues.stop 0 _ rfl) (by omega)
      have readRight : readAnd fuel (right.tokens ++ .symbol ")" :: rest) =
          some (right.grouped, .symbol ")" :: rest) :=
        second uses.2 (@Continues.stop 0 _ rfl) (by omega)
      have inside := readOr_or readLeft (readOr_of_readAnd readRight rfl)
      have one := readAnd_of_readNot (readNot_parentheses inside) continues (by omega)
      simpa [tokens, groupOnto, grouped] using one
  | not operand inner =>
      simp only [tokens, List.length_append, List.length_cons, List.length_nil] at le
      obtain ⟨fuel, rfl⟩ : ∃ less, fuel = less + 1 + 1 + 1 + 1 := ⟨fuel - 4, by omega⟩
      have read : readAnd fuel (operand.tokens ++ .symbol ")" :: rest) =
          some (operand.grouped, .symbol ")" :: rest) :=
        inner uses (@Continues.stop 0 _ rfl) (by omega)
      have inside := readNot_parentheses (readOr_of_readAnd read rfl)
      have one := readAnd_of_readNot (readNot_not inside) continues (by omega)
      simpa [tokens, groupOnto, grouped] using one

theorem ofTokens?_tokens {condition : Condition}
    (uses : condition.Over (fun _ => True) (fun _ => True)) :
    ofTokens? condition.tokens = some condition.grouped := by
  have whole := readAnd_tokens uses (@Continues.stop 0 [] rfl) (Nat.le_refl _)
  have read := readOr_of_readAnd whole rfl
  rw [List.append_nil] at read
  rw [ofTokens?, read]
  rfl

/-- The text of a condition says the condition, up to how AND is grouped. -/
theorem read?_render {sigil : String} (distinctive : Distinctive sigil) {condition : Condition}
    (uses : condition.Over (fun _ => True) (IsNumbered sigil)) :
    read? sigil condition.render = some condition.grouped := by
  have read := (spells_render distinctive uses).read?
  rw [read?, read]
  exact ofTokens?_tokens (uses.imp (fun _ _ => trivial) (fun _ _ => trivial))

end BoundSql.Sql.Condition
