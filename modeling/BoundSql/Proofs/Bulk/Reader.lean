import BoundSql.Proofs.Bulk

/-!
Reading bulk statements back. `Inserted.ofTokens?` and `Updated.ofTokens?` take the tokens of a
statement apart from the left, without knowing what it was made of. What they find is the table,
the names and, for every row, what its literals are read as.
-/

namespace BoundSql.Sql.Bulk

open Entity
open Condition (after?)

/-! ## Readers

A reader takes an item from the front of a row of tokens and returns the rest. -/

def afterAll? (expected tokens : List Token) : Option (List Token) :=
  if expected.isPrefixOf tokens then some (tokens.drop expected.length) else none

def readItems (separator : List Token) (readItem : List Token → Option (α × List Token)) :
    (fuel : Nat) → List Token → Option (List α × List Token)
  | 0, _ => none
  | fuel + 1, tokens => do
      let (item, rest) ← readItem tokens
      match afterAll? separator rest with
      | none => some ([item], rest)
      | some rest => (readItems separator readItem fuel rest).map (Prod.map (item :: ·) id)

def readSeparated (separator : List Token) (readItem : List Token → Option (α × List Token))
    (tokens : List Token) : Option (List α × List Token) :=
  readItems separator readItem (tokens.length + 1) tokens

def readCommas (readItem : List Token → Option (α × List Token)) (tokens : List Token) :
    Option (List α × List Token) :=
  readSeparated [.symbol ","] readItem tokens

def readName : List Token → Option (String × List Token)
  | .identifier name :: rest => some (name, rest)
  | _ => none

def isOfLiteral : Token → Bool
  | .number _ | .literal _ => true
  | .word text => text == "null"
  | .symbol text => text == "-" || text == "."
  | _ => false

/-- One literal, which goes on as long as tokens may belong to it. -/
def readDatum (tokens : List Token) : Option (Datum × List Token) := do
  let group := tokens.takeWhile isOfLiteral
  let datum ← Datum.ofTokens? group
  return (datum, tokens.drop group.length)

/-! ## Inserts -/

structure Inserted where
  table : String
  columns : List String
  tuples : List (List Datum)

def readTuple (tokens : List Token) : Option (List Datum × List Token) := do
  let rest ← after? (.symbol "(") tokens
  let (data, rest) ← readCommas readDatum rest
  let rest ← after? (.symbol ")") rest
  return (data, rest)

def Inserted.ofTokens? (tokens : List Token) : Option Inserted := do
  let rest ← afterAll? [.word "INSERT", .word "INTO"] tokens
  let (table, rest) ← readName rest
  let rest ← after? (.symbol "(") rest
  let (columns, rest) ← readCommas readName rest
  let rest ← afterAll? [.symbol ")", .word "VALUES"] rest
  let (tuples, rest) ← readCommas readTuple rest
  if rest.isEmpty then some { table, columns, tuples } else none

/-! ## Updates -/

/-- What an update joins a table with, and what it sets. Names of the two tables stand in pairs,
those of the updated table first. -/
structure Updated where
  table : String
  selects : List (List (Datum × String))
  joined : String × String
  sets : List (String × String)

def readAliased (tokens : List Token) : Option ((Datum × String) × List Token) := do
  let (datum, rest) ← readDatum tokens
  let rest ← after? (.word "AS") rest
  let (name, rest) ← readName rest
  return ((datum, name), rest)

def readSelect (tokens : List Token) : Option (List (Datum × String) × List Token) := do
  let rest ← after? (.word "SELECT") tokens
  readCommas readAliased rest

def readPair (tokens : List Token) : Option ((String × String) × List Token) := do
  let rest ← afterAll? [.word "T1", .symbol "."] tokens
  let (left, rest) ← readName rest
  let rest ← afterAll? [.symbol "=", .word "T2", .symbol "."] rest
  let (right, rest) ← readName rest
  return ((left, right), rest)

def Updated.ofTokens? (tokens : List Token) : Option Updated := do
  let rest ← after? (.word "UPDATE") tokens
  let (table, rest) ← readName rest
  let rest ← afterAll? [.word "T1", .word "JOIN", .symbol "("] rest
  let (selects, rest) ← readSeparated [.word "UNION", .word "ALL"] readSelect rest
  let rest ← afterAll? [.symbol ")", .word "T2", .word "ON"] rest
  let (joined, rest) ← readPair rest
  let rest ← after? (.word "SET") rest
  let (sets, rest) ← readCommas readPair rest
  if rest.isEmpty then some { table, selects, joined, sets } else none

/-! ## Items in a row -/

@[simp] theorem after?_cons (token : Token) (rest : List Token) :
    after? token (token :: rest) = some rest := by
  simp [after?]

@[simp] theorem afterAll?_append (expected rest : List Token) :
    afterAll? expected (expected ++ rest) = some rest := by
  have starts : expected.isPrefixOf (expected ++ rest) = true :=
    List.isPrefixOf_iff_prefix.mpr (List.prefix_append ..)
  rw [afterAll?, if_pos starts, List.drop_left]

/-- Whether some tokens are read as an item, whatever follows them that ends the item. -/
def Reads (readItem : List Token → Option (α × List Token)) (Ends : List Token → Prop)
    (tokens : List Token) (item : α) : Prop :=
  ∀ rest, Ends rest → readItem (tokens ++ rest) = some (item, rest)

section

variable {readItem : List Token → Option (α × List Token)} {Ends : List Token → Prop}
  {separator : List Token} {groups : List (List Token)} {items : List α}

theorem readItems_intercalate (each : List.Forall₂ (Reads readItem Ends) groups items)
    (nonempty : items ≠ []) (between : ∀ rest, Ends (separator ++ rest)) {rest : List Token}
    (ends : Ends rest) (last : afterAll? separator rest = none) {fuel : Nat}
    (enough : items.length ≤ fuel) :
    readItems separator readItem fuel (separator.intercalate groups ++ rest) =
      some (items, rest) := by
  induction each generalizing fuel with
  | nil => contradiction
  | @cons group item groups items first others induction =>
      obtain ⟨fuel, rfl⟩ : ∃ less, fuel = less + 1 :=
        ⟨fuel - 1, by simp only [List.length_cons] at enough; omega⟩
      cases others with
      | nil => simp [readItems, first rest ends, last]
      | @cons next item' groups items second others =>
          have more := induction (by simp) (by simpa using enough)
          have read := first _ (between (separator.intercalate (next :: groups) ++ rest))
          simp [readItems, read, more]

theorem length_le_length_intercalate (solid : separator ≠ []) (groups : List (List Token)) :
    groups.length ≤ (separator.intercalate groups).length + 1 := by
  induction groups with
  | nil => simp
  | cons group groups induction =>
      cases groups with
      | nil => simp
      | cons next groups =>
          have positive := List.length_pos_iff.mpr solid
          simp only [List.length_cons, List.intercalate_cons_cons, List.length_append] at *
          omega

theorem reads_separated (separator : List Token)
    (each : List.Forall₂ (Reads readItem Ends) groups items) (nonempty : items ≠ [])
    (solid : separator ≠ []) (between : ∀ rest, Ends (separator ++ rest)) :
    Reads (readSeparated separator readItem)
      (fun rest => Ends rest ∧ afterAll? separator rest = none)
      (separator.intercalate groups) items := by
  rintro rest ⟨ends, last⟩
  apply readItems_intercalate each nonempty between ends last
  have length := length_le_length_intercalate solid groups
  rw [each.length_eq] at length
  rw [List.length_append]
  omega

theorem afterAll?_eq_none {expected rest : List Token} {first : Token}
    (other : ∀ token ∈ rest.head?, token ≠ first) :
    afterAll? (first :: expected) rest = none := by
  cases rest with
  | nil => rfl
  | cons token rest =>
      have different : first ≠ token := (other token rfl).symm
      simp [afterAll?, List.isPrefixOf, different]

def EndsCommas (rest : List Token) : Prop := ∀ token ∈ rest.head?, token ≠ .symbol ","

theorem endsCommas_nil : EndsCommas [] := by simp [EndsCommas]

theorem reads_commas (each : List.Forall₂ (Reads readItem Ends) groups items)
    (nonempty : items ≠ []) (between : ∀ rest, Ends (.symbol "," :: rest)) {rest : List Token}
    (ends : Ends rest) (last : EndsCommas rest) :
    readCommas readItem (commaTokens groups ++ rest) = some (items, rest) :=
  reads_separated [.symbol ","] each nonempty (by simp) between rest
    ⟨ends, afterAll?_eq_none last⟩

end

/-! ## Literals and names -/

def EndsLiteral (rest : List Token) : Prop := ∀ token ∈ rest.head?, isOfLiteral token = false

def IsDatum (group : List Token) (datum : Datum) : Prop := Datum.ofTokens? group = some datum

theorem isOfLiteral_of_numeral? {group : List Token} {numeral : List Char}
    (read : Datum.numeral? group = some numeral) : ∀ token ∈ group, isOfLiteral token = true := by
  unfold Datum.numeral? at read
  split at read
  · simp [isOfLiteral]
  · simp [isOfLiteral]
  · contradiction

theorem IsDatum.allOfLiteral {group : List Token} {datum : Datum} (read : IsDatum group datum) :
    ∀ token ∈ group, isOfLiteral token = true := by
  rw [IsDatum] at read
  unfold Datum.ofTokens? at read
  split at read
  · simp [isOfLiteral]
  · simp [isOfLiteral]
  · rcases Option.bind_eq_some_iff.mp read with ⟨numeral, unsigned, _⟩
    exact List.forall_mem_cons.mpr ⟨rfl, isOfLiteral_of_numeral? unsigned⟩
  · rcases Option.bind_eq_some_iff.mp read with ⟨numeral, unsigned, _⟩
    exact isOfLiteral_of_numeral? unsigned

theorem reads_datum {group : List Token} {datum : Datum} (read : IsDatum group datum) :
    Reads readDatum EndsLiteral group datum := by
  intro rest ends
  have taken : (group ++ rest).takeWhile isOfLiteral = group :=
    (Number.span_append read.allOfLiteral ends).1
  rw [IsDatum] at read
  simp [readDatum, taken, read]

theorem reads_name (name : String) : Reads readName (fun _ => True) [.identifier name] name :=
  fun _ _ => rfl

theorem endsLiteral_cons {token : Token} (other : isOfLiteral token = false)
    (rest : List Token) : EndsLiteral (token :: rest) := by
  simpa [EndsLiteral] using other

theorem readCommas_names {names : List String} (nonempty : names ≠ []) {rest : List Token}
    (last : EndsCommas rest) :
    readCommas readName (commaTokens (names.map fun name => [.identifier name]) ++ rest) =
      some (names, rest) := by
  have each : List.Forall₂ (Reads readName fun _ => True)
      (names.map fun name => [Token.identifier name]) names := by
    rw [List.forall₂_map_left_iff, List.forall₂_same]
    exact fun name _ => reads_name name
  exact reads_commas each nonempty (fun _ => trivial) trivial last

/-! ## Rows -/

structure IsRow (groups : List (List Token)) (data : List Datum) : Prop where
  nonempty : data ≠ []
  each : List.Forall₂ IsDatum groups data

theorem IsRow.reads {groups : List (List Token)} {data : List Datum} (row : IsRow groups data) :
    Reads readTuple (fun _ => True) (tupleTokens groups) data := by
  have each := row.each.imp fun _ _ => reads_datum
  intro rest _
  have ends : EndsLiteral (.symbol ")" :: rest) := endsLiteral_cons (by decide) rest
  have inside := reads_commas each row.nonempty (endsLiteral_cons (by decide)) ends
    (by simp [EndsCommas])
  simp [readTuple, tupleTokens, inside]

theorem ofTokens?_insertTokens (table : String) {columns : List Column}
    {tuples : List (List (List Token))} {rows : List (List Datum)} (anyColumn : columns ≠ [])
    (anyRow : rows ≠ []) (read : List.Forall₂ IsRow tuples rows) :
    Inserted.ofTokens? (insertTokens table columns tuples) =
      some ⟨table, columns.map (·.name), rows⟩ := by
  have each : List.Forall₂ (Reads readTuple fun _ => True) (tuples.map tupleTokens) rows := by
    rw [List.forall₂_map_left_iff]
    exact read.imp fun _ _ => IsRow.reads
  have values := reads_commas each anyRow (fun _ => trivial) trivial endsCommas_nil
  have someName : columns.map (·.name) ≠ [] := by simpa using anyColumn
  have names (rest : List Token) :=
    readCommas_names someName (show EndsCommas (.symbol ")" :: rest) by simp [EndsCommas])
  simp only [List.map_map, Function.comp_def] at names
  rw [List.append_nil] at values
  have start (rest : List Token) := afterAll?_append [.word "INSERT", .word "INTO"] rest
  have middle := afterAll?_append [.symbol ")", .word "VALUES"]
    (commaTokens (tuples.map tupleTokens))
  simp only [List.cons_append, List.nil_append] at start middle
  simp [Inserted.ofTokens?, insertTokens, start, readName, names, middle, values]

/-! ## Selects -/

def selectTokens (columns : List Column) (groups : List (List Token)) : List Token :=
  .word "SELECT" :: commaTokens ((groups.zip columns).map fun (group, column) =>
    group ++ [.word "AS", .identifier column.name])

def qualifiedTokens (table name : String) : List Token :=
  [.word table, .symbol ".", .identifier name]

def pairTokens (column : Column) : List Token :=
  qualifiedTokens "T1" column.name ++ .symbol "=" :: qualifiedTokens "T2" column.name

def updateTokens (table : String) (key : Column) (columns : List Column)
    (rows : List (List (List Token))) : List Token :=
  [.word "UPDATE", .identifier table, .word "T1", .word "JOIN", .symbol "("] ++
    [.word "UNION", .word "ALL"].intercalate (rows.map (selectTokens (key :: columns))) ++
    [.symbol ")", .word "T2", .word "ON"] ++ pairTokens key ++ [.word "SET"] ++
    commaTokens (columns.map pairTokens)

theorem IsDatum.readsAliased {group : List Token} {datum : Datum} (read : IsDatum group datum)
    (name : String) :
    Reads readAliased (fun _ => True) (group ++ [.word "AS", .identifier name]) (datum, name) := by
  intro rest _
  have inside := reads_datum read _
    (endsLiteral_cons (by decide) (.identifier name :: rest) : EndsLiteral (.word "AS" :: _))
  simp [readAliased, inside, readName]

theorem reads_aliased {groups : List (List Token)} {data : List Datum}
    (each : List.Forall₂ IsDatum groups data) (columns : List Column) :
    List.Forall₂ (Reads readAliased fun _ => True)
      ((groups.zip columns).map fun (group, column) =>
        group ++ [.word "AS", .identifier column.name])
      (data.zip (columns.map (·.name))) := by
  induction each generalizing columns with
  | nil => exact .nil
  | cons first _ induction =>
      cases columns with
      | nil => exact .nil
      | cons column columns => exact .cons (first.readsAliased column.name) (induction columns)

theorem IsRow.readsSelect {groups : List (List Token)} {data : List Datum}
    (row : IsRow groups data) {columns : List Column} (anyColumn : columns ≠ []) :
    Reads readSelect EndsCommas (selectTokens columns groups)
      (data.zip (columns.map (·.name))) := by
  have nonempty : data.zip (columns.map (·.name)) ≠ [] := by
    simp [row.nonempty, anyColumn]
  intro rest last
  have inside := reads_commas (reads_aliased row.each columns) nonempty (fun _ => trivial)
    trivial last
  simp [readSelect, selectTokens, inside]

theorem reads_pair (column : Column) :
    Reads readPair (fun _ => True) (pairTokens column) (column.name, column.name) := by
  intro rest _
  have left (rest : List Token) := afterAll?_append [.word "T1", .symbol "."] rest
  have right (rest : List Token) :=
    afterAll?_append [.symbol "=", .word "T2", .symbol "."] rest
  simp only [List.cons_append, List.nil_append] at left right
  simp [readPair, pairTokens, qualifiedTokens, left, right, readName]

theorem ofTokens?_updateTokens (table : String) (key : Column) {columns : List Column}
    {groups : List (List (List Token))} {rows : List (List Datum)} (anyColumn : columns ≠ [])
    (anyRow : rows ≠ []) (read : List.Forall₂ IsRow groups rows) :
    Updated.ofTokens? (updateTokens table key columns groups) =
      some { table
             selects := rows.map (·.zip ((key :: columns).map (·.name)))
             joined := (key.name, key.name)
             sets := columns.map fun column => (column.name, column.name) } := by
  have each : List.Forall₂ (Reads readSelect EndsCommas)
      (groups.map (selectTokens (key :: columns)))
      (rows.map (·.zip ((key :: columns).map (·.name)))) := by
    rw [List.forall₂_map_left_iff, List.forall₂_map_right_iff]
    exact read.imp fun _ _ row => row.readsSelect (by simp)
  have pairs : List.Forall₂ (Reads readPair fun _ => True) (columns.map pairTokens)
      (columns.map fun column => (column.name, column.name)) := by
    rw [List.forall₂_map_left_iff, List.forall₂_map_right_iff, List.forall₂_same]
    exact fun column _ => reads_pair column
  have somePair : (columns.map fun column => (column.name, column.name)) ≠ [] := by
    simpa using anyColumn
  have sets := reads_commas pairs somePair (fun _ => trivial) trivial endsCommas_nil
  rw [List.append_nil] at sets
  have someSelect : (rows.map (·.zip ((key :: columns).map (·.name)))) ≠ [] := by
    simpa using anyRow
  have selects (rest : List Token) :=
    reads_separated [.word "UNION", .word "ALL"] each someSelect (by simp) (by simp [EndsCommas])
      (.symbol ")" :: rest) ⟨by simp [EndsCommas], afterAll?_eq_none (by simp)⟩
  have joined (rest : List Token) := reads_pair key rest trivial
  have middle (rest : List Token) :=
    afterAll?_append [.word "T1", .word "JOIN", .symbol "("] rest
  have behind (rest : List Token) :=
    afterAll?_append [.symbol ")", .word "T2", .word "ON"] rest
  simp only [List.cons_append, List.nil_append] at middle behind
  simp [Updated.ofTokens?, updateTokens, readName, middle, selects, behind, joined, sets]

end BoundSql.Sql.Bulk
