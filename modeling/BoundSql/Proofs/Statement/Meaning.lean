import BoundSql.Proofs.Condition.Membership
import BoundSql.Sql.Draft

/-!
What statements do to a table. A database takes the rows of which every condition is true; how
it sorts, condenses and assigns is left to an `Engine`. A row of which some condition is not true
is spared: it is not found, it does not count, and it stays as it is.
-/

namespace BoundSql.Sql

abbrev Cells := String → Value

/-- What a database does with the rows that it takes. -/
structure Engine where
  sort : List SortKey → List Cells → List Cells
  sort_perm : ∀ keys rows, (sort keys rows).Perm rows
  distinct : List Value → List Value
  distinct_subset : ∀ values, distinct values ⊆ values
  greatest : List Value → Value
  /-- Null is passed over, so there is a greatest value as soon as there is a value. -/
  greatest_eq_null_iff : ∀ values, greatest values = .null ↔ ∀ value ∈ values, value = .null
  total : List Value → Value
  total_eq_null_iff : ∀ values, total values = .null ↔ ∀ value ∈ values, value = .null
  assign : (bound : String → Value) → List Write → Cells → Cells

def Engine.condense (engine : Engine) : Aggregate → List Value → List Value
  | .distinct, values => engine.distinct values
  | .max, values => [engine.greatest values]
  | .sum, values => [engine.total values]

namespace Paging

def window : Option Paging → List α → List α
  | none, items => items
  | some (.top size), items => items.take size.toNat
  | some (.page offset size), items => (items.drop offset.toNat).take size.toNat

def start : Option Paging → UInt64
  | some (.page offset _) => offset
  | _ => 0

/-- A window that has room for an item. -/
def Opens : Option Paging → Prop
  | none => True
  | some (.top size) => size ≠ 0
  | some (.page _ size) => size ≠ 0

theorem window_singleton {paging : Option Paging} (opens : Opens paging) (item : α) :
    window paging [item] = if start paging = 0 then [item] else [] := by
  have room {size : UInt64} (some : size ≠ 0) : [item].take size.toNat = [item] :=
    List.take_of_length_le (UInt64.pos_iff_ne_zero.mpr some)
  cases paging with
  | none => simp [window, start]
  | some paging =>
      cases paging with
      | top size => simp [window, start, room opens]
      | page offset size =>
          by_cases first : offset = 0
          · simp [window, start, first, room opens]
          · have beyond : [item].length ≤ offset.toNat := UInt64.pos_iff_ne_zero.mpr first
            simp [window, start, first, List.drop_eq_nil_of_le beyond]

end Paging

namespace Statement

def conditions : Statement → List Condition
  | .select _ _ conditions _ _ => conditions
  | .count _ conditions => conditions
  | .insert _ _ => []
  | .update _ _ conditions => conditions
  | .delete _ conditions => conditions

/-- Whether a statement takes a row. -/
def takes (statement : Statement) (bound : String → Value) (row : Cells) : Bool :=
  statement.conditions.all fun condition => condition.truth row bound == some true

def project : Selection → Cells → Cells
  | .columns names, row => fun column => if column ∈ names then row column else .null
  | _, row => row

def rowsAmong (engine : Engine) (taken : List Cells) : Statement → List Cells
  | .select (.aggregate _ _) _ _ _ _ => []
  | .select selection _ _ ordering paging =>
      Paging.window paging ((engine.sort ordering taken).map (project selection))
  | _ => []

def valuesAmong (engine : Engine) (taken : List Cells) : Statement → List Value
  | .select (.aggregate function column) _ _ ordering paging =>
      Paging.window paging
        (engine.condense function ((engine.sort ordering taken).map fun row => row column))
  | .count _ _ => [.int (.ofNat taken.length)]
  | _ => []

/-- What a statement finds in a table, given what its placeholders stand for. -/
def rows (statement : Statement) (engine : Engine) (bound : String → Value)
    (table : List Cells) : List Cells :=
  statement.rowsAmong engine (table.filter (statement.takes bound))

def values (statement : Statement) (engine : Engine) (bound : String → Value)
    (table : List Cells) : List Value :=
  statement.valuesAmong engine (table.filter (statement.takes bound))

/-- What a statement leaves of a table. -/
def tableAfter (statement : Statement) (engine : Engine) (bound : String → Value)
    (table : List Cells) : List Cells :=
  match statement with
  | .select _ _ _ _ _ => table
  | .count _ _ => table
  | .insert _ writes => table ++ [engine.assign bound writes fun _ => .null]
  | .update _ writes _ =>
      table.map fun row => if statement.takes bound row then engine.assign bound writes row else row
  | .delete _ _ => table.filter fun row => !statement.takes bound row

/-! ## Rows that are spared -/

/-- A row that a statement neither finds nor changes: with it the statement finds what it finds
without it, and it is left in its place. -/
structure Spares (statement : Statement) (bound : String → Value) (row : Cells) : Prop where
  rows (engine : Engine) (before after : List Cells) :
    statement.rows engine bound (before ++ row :: after) =
      statement.rows engine bound (before ++ after)
  values (engine : Engine) (before after : List Cells) :
    statement.values engine bound (before ++ row :: after) =
      statement.values engine bound (before ++ after)
  table (engine : Engine) (before after : List Cells) : ∃ before' after',
    statement.tableAfter engine bound (before ++ row :: after) = before' ++ row :: after' ∧
      statement.tableAfter engine bound (before ++ after) = before' ++ after'

theorem takes_eq_false_iff {statement : Statement} {bound : String → Value} {row : Cells} :
    statement.takes bound row = false ↔
      ∃ condition ∈ statement.conditions, condition.truth row bound ≠ some true := by
  simp [takes]

theorem spares_of_not_true {statement : Statement} {bound : String → Value} {row : Cells}
    (excluded : ∃ condition ∈ statement.conditions, condition.truth row bound ≠ some true) :
    statement.Spares bound row := by
  have passed : statement.takes bound row = false := takes_eq_false_iff.mpr excluded
  have taken (before after : List Cells) :
      (before ++ row :: after).filter (statement.takes bound) =
        (before ++ after).filter (statement.takes bound) := by
    simp [passed]
  constructor
  case rows =>
      exact fun engine before after => congrArg (statement.rowsAmong engine) (taken before after)
  case values =>
      exact fun engine before after => congrArg (statement.valuesAmong engine) (taken before after)
  case table =>
      intro engine before after
      cases statement with
      | select => exact ⟨before, after, rfl, rfl⟩
      | count => exact ⟨before, after, rfl, rfl⟩
      | insert _ writes =>
          refine ⟨before, after ++ [engine.assign bound writes fun _ => .null], ?_, ?_⟩ <;>
            simp [tableAfter]
      | update table writes conditions =>
          let change (row : Cells) : Cells :=
            if (update table writes conditions).takes bound row then
              engine.assign bound writes row
            else row
          refine ⟨before.map change, after.map change, ?_, List.map_append⟩
          have kept : change row = row := if_neg (by simp [passed])
          calc (before ++ row :: after).map change
            _ = before.map change ++ change row :: after.map change := by simp
            _ = before.map change ++ row :: after.map change := by rw [kept]
      | delete table conditions =>
          let left (row : Cells) : Bool := !(delete table conditions).takes bound row
          refine ⟨before.filter left, after.filter left, ?_, List.filter_append ..⟩
          have kept : left row = true := by simp [left, passed]
          calc (before ++ row :: after).filter left
            _ = before.filter left ++ (row :: after).filter left := List.filter_append ..
            _ = before.filter left ++ row :: after.filter left := by
              rw [List.filter_cons_of_pos kept]

/-! ## What is read after WHERE -/

theorem truth_conjunction_eq_true {first : Condition} {rest : List Condition}
    {row bound : String → Value} :
    (Condition.conjunction first rest).truth row bound = some true ↔
      ∀ condition ∈ first :: rest, condition.truth row bound = some true := by
  induction rest generalizing first with
  | nil => simp [Condition.conjunction]
  | cons next rest induction =>
      rw [Condition.conjunction, Condition.truth, Truth.and_eq_true, induction,
        List.forall_mem_cons (a := first)]

theorem exists_read_where {sigil : String} (distinctive : Distinctive sigil)
    {conditions : List Condition} (nonempty : conditions ≠ [])
    (uses : ∀ condition ∈ conditions, condition.Over (fun _ => True) (IsNumbered sigil)) :
    ∃ text read, renderWhere conditions = " WHERE " ++ text ∧
      Condition.read? sigil text = some read ∧
      ∀ row bound, read.truth row bound = some true ↔
        ∀ condition ∈ conditions, condition.truth row bound = some true := by
  cases conditions with
  | nil => contradiction
  | cons first rest =>
      refine ⟨_, (Condition.conjunction first rest).grouped, rfl, ?_, ?_⟩
      · rw [Condition.renderAll_cons]
        exact Condition.read?_render distinctive (Condition.over_conjunction uses)
      · intro row bound
        rw [(Condition.grouped_regroups _).truth, truth_conjunction_eq_true]

/-! ## Greatest values and totals -/

/-- A greatest value or a total is null, or not there at all, if the window starts behind it, or
if there is no value in the rows taken. -/
theorem values_aggregate_null_iff {function : Aggregate} (single : function ≠ .distinct)
    {column table : String} {conditions : List Condition} {ordering : List SortKey}
    {paging : Option Paging} (opens : Paging.Opens paging) (engine : Engine)
    (bound : String → Value) (rows : List Cells) :
    let statement := select (.aggregate function column) table conditions ordering paging
    (statement.values engine bound rows).head?.getD .null = .null ↔
      Paging.start paging ≠ 0 ∨
        ∀ row ∈ rows.filter (statement.takes bound), row column = .null := by
  intro statement
  have condensed (values : List Value) :
      ∃ value, engine.condense function values = [value] ∧
        (value = .null ↔ ∀ value ∈ values, value = .null) := by
    cases function with
    | distinct => contradiction
    | max => exact ⟨_, rfl, engine.greatest_eq_null_iff values⟩
    | sum => exact ⟨_, rfl, engine.total_eq_null_iff values⟩
  let taken := rows.filter (statement.takes bound)
  rcases condensed ((engine.sort ordering taken).map fun row => row column) with
    ⟨value, alone, isNull⟩
  have found : statement.values engine bound rows = Paging.window paging [value] :=
    congrArg (Paging.window paging) alone
  have among : (∀ value ∈ (engine.sort ordering taken).map fun row => row column,
      value = .null) ↔ ∀ row ∈ taken, row column = .null := by
    simp only [List.forall_mem_map, (engine.sort_perm ordering taken).mem_iff]
  rw [found, Paging.window_singleton opens, ← among, ← isNull]
  by_cases first : Paging.start paging = 0
  · simp [first]
  · simp [first]

end Statement

end BoundSql.Sql
