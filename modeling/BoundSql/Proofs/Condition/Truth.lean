import BoundSql.Proofs.Condition.Meaning
import BoundSql.Proofs.Pattern
import BoundSql.Expr.Truth

/-!
Conditions over a row. `Condition.truth` is what a database makes of a condition, with
values in its columns and behind its placeholders. An expression evaluated in memory has
the truth of the condition that it compiles to, and so does the text of that condition.
-/

namespace BoundSql

open Entity

theorem Truth.and_assoc (a b c : Truth) : (a.and b).and c = a.and (b.and c) := by
  rcases a with - | (- | -) <;> rcases b with - | (- | -) <;> rcases c with - | (- | -) <;> rfl

/-- A relation between truths that conjunction and disjunction keep. -/
structure Truth.Kept (related : Truth → Truth → Prop) : Prop where
  refl : ∀ a, related a a
  and : ∀ {a b c d}, related a b → related c d → related (a.and c) (b.and d)
  or : ∀ {a b c d}, related a b → related c d → related (a.or c) (b.or d)

theorem Truth.kept_eq : Truth.Kept (· = ·) where
  refl _ := rfl
  and first second := by rw [first, second]
  or first second := by rw [first, second]

/-- What a row may hold in a column: null, a value of the column's kind, and an integer in
place of a truth value. -/
def Kind.Admits (kind : Kind) (value : Value) : Prop :=
  value = .null ∨ value.kind? = some kind ∨ (kind = .bool ∧ value.kind? = some .int)

namespace Expr

/-- A text meant for a date or an identifier is read as one before it is bound. -/
def IsRead (column : Column) (value : Value) : Prop :=
  (column.kind = .dateTime ∨ column.kind = .uuid) ∧ ∃ text, value = .text text

/-- An expression that compares no text with a date or an identifier, and looks only in
lists that have items and no null among them. -/
def Plain (schema : Schema) : Expr → Prop
  | .unary _ operand => operand.Plain schema
  | .binary (.compare _) left right =>
      ∀ column ∈ left.member?.bind schema.column?, ∀ value ∈ right.constant?,
        ¬ IsRead column value
  | .binary _ left right => left.Plain schema ∧ right.Plain schema
  | .call target .equals args =>
      ∀ column ∈ target.member?.bind schema.column?, ∀ value ∈ args.head?.bind constant?,
        ¬ IsRead column value
  | .call target .contains args =>
      ∀ items, target.constant? = some (.list items) → items ≠ [] ∧
        ∀ item ∈ items, item.isNull = false ∧
          ∀ column ∈ (args.head?.bind member?).bind schema.column?, ¬ IsRead column item
  | _ => True

/-! ## Tests -/

def comparison? : Expr → Option (Comparison × String × Value)
  | .binary (.compare op) left right => do return (op, ← left.member?, ← right.constant?)
  | .call target .equals args => do
      return (.equal, ← target.member?, ← args.head?.bind constant?)
  | _ => none

def comparisons : Expr → List (Comparison × String × Value)
  | .unary _ operand => operand.comparisons
  | .binary (.compare op) left right => (Expr.binary (.compare op) left right).comparison?.toList
  | .binary _ left right => left.comparisons ++ right.comparisons
  | .call target .equals args => (Expr.call target .equals args).comparison?.toList
  | _ => []

def memberships : Expr → List (String × List Value)
  | .unary _ operand => operand.memberships
  | .binary (.compare _) _ _ => []
  | .binary _ left right => left.memberships ++ right.memberships
  | .call target .contains args =>
      match target.constant?, args.head?.bind member? with
      | some (.list items), some name => [(name, items)]
      | _, _ => []
  | _ => []

def negates : Expr → Bool
  | .unary .not _ => true
  | .unary .convert operand => operand.negates
  | .binary _ left right => left.negates || right.negates
  | _ => false

theorem constant?_of_member? {expr : Expr} {member : String}
    (named : expr.member? = some member) : expr.constant? = none := by
  unfold member? at named
  split at named
  next bare => rw [constant?, bare]
  next => contradiction

theorem comparison?_eq_some_iff {expr : Expr} {op : Comparison} {name : String} {value : Value} :
    expr.comparison? = some (op, name, value) ↔
      (∃ left right, expr = .binary (.compare op) left right ∧ left.member? = some name ∧
        right.constant? = some value) ∨
      ∃ target args, expr = .call target .equals args ∧ op = .equal ∧
        target.member? = some name ∧ args.head?.bind constant? = some value := by
  have pair {member : Option String} {constant : Option Value} {op' : Comparison} :
      (do return (op', ← member, ← constant) : Option _) = some (op, name, value) ↔
        op' = op ∧ member = some name ∧ constant = some value := by
    cases member <;> cases constant <;> simp
  constructor
  · intro compares
    unfold comparison? at compares
    split at compares
    next op' left right =>
        rcases pair.mp compares with ⟨rfl, named, captured⟩
        exact .inl ⟨left, right, rfl, named, captured⟩
    next target args =>
        rcases pair.mp compares with ⟨rfl, named, captured⟩
        exact .inr ⟨target, args, rfl, rfl, named, captured⟩
    next => contradiction
  · rintro (⟨left, right, rfl, named, captured⟩ | ⟨target, args, rfl, rfl, named, captured⟩)
    · exact pair.mpr ⟨rfl, named, captured⟩
    · exact pair.mpr ⟨rfl, named, captured⟩

theorem mem_comparisons {expr : Expr} {test : Comparison × String × Value}
    (compares : expr.comparison? = some test) : test ∈ expr.comparisons := by
  rcases comparison?_eq_some_iff.mp compares with ⟨left, right, rfl, -⟩ | ⟨target, args, rfl, -⟩
  · rw [comparisons, compares]
    exact List.mem_singleton_self _
  · rw [comparisons, compares]
    exact List.mem_singleton_self _

theorem evaluate_of_comparison {lookup : String → Value} {expr : Expr} {op : Comparison}
    {name : String} {value : Value} (compares : expr.comparison? = some (op, name, value)) :
    expr.evaluate lookup = .ok (compareValues op (lookup name) value) := by
  rcases comparison?_eq_some_iff.mp compares with
    ⟨left, right, rfl, named, captured⟩ | ⟨target, args, rfl, rfl, named, captured⟩
  · simp [evaluate, evaluateComparison, named, captured, orUnsupported]
    rfl
  · simp [evaluate, evaluateCall, named, captured, orUnsupported]
    rfl

theorem memberships_call {target : Expr} {args : List Expr} {items : List Value}
    {name : String} (captured : target.constant? = some (.list items))
    (named : args.head?.bind member? = some name) :
    (Expr.call target .contains args).memberships = [(name, items)] := by
  simp [memberships, captured, named]

theorem evaluate_contains {lookup : String → Value} {target : Expr} {args : List Expr}
    {items : List Value} {name : String} (captured : target.constant? = some (.list items))
    (named : args.head?.bind member? = some name) :
    (Expr.call target .contains args).evaluate lookup = .ok (isAmong (lookup name) items) := by
  simp [evaluate, evaluateCall, named, captured, orUnsupported]

theorem evaluate_textual {lookup : String → Value} {target arg : Expr} {method : Method}
    {member : String} {value : Value} (textual : method ≠ .equals)
    (named : target.member? = some member) (captured : arg.constant? = some value) :
    (Expr.call target method [arg]).evaluate lookup =
      .ok (matchText method (lookup member) value) := by
  have noConstant := constant?_of_member? named
  cases method with
  | equals => contradiction
  | _ =>
      simp [evaluate, evaluateCall, named, captured, noConstant, orUnsupported]
      rfl

end Expr

namespace Sql

/-! ## Tests -/

def isSame (value bound : Value) : Bool :=
  if bound.isNull then value.isNull else value.compare? bound == some .eq

def isLike : Value → Value → Truth
  | .text whole, .text pattern => some (likes pattern.toList whole.toList)
  | _, _ => none

def isIn (value : Value) (items : List Value) : Truth :=
  if value.isNull then none
  else if items.any fun item => value.compare? item == some .eq then some true
  else if items.any Value.isNull then none
  else some false

def Bindings.valueOf (bindings : Bindings) (name : String) : Value :=
  (bindings.get? name).getD .null

theorem Bindings.Holds.valueOf {bindings : Bindings} {name : String} {value : Value}
    (holds : bindings.Holds name value) : bindings.valueOf name = value := by
  rw [Bindings.valueOf, holds.2]
  rfl

theorem isIn_eq_isAmong (value : Value) {items : List Value}
    (solid : ∀ item ∈ items, item.isNull = false) :
    isIn value items = Expr.isAmong value items := by
  have noNull : items.any Value.isNull = false := by
    rw [List.any_eq_false]
    intro item member
    simp [solid item member]
  unfold isIn Expr.isAmong
  rw [noNull]
  split
  next => rfl
  next => cases items.any fun item => value.compare? item == some .eq <;> rfl

theorem isLike_patternOf {method : Method} (textual : method ≠ .equals) (value : Value)
    (part : String) :
    isLike value (.text (Condition.patternOf method part)) =
      Expr.matchText method value (.text part) := by
  cases value with
  | text whole =>
      simp only [isLike, Expr.matchText]
      cases method with
      | contains =>
          have found := @likes_anywhere_iff part.toList whole.toList
          rw [← Text.occursIn_iff, ← Bool.eq_iff_iff] at found
          simp [Condition.patternOf, escapePattern, found]
      | startsWith =>
          have found := @likes_start_iff part.toList whole.toList
          rw [← List.isPrefixOf_iff_prefix, ← Bool.eq_iff_iff] at found
          simp [Condition.patternOf, escapePattern, found]
      | endsWith =>
          have found := @likes_end_iff part.toList whole.toList
          rw [← List.isSuffixOf_iff_suffix, ← Bool.eq_iff_iff] at found
          simp [Condition.patternOf, escapePattern, found]
      | equals => contradiction
  | _ => rfl

namespace Condition

/-! ## Conditions -/

/-- The truth of a condition, given the columns of a row and the values of placeholders. -/
def truth (row bound : String → Value) : Condition → Truth
  | .always truth => some truth
  | .compare column op name => ((row column).compare? (bound name)).map op.holds
  | .isNull column negated name => some (isSame (row column) (bound name) != negated)
  | .like column name => isLike (row column) (bound name)
  | .among column names => isIn (row column) (names.map bound)
  | .and left right => (truth row bound left).and (truth row bound right)
  | .or left right => (truth row bound left).or (truth row bound right)
  | .not operand => (truth row bound operand).not

theorem Regroups.truth {a b : Condition} (regroups : Regroups a b) (row bound : String → Value) :
    a.truth row bound = b.truth row bound := by
  induction regroups with
  | refl _ => rfl
  | symm _ same => exact same.symm
  | trans _ _ first second => exact first.trans second
  | assoc a b c => exact Truth.and_assoc _ _ _
  | and _ _ first second => simp only [Condition.truth, first, second]
  | or _ _ first second => simp only [Condition.truth, first, second]
  | not _ inner => simp only [Condition.truth, inner]

/-! ## Conditions that stand for expressions -/

section

variable {schema : Schema} {bindings : Bindings} {lookup row : String → Value}

theorem boundValue_eq {column : Column} {value stored : Value}
    (plain : ¬ Expr.IsRead column value) (read : boundValue column value = .ok stored) :
    stored = value := by
  unfold boundValue at read
  split at read
  next text kind => exact absurd ⟨.inl kind, text, rfl⟩ plain
  next text kind => exact absurd ⟨.inr kind, text, rfl⟩ plain
  next => contradiction
  next => exact (Except.ok.inj read).symm

def reading (column : Column) (value : Value) : Value :=
  (boundValue column value).toOption.getD value

theorem reading_of_boundValue {column : Column} {value stored : Value}
    (read : boundValue column value = .ok stored) : reading column value = stored := by
  rw [reading, read]
  rfl

theorem reading_eq {column : Column} {value : Value} (plain : ¬ Expr.IsRead column value) :
    reading column value = value := by
  cases read : boundValue column value with
  | error e => rw [reading, read]; rfl
  | ok stored => rw [reading_of_boundValue read, boundValue_eq plain read]

theorem map_reading {column : Column} {items : List Value}
    (plain : ∀ item ∈ items, ¬ Expr.IsRead column item) : items.map (reading column) = items := by
  have each : ∀ item ∈ items, reading column item = id item :=
    fun item member => reading_eq (plain item member)
  rw [List.map_congr_left each, List.map_id]

theorem not_isRead_null (column : Column) : ¬ Expr.IsRead column .null := by
  intro read
  rcases read.2 with ⟨text, equal⟩
  contradiction

theorem reading_null (column : Column) : reading column .null = .null :=
  reading_eq (not_isRead_null column)

theorem kind?_of_boundValue {column : Column} {value stored : Value}
    (isRead : Expr.IsRead column value) (read : boundValue column value = .ok stored) :
    stored.kind? = some column.kind := by
  rcases isRead with ⟨kind, text, rfl⟩
  rw [boundValue.eq_def] at read
  rcases kind with kind | kind <;>
  · simp only [kind, coerceFor, Value.coerce, Value.stored?] at read ⊢
    split at read
    next found =>
        split at found
        next equal =>
            rcases Option.map_eq_some_iff.mp equal with ⟨known, _, rfl⟩
            rcases Except.ok.inj found with rfl
            rcases Except.ok.inj read with rfl
            rfl
        next => contradiction
    next => contradiction

theorem isNull_of_boundValue {column : Column} {value stored : Value}
    (solid : value.isNull = false) (read : boundValue column value = .ok stored) :
    stored.isNull = false := by
  by_cases isRead : Expr.IsRead column value
  · have kind := kind?_of_boundValue isRead read
    cases stored with
    | null => contradiction
    | _ => rfl
  · rw [boundValue_eq isRead read, solid]

theorem Tests.truth {column : Column} {op : Comparison} {value : Value} {condition : Condition}
    (tests : Tests bindings column op value condition) :
    condition.truth row bindings.valueOf =
      Expr.compareValues op (row column.name) (reading column value) := by
  cases tests with
  | value solid read holds =>
      have stillSolid := isNull_of_boundValue solid read
      simp [Condition.truth, holds.valueOf, Expr.compareValues, reading_of_boundValue read,
        stillSolid]
  | isNull holds =>
      simp [Condition.truth, holds.valueOf, Expr.compareValues, isSame, Value.isNull,
        reading_null]
  | isNotNull holds =>
      simp [Condition.truth, holds.valueOf, Expr.compareValues, isSame, Value.isNull,
        reading_null]

theorem map_valueOf {column : Column} {items : List Value} {names : List String}
    (held : List.Forall₂ (fun item name => ∃ stored,
      boundValue column item = .ok stored ∧ bindings.Holds name stored) items names) :
    names.map bindings.valueOf = items.map (reading column) := by
  induction held with
  | nil => rfl
  | cons first _ induction =>
      rcases first with ⟨stored, read, holds⟩
      rw [List.map_cons, List.map_cons, holds.valueOf, reading_of_boundValue read, induction]

theorem truthOf_eq (shape : Expr) {value : Value} (admits : Kind.bool.Admits value) :
    Expr.truthOf shape value = .ok ((value.compare? (.bool true)).map Comparison.equal.holds) := by
  have one : ∀ n : Int64, (n == 1) = (Value.compareInt n 1 == .eq) := by
    intro n
    rw [Bool.eq_iff_iff, beq_iff_eq, beq_iff_eq, Value.compareInt, Int.compare_eq_eq]
    exact Int64.toInt_inj.symm
  cases value with
  | null => rfl
  | bool b => cases b <;> rfl
  | int n => simp [Expr.truthOf, Value.compare?, Value.intOf, Comparison.holds, one]
  | _ => simp [Kind.Admits, Value.kind?] at admits

end

def membership (value : Value) (items : List Value) : Truth :=
  if items.isEmpty then some false else isIn value items

/-- The tests of an expression are related, over a row, to what a database makes of them. -/
structure Mirrors (related : Truth → Truth → Prop) (schema : Schema) (lookup : String → Value)
    (expr : Expr) : Prop where
  comparisons : ∀ test ∈ expr.comparisons, ∀ column ∈ schema.column? test.2.1,
    related (Expr.compareValues test.1 (lookup test.2.1) test.2.2)
      (Expr.compareValues test.1 (lookup test.2.1) (reading column test.2.2))
  memberships : ∀ test ∈ expr.memberships, ∀ column ∈ schema.column? test.1,
    related (Expr.isAmong (lookup test.1) test.2)
      (membership (lookup test.1) (test.2.map (reading column)))

section

variable {schema : Schema} {bindings : Bindings} {lookup row : String → Value}

theorem member_of_column? {name : String} {column : Column}
    (declared : schema.column? name = some column) : column.member = name := by
  simpa using List.find?_some declared

theorem Mirrors.part {related : Truth → Truth → Prop} {part whole : Expr}
    (mirrors : Mirrors related schema lookup whole)
    (comparisons : part.comparisons ⊆ whole.comparisons)
    (memberships : part.memberships ⊆ whole.memberships) : Mirrors related schema lookup part where
  comparisons test inside := mirrors.comparisons test (comparisons inside)
  memberships test inside := mirrors.memberships test (memberships inside)

/-- If the tests of an expression are related to what a database makes of them, then so is the
expression to the condition that stands for it. Only a relation that negation does not keep
needs an expression without it. -/
theorem StandsFor.evaluate_of_mirrors {related : Truth → Truth → Prop} (kept : Truth.Kept related)
    {expr : Expr} {condition : Condition} (stands : StandsFor schema bindings expr condition)
    (negation : expr.negates = true → ∀ a b, related a b → related a.not b.not)
    (mirrors : Mirrors related schema lookup expr)
    (fits : ∀ column ∈ schema.columns,
      column.kind.Admits (lookup column.member) ∧ row column.name = lookup column.member) :
    ∃ truth, expr.evaluate lookup = .ok truth ∧
      related truth (condition.truth row bindings.valueOf) := by
  have here {member : String} {column : Column} (declared : schema.column? member = some column) :
      column.kind.Admits (lookup member) ∧ row column.name = lookup member := by
    rcases member_of_column? declared with rfl
    exact fits column (List.mem_of_find?_eq_some declared)
  have compare {expr : Expr} {op : Comparison} {member : String} {column : Column} {value : Value}
      {condition : Condition} (mirrors : Mirrors related schema lookup expr)
      (declared : schema.column? member = some column)
      (tests : Tests bindings column op value condition)
      (compares : expr.comparison? = some (op, member, value)) :
      ∃ truth, expr.evaluate lookup = .ok truth ∧
        related truth (condition.truth row bindings.valueOf) := by
    rw [tests.truth, (here declared).2]
    exact ⟨_, Expr.evaluate_of_comparison compares,
      mirrors.comparisons _ (Expr.mem_comparisons compares) column declared⟩
  induction stands with
  | convert _ inner => exact inner negation ⟨mirrors.comparisons, mirrors.memberships⟩
  | and _ _ first second =>
      have left := first (fun negates => negation (by simp [Expr.negates, negates]))
        (mirrors.part (List.subset_append_left _ _) (List.subset_append_left _ _))
      have right := second (fun negates => negation (by simp [Expr.negates, negates]))
        (mirrors.part (List.subset_append_right _ _) (List.subset_append_right _ _))
      rcases left with ⟨a, evaluated, holds⟩
      rcases right with ⟨b, evaluated', holds'⟩
      exact ⟨_, by rw [Expr.evaluate, evaluated, evaluated']; rfl, kept.and holds holds'⟩
  | or _ _ first second =>
      have left := first (fun negates => negation (by simp [Expr.negates, negates]))
        (mirrors.part (List.subset_append_left _ _) (List.subset_append_left _ _))
      have right := second (fun negates => negation (by simp [Expr.negates, negates]))
        (mirrors.part (List.subset_append_right _ _) (List.subset_append_right _ _))
      rcases left with ⟨a, evaluated, holds⟩
      rcases right with ⟨b, evaluated', holds'⟩
      exact ⟨_, by rw [Expr.evaluate, evaluated, evaluated']; rfl, kept.or holds holds'⟩
  | not _ inner =>
      have keeps := negation rfl
      rcases inner (fun _ => keeps) ⟨mirrors.comparisons, mirrors.memberships⟩ with
        ⟨a, evaluated, holds⟩
      exact ⟨_, by rw [Expr.evaluate, evaluated]; rfl, keeps _ _ holds⟩
  | comparison named declared captured tests =>
      apply compare mirrors declared tests
      exact Expr.comparison?_eq_some_iff.mpr (.inl ⟨_, _, rfl, named, captured⟩)
  | equals named declared captured tests =>
      apply compare mirrors declared tests
      exact Expr.comparison?_eq_some_iff.mpr (.inr ⟨_, _, rfl, rfl, named, captured⟩)
  | like named declared captured textual holds =>
      rw [truth, (here declared).2, holds.valueOf, isLike_patternOf textual]
      exact ⟨_, Expr.evaluate_textual textual named captured, kept.refl _⟩
  | among captured nonempty named declared held =>
      have inside := Expr.memberships_call captured named
      have holds := mirrors.memberships _ (by rw [inside]; exact List.mem_singleton_self _)
        _ declared
      rw [membership, if_neg (by simpa using nonempty)] at holds
      rw [truth, map_valueOf held, (here declared).2]
      exact ⟨_, Expr.evaluate_contains captured named, holds⟩
  | nowhere captured named declared =>
      have inside := Expr.memberships_call captured named
      have holds := mirrors.memberships _ (by rw [inside]; exact List.mem_singleton_self _)
        _ declared
      exact ⟨_, Expr.evaluate_contains captured named, holds⟩
  | member declared truth holds =>
      rcases here declared with ⟨admits, found⟩
      rw [truth] at admits
      rw [Condition.truth, found, holds.valueOf]
      exact ⟨_, by rw [Expr.evaluate, truthOf_eq _ admits], kept.refl _⟩
  | constant truth => exact ⟨_, rfl, kept.refl _⟩

end

section

variable {schema : Schema} {bindings : Bindings} {lookup row : String → Value} {expr : Expr}

theorem not_isRead_of_plain (plain : expr.Plain schema) :
    ∀ test ∈ expr.comparisons, ∀ column ∈ schema.column? test.2.1,
      ¬ Expr.IsRead column test.2.2 := by
  fun_induction Expr.comparisons expr with
  | case1 op operand inner => exact inner plain
  | case2 op left right =>
      rintro ⟨op', name, value⟩ inside column declared
      rcases Expr.comparison?_eq_some_iff.mp (Option.mem_toList.mp inside) with
        ⟨left', right', ⟨⟩, named, captured⟩ | ⟨target, args, ⟨⟩, _⟩
      exact plain column (Option.bind_eq_some_iff.mpr ⟨name, named, declared⟩) value captured
  | case3 op left right notCompare first second =>
      cases op with
      | compare op => exact absurd rfl (notCompare op)
      | _ => exact List.forall_mem_append.mpr ⟨first plain.1, second plain.2⟩
  | case4 target args =>
      rintro ⟨op', name, value⟩ inside column declared
      rcases Expr.comparison?_eq_some_iff.mp (Option.mem_toList.mp inside) with
        ⟨left, right, ⟨⟩, _⟩ | ⟨target', args', ⟨⟩, _, named, captured⟩
      exact plain column (Option.bind_eq_some_iff.mpr ⟨name, named, declared⟩) value captured
  | case5 => simp

theorem lists_of_plain (plain : expr.Plain schema) :
    ∀ test ∈ expr.memberships, test.2 ≠ [] ∧ ∀ item ∈ test.2, item.isNull = false ∧
      ∀ column ∈ schema.column? test.1, ¬ Expr.IsRead column item := by
  fun_induction Expr.memberships expr with
  | case1 op operand inner => exact inner plain
  | case2 => simp
  | case3 op left right notCompare first second =>
      cases op with
      | compare op => exact absurd rfl (notCompare op)
      | _ => exact List.forall_mem_append.mpr ⟨first plain.1, second plain.2⟩
  | case4 target args items name named captured =>
      rw [List.forall_mem_singleton]
      rcases plain items captured with ⟨nonempty, solid⟩
      refine ⟨nonempty, ?_⟩
      intro item member
      refine ⟨(solid item member).1, ?_⟩
      intro column declared
      exact (solid item member).2 column (Option.bind_eq_some_iff.mpr ⟨name, named, declared⟩)
  | _ => simp

theorem mirrors_of_plain (plain : expr.Plain schema) : Mirrors (· = ·) schema lookup expr where
  comparisons := by
    intro test inside column declared
    rw [reading_eq (not_isRead_of_plain plain test inside column declared)]
  memberships := by
    intro test inside column declared
    rcases lists_of_plain plain test inside with ⟨nonempty, solid⟩
    rw [map_reading fun item member => (solid item member).2 column declared, membership,
      if_neg (by simpa using nonempty), isIn_eq_isAmong _ fun item member => (solid item member).1]

theorem StandsFor.evaluate {expr : Expr} {condition : Condition}
    (stands : StandsFor schema bindings expr condition) (plain : expr.Plain schema)
    (fits : ∀ column ∈ schema.columns,
      column.kind.Admits (lookup column.member) ∧ row column.name = lookup column.member) :
    expr.evaluate lookup = .ok (condition.truth row bindings.valueOf) := by
  rcases stands.evaluate_of_mirrors Truth.kept_eq (fun _ _ _ => congrArg Truth.not)
    (mirrors_of_plain plain) fits with ⟨truth, evaluated, rfl⟩
  exact evaluated

theorem StandsFor.truth_of_text {sigil : String} {expr : Expr} {condition : Condition}
    (stands : StandsFor schema bindings expr condition) (distinctive : Distinctive sigil)
    (grows : (Bindings.empty sigil).Grows bindings) :
    ∃ read, read? sigil condition.render = some read ∧
      read.truth row bindings.valueOf = condition.truth row bindings.valueOf := by
  have numbered := stands.uses.imp (fun _ _ => trivial) fun _ => grows.isNumbered
  exact ⟨_, read?_render distinctive numbered, condition.grouped_regroups.truth row _⟩

/-- A condition evaluated in memory, compiled to a tree and read from its text has one truth
in all three. Only the text needs a sigil that no other token can be taken for. -/
theorem evaluate_eq_truth_of_text {sigil : String} {expr : Expr} {condition : Condition}
    {after : Scratch}
    (compiled : (compile schema expr).run (.empty sigil) = (.ok condition, after))
    (plain : expr.Plain schema)
    (fits : ∀ column ∈ schema.columns,
      column.kind.Admits (lookup column.member) ∧ row column.name = lookup column.member) :
    ∃ truth, expr.evaluate lookup = .ok truth ∧
      expr.selects lookup = .ok (truth == some true) ∧
      condition.truth row after.bindings.valueOf = truth ∧
      (Distinctive sigil → ∃ read, read? sigil condition.render = some read ∧
        read.truth row after.bindings.valueOf = truth) := by
  rcases yields_compile (Compiler.run_eq_ok_iff.mp compiled) with ⟨grows, stands⟩
  have evaluated := stands.evaluate plain fits
  refine ⟨_, evaluated, ?_, rfl, ?_⟩
  · rw [Expr.selects, evaluated]
    rfl
  · intro distinctive
    have numbered := stands.uses.imp (fun _ _ => trivial) fun _ => grows.isNumbered
    have read := read?_render distinctive numbered
    exact ⟨_, read, condition.grouped_regroups.truth row after.bindings.valueOf⟩

end

def guestRow (member : String) : Value := if member = "Name" then .text "Ann 50%" else .null

def guestColumns (column : String) : Value := if column = "name" then .text "Ann 50%" else .null

def guestCondition : Condition :=
  .or (.compare "age" .greaterThan "@p0") (.not (.like "name" "@p1"))

def guestBindings : Bindings :=
  { sigil := "@", next := 2, entries := [("@p0", .int 17), ("@p1", .text "%50\\%%")] }

theorem evaluate_eq_truth_of_text_guests :
    ∃ truth read, guestFilter.evaluate guestRow = .ok truth ∧
      guestFilter.selects guestRow = .ok (truth == some true) ∧
      guestCondition.truth guestColumns guestBindings.valueOf = truth ∧
      read? "@" guestCondition.render = some read ∧
      read.truth guestColumns guestBindings.valueOf = truth := by
  have compiled : (compile guests guestFilter).run (.empty "@") =
      (.ok guestCondition, { bindings := guestBindings }) := by
    rfl
  have plain : guestFilter.Plain guests := by
    refine ⟨?_, ?_⟩
    · intro column _ value found found'
      rcases found with ⟨rfl⟩
      rcases found' with ⟨-, text, ⟨⟩⟩
    · intro items found
      rcases found with ⟨⟩
  have fits : ∀ column ∈ guests.columns, column.kind.Admits (guestRow column.member) ∧
      guestColumns column.name = guestRow column.member := by
    simp [guests, Kind.Admits, guestRow, guestColumns, Value.kind?]
  rcases evaluate_eq_truth_of_text compiled plain fits with
    ⟨truth, evaluated, selected, tree, text⟩
  rcases text distinctive_at with ⟨read, reads, same⟩
  exact ⟨truth, read, evaluated, selected, tree, reads, same⟩

end Condition

end Sql

end BoundSql
