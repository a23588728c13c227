import BoundSql.Proofs.Condition.Membership

/-!
Texts that stand for dates and identifiers. A condition binds what such a text is read as, while
in memory the text itself is compared, and a text compares with no date and no identifier. So an
expression has the truth of its condition once its texts are read, and before that its answers
are missing rather than wrong.
-/

namespace BoundSql

open Entity Sql

theorem Truth.kept_missing : Truth.Kept fun a b => a = none ∨ a = b where
  refl _ := .inr rfl
  and {a b c d} first second := by
    rcases first with first | first <;> rcases second with second | second <;>
      rw [first, second] <;>
      rcases b with - | (- | -) <;> rcases d with - | (- | -) <;> simp [Truth.and]
  or {a b c d} first second := by
    rcases first with first | first <;> rcases second with second | second <;>
      rw [first, second] <;>
      rcases b with - | (- | -) <;> rcases d with - | (- | -) <;> simp [Truth.or]

theorem Truth.missing_not {a b : Truth} (missing : a = none ∨ a = b) :
    a.not = none ∨ a.not = b.not := by
  rcases missing with rfl | rfl
  · exact .inl rfl
  · exact .inr rfl

theorem Truth.kept_only_true (given : Prop) :
    Truth.Kept fun a b => given → a = some true → b = some true where
  refl _ _ := id
  and first second holds := by
    rw [Truth.and_eq_true, Truth.and_eq_true]
    exact And.imp (first holds) (second holds)
  or first second holds := by
    rw [Truth.or_eq_true, Truth.or_eq_true]
    exact Or.imp (first holds) (second holds)

namespace Expr

/-! ## Reading constants -/

def mapConstant (change : Value → Value) : Expr → Expr
  | .unary .convert operand => .unary .convert (operand.mapConstant change)
  | .constant value => .constant (change value)
  | expr => expr

def readingFor (schema : Schema) (name : Option String) : Value → Value :=
  match name.bind schema.column? with
  | some column => Condition.reading column
  | none => id

def mapItems (change : Value → Value) : Value → Value
  | .list items => .list (items.map change)
  | value => value

/-- An expression with every text that is compared with a date or an identifier replaced by what
is bound for it. -/
def withReadings (schema : Schema) : Expr → Expr
  | .unary op operand => .unary op (operand.withReadings schema)
  | .binary (.compare op) left right =>
      .binary (.compare op) left (right.mapConstant (readingFor schema left.member?))
  | .binary op left right => .binary op (left.withReadings schema) (right.withReadings schema)
  | .call target .equals args =>
      .call target .equals (args.map (mapConstant (readingFor schema target.member?)))
  | .call target .contains args =>
      .call (target.mapConstant (mapItems (readingFor schema (args.head?.bind member?))))
        .contains args
  | expr => expr

theorem bare_mapConstant (change : Value → Value) (expr : Expr) :
    (expr.mapConstant change).bare =
      match expr.bare with
      | .constant value => .constant (change value)
      | other => other := by
  fun_induction mapConstant change expr with
  | case1 operand inner => rw [bare_convert, bare_convert, inner]
  | case2 value => rfl
  | case3 expr notConvert notConstant =>
      have same : expr.bare = expr := by rw [bare]; exact notConvert
      rw [same]
      split
      next value => exact absurd rfl (notConstant value)
      next => rfl

theorem constant?_mapConstant (change : Value → Value) (expr : Expr) :
    (expr.mapConstant change).constant? = expr.constant?.map change := by
  rw [constant?, constant?, bare_mapConstant]
  cases expr.bare <;> rfl

theorem member?_mapConstant (change : Value → Value) (expr : Expr) :
    (expr.mapConstant change).member? = expr.member? := by
  rw [member?, member?, bare_mapConstant]
  cases expr.bare <;> rfl

theorem head?_mapConstant (change : Value → Value) (args : List Expr) :
    (args.map (mapConstant change)).head?.bind constant? =
      (args.head?.bind constant?).map change := by
  cases args with
  | nil => rfl
  | cons arg args => exact constant?_mapConstant change arg

theorem readingFor_some {schema : Schema} {name : String} {column : Column}
    (declared : schema.column? name = some column) :
    readingFor schema (some name) = Condition.reading column := by
  have found : (some name).bind schema.column? = some column := declared
  rw [readingFor, found]

theorem tests_eq_nil {expr : Expr} (notUnary : ∀ op operand, expr ≠ .unary op operand)
    (notBinary : ∀ op left right, expr ≠ .binary op left right)
    (notEquals : ∀ target args, expr ≠ .call target .equals args)
    (notContains : ∀ target args, expr ≠ .call target .contains args) :
    expr.comparisons = [] ∧ expr.memberships = [] := by
  cases expr with
  | unary op operand => exact absurd rfl (notUnary op operand)
  | binary op left right => exact absurd rfl (notBinary op left right)
  | call target method args =>
      cases method with
      | equals => exact absurd rfl (notEquals target args)
      | contains => exact absurd rfl (notContains target args)
      | _ => exact ⟨rfl, rfl⟩
  | _ => exact ⟨rfl, rfl⟩

theorem comparisons_withReadings (schema : Schema) (expr : Expr) :
    ∀ test ∈ (expr.withReadings schema).comparisons,
      ∃ value, test.2.2 = readingFor schema (some test.2.1) value := by
  fun_induction withReadings schema expr with
  | case1 op operand inner => exact inner
  | case2 op left right =>
      rintro ⟨op', name, value⟩ inside
      rcases comparison?_eq_some_iff.mp (Option.mem_toList.mp inside) with
        ⟨left', right', ⟨⟩, named, captured⟩ | ⟨target, args, ⟨⟩, _⟩
      rw [constant?_mapConstant, named] at captured
      rcases Option.map_eq_some_iff.mp captured with ⟨original, _, equal⟩
      exact ⟨original, equal.symm⟩
  | case3 op left right notCompare first second =>
      cases op with
      | compare op => exact absurd rfl (notCompare op)
      | _ => exact List.forall_mem_append.mpr ⟨first, second⟩
  | case4 target args =>
      rintro ⟨op', name, value⟩ inside
      rcases comparison?_eq_some_iff.mp (Option.mem_toList.mp inside) with
        ⟨left, right, ⟨⟩, _⟩ | ⟨target', args', ⟨⟩, _, named, captured⟩
      rw [head?_mapConstant, named] at captured
      rcases Option.map_eq_some_iff.mp captured with ⟨original, _, equal⟩
      exact ⟨original, equal.symm⟩
  | case5 => simp [comparisons]
  | case6 expr notUnary _ notBinary notEquals notContains =>
      simp [(tests_eq_nil notUnary notBinary notEquals notContains).1]

theorem memberships_withReadings (schema : Schema) (expr : Expr) :
    ∀ test ∈ (expr.withReadings schema).memberships,
      ∃ items, test.2 = List.map (readingFor schema (some test.1)) items := by
  fun_induction withReadings schema expr with
  | case1 op operand inner => exact inner
  | case3 op left right notCompare first second =>
      cases op with
      | compare op => exact absurd rfl (notCompare op)
      | _ => exact List.forall_mem_append.mpr ⟨first, second⟩
  | case5 target args =>
      rintro ⟨name, items⟩ inside
      rw [memberships] at inside
      split at inside
      next items' name' captured named =>
          rcases List.mem_singleton.mp inside with ⟨rfl, rfl⟩
          rw [constant?_mapConstant, named] at captured
          rcases Option.map_eq_some_iff.mp captured with ⟨original, _, equal⟩
          cases original with
          | list originals => exact ⟨originals, (Value.list.inj equal).symm⟩
          | _ => contradiction
      next => contradiction
  | case6 expr notUnary _ notBinary notEquals notContains =>
      simp [(tests_eq_nil notUnary notBinary notEquals notContains).2]
  | _ => simp [memberships]

end Expr

namespace Sql.Condition

open BoundSql.Expr

/-! ## What is read stays read -/

section

variable {column : Column} {value stored : Value}

theorem boundValue_of_boundValue (read : boundValue column value = .ok stored) :
    boundValue column stored = .ok stored := by
  by_cases isRead : IsRead column value
  · have kind := kind?_of_boundValue isRead read
    cases stored with
    | list items => contradiction
    | text text =>
        have same : Kind.text = column.kind := Option.some.inj kind
        rcases isRead.1 with equal | equal <;> rw [equal] at same <;> contradiction
    | _ => simp [boundValue]
  · rw [← boundValue_eq isRead read] at read
    exact read

theorem reading_reading (column : Column) (value : Value) :
    reading column (reading column value) = reading column value := by
  cases read : boundValue column value with
  | error e =>
      have same : reading column value = value := by rw [reading, read]; rfl
      rw [same, same]
  | ok stored =>
      rw [reading_of_boundValue read, reading_of_boundValue (boundValue_of_boundValue read)]

theorem map_reading_reading (column : Column) (items : List Value) :
    (items.map (reading column)).map (reading column) = items.map (reading column) := by
  rw [List.map_map]
  exact List.map_congr_left fun item _ => reading_reading column item

end

/-! ## Read expressions -/

section

variable {schema : Schema} {bindings : Bindings} {lookup row : String → Value}

theorem Mirrors.withReadings {related : Truth → Truth → Prop} (refl : ∀ a, related a a)
    {expr : Expr}
    (lists : ∀ test ∈ (expr.withReadings schema).memberships,
      related (isAmong (lookup test.1) test.2) (membership (lookup test.1) test.2)) :
    Mirrors related schema lookup (expr.withReadings schema) where
  comparisons := by
    intro test inside column declared
    rcases comparisons_withReadings schema expr test inside with ⟨value, equal⟩
    rw [equal, readingFor_some declared, reading_reading]
    exact refl _
  memberships := by
    intro test inside column declared
    rcases memberships_withReadings schema expr test inside with ⟨items, equal⟩
    have holds := lists test inside
    rw [equal, readingFor_some declared] at holds ⊢
    rw [map_reading_reading]
    exact holds

theorem Tests.withReading {column : Column} {op : Comparison} {value : Value}
    {condition : Condition} (tests : Tests bindings column op value condition) :
    Tests bindings column op (reading column value) condition := by
  cases tests with
  | value solid read holds =>
      rw [reading_of_boundValue read]
      exact .value (isNull_of_boundValue solid read) (boundValue_of_boundValue read) holds
  | isNull holds =>
      rw [reading_null]
      exact .isNull holds
  | isNotNull holds =>
      rw [reading_null]
      exact .isNotNull holds

theorem bound_readings {column : Column} {items : List Value} {names : List String}
    (held : List.Forall₂ (fun item name => ∃ stored,
      boundValue column item = .ok stored ∧ bindings.Holds name stored) items names) :
    List.Forall₂ (fun item name => ∃ stored,
      boundValue column item = .ok stored ∧ bindings.Holds name stored)
      (items.map (reading column)) names := by
  apply List.forall₂_map_left_iff.mpr
  apply held.imp
  intro item name found
  rcases found with ⟨stored, read, holds⟩
  rw [reading_of_boundValue read]
  exact ⟨stored, boundValue_of_boundValue read, holds⟩

theorem StandsFor.withReadings {expr : Expr} {condition : Condition}
    (stands : StandsFor schema bindings expr condition) :
    StandsFor schema bindings (expr.withReadings schema) condition := by
  induction stands with
  | convert _ inner => exact .convert inner
  | and _ _ first second => exact .and first second
  | or _ _ first second => exact .or first second
  | not _ inner => exact .not inner
  | comparison named declared captured tests =>
      refine .comparison named declared ?_ tests.withReading
      rw [constant?_mapConstant, captured, named, readingFor_some declared]
      rfl
  | equals named declared captured tests =>
      refine .equals named declared ?_ tests.withReading
      rw [constant?_mapConstant, captured, named, readingFor_some declared]
      rfl
  | like named declared captured textual holds =>
      cases ‹Method› with
      | equals => contradiction
      | contains =>
          refine .like ?_ declared captured textual holds
          rw [member?_mapConstant, named]
      | _ => exact .like named declared captured textual holds
  | among captured nonempty named declared held =>
      refine .among ?_ ?_ named declared (bound_readings held)
      · rw [constant?_mapConstant, captured, named, readingFor_some declared]
        rfl
      · simpa using nonempty
  | nowhere captured named declared =>
      refine .nowhere ?_ named declared
      rw [constant?_mapConstant, captured]
      rfl
  | member declared truth holds => exact .member declared truth holds
  | constant truth => exact .constant truth

end

/-! ## Unread texts -/

section

variable {column : Column} {value held : Value} (admits : column.kind.Admits held)

include admits

theorem compare?_of_isRead (isRead : IsRead column value) : held.compare? value = none := by
  rcases isRead with ⟨kind, text, rfl⟩
  cases held with
  | text other =>
      rcases admits with null | same | ⟨bool, _⟩
      · contradiction
      · have textual : Kind.text = column.kind := Option.some.inj same
        rcases kind with equal | equal <;> rw [equal] at textual <;> contradiction
      · rcases kind with equal | equal <;> rw [equal] at bool <;> contradiction
  | _ => rfl

theorem compareValues_of_isRead (isRead : IsRead column value) (op : Comparison) :
    compareValues op held value = none := by
  have incomparable := compare?_of_isRead admits isRead
  rcases isRead with ⟨_, text, rfl⟩
  simp [compareValues, Value.isNull, incomparable]

theorem compareValues_reading_eq_none_iff (isRead : IsRead column value) {stored : Value}
    (read : boundValue column value = .ok stored) (op : Comparison) :
    compareValues op held (reading column value) = none ↔ held = .null := by
  have kind := kind?_of_boundValue isRead read
  rw [reading_of_boundValue read]
  rcases admits with null | same | ⟨bool, _⟩
  · subst null
    cases stored <;> simp_all [compareValues, Value.isNull, Value.compare?, Value.kind?]
  · rcases isRead.1 with equal | equal <;> rw [equal] at same kind <;>
      cases held <;> cases stored <;>
        simp_all [compareValues, Value.isNull, Value.compare?, Value.kind?]
  · rcases isRead.1 with equal | equal <;> rw [equal] at bool <;> contradiction

theorem isAmong_readings {items : List Value} (found : isAmong held items = some true) :
    isAmong held (items.map (reading column)) = some true := by
  cases null : held.isNull with
  | true => simp [isAmong, null] at found
  | false =>
      simp only [isAmong, null, Bool.false_eq_true, if_false, Option.some.injEq,
        List.any_eq_true, beq_iff_eq] at found ⊢
      rcases found with ⟨item, inside, equal⟩
      have notRead : ¬ IsRead column item := by
        intro isRead
        rw [compare?_of_isRead admits isRead] at equal
        contradiction
      refine ⟨item, ?_, equal⟩
      rw [← reading_eq notRead]
      exact List.mem_map_of_mem inside

end

/-! ## Unread expressions -/

section

variable {schema : Schema} {bindings : Bindings} {lookup row : String → Value} {expr : Expr}

theorem StandsFor.tests {condition : Condition} {op : Comparison} {name : String} {value : Value}
    {column : Column} (stands : StandsFor schema bindings expr condition)
    (compares : expr.comparison? = some (op, name, value))
    (declared : schema.column? name = some column) : Tests bindings column op value condition := by
  rcases comparison?_eq_some_iff.mp compares with
    ⟨left, right, rfl, named, captured⟩ | ⟨target, args, rfl, rfl, named, captured⟩
  · cases stands with
    | comparison named' declared' captured' tests =>
        rcases Option.some.inj (named.symm.trans named') with rfl
        rcases Option.some.inj (captured.symm.trans captured') with rfl
        rcases Option.some.inj (declared.symm.trans declared') with rfl
        exact tests
  · cases stands with
    | equals named' declared' captured' tests =>
        rcases Option.some.inj (named.symm.trans named') with rfl
        rcases Option.some.inj (captured.symm.trans captured') with rfl
        rcases Option.some.inj (declared.symm.trans declared') with rfl
        exact tests
    | like _ _ _ textual _ => contradiction

/-- A relation between what is missing and anything is not broken by unread texts outside of
lists. -/
theorem Mirrors.of_missing {related : Truth → Truth → Prop} (refl : ∀ a, related a a)
    (missing : ∀ a, related none a)
    (admits : ∀ column ∈ schema.columns, column.kind.Admits (lookup column.member))
    (lists : ∀ test ∈ expr.memberships, ∀ column ∈ schema.column? test.1,
      related (isAmong (lookup test.1) test.2)
        (membership (lookup test.1) (test.2.map (reading column)))) :
    Mirrors related schema lookup expr where
  comparisons := by
    rintro ⟨op, name, value⟩ _ column declared
    have fits := admits column (List.mem_of_find?_eq_some declared)
    rw [member_of_column? declared] at fits
    by_cases isRead : IsRead column value
    · rw [compareValues_of_isRead fits isRead]
      exact missing _
    · rw [reading_eq isRead]
      exact refl _
  memberships := lists

/-- An expression whose lists settle their tests and have no unread text in them. -/
def ListsRead (schema : Schema) (lookup : String → Value) (expr : Expr) : Prop :=
  ∀ test ∈ expr.memberships, Settles (lookup test.1) test.2 ∧
    ∀ column ∈ schema.column? test.1, ∀ item ∈ test.2, ¬ IsRead column item

/-- Once its texts are read, an expression has the truth of its condition. Before that, its truth
is missing or the same, unless a list has such a text, and without negation it selects no row that
its condition does not select. A single comparison with such a text is unknown in memory, and in a
database only for null. -/
theorem evaluate_withReadings_eq_truth {sigil : String} {condition : Condition} {after : Scratch}
    (compiled : (compile schema expr).run (.empty sigil) = (.ok condition, after))
    (fits : ∀ column ∈ schema.columns,
      column.kind.Admits (lookup column.member) ∧ row column.name = lookup column.member) :
    ∃ unread inDatabase, expr.evaluate lookup = .ok unread ∧
      condition.truth row after.bindings.valueOf = inDatabase ∧
      ((expr.withReadings schema).Settled lookup →
        (expr.withReadings schema).evaluate lookup = .ok inDatabase) ∧
      (ListsRead schema lookup expr → unread = none ∨ unread = inDatabase) ∧
      (expr.negates = false → unread = some true → inDatabase = some true) ∧
      (∀ op name value column, expr.comparison? = some (op, name, value) →
        schema.column? name = some column → IsRead column value →
          unread = none ∧ (inDatabase = none ↔ lookup name = .null)) ∧
      (Distinctive sigil → ∃ read, read? sigil condition.render = some read ∧
        read.truth row after.bindings.valueOf = inDatabase) := by
  rcases yields_compile (Compiler.run_eq_ok_iff.mp compiled) with ⟨grows, stands⟩
  have admits : ∀ column ∈ schema.columns, column.kind.Admits (lookup column.member) :=
    fun column inside => (fits column inside).1
  have here {name : String} {column : Column} (declared : schema.column? name = some column) :
      column.kind.Admits (lookup name) := by
    rw [← member_of_column? declared]
    exact admits column (List.mem_of_find?_eq_some declared)
  have selected : Mirrors (fun a b => expr.negates = false → a = some true → b = some true)
      schema lookup expr := by
    apply Mirrors.of_missing (fun _ _ => id) (fun _ _ => by simp) admits
    intro test _ column declared _ found
    exact (isAmong_eq_true_iff _ _).mp (isAmong_readings (here declared) found)
  rcases stands.evaluate_of_mirrors (Truth.kept_only_true _)
    (fun negates _ _ _ free => by simp [negates] at free) selected fits with
    ⟨unread, evaluated, sameRows⟩
  refine ⟨unread, _, evaluated, rfl, ?_, ?_, sameRows, ?_, ?_⟩
  · intro settled
    have mirrors := Mirrors.withReadings (fun _ => rfl) fun test inside =>
      (isAmong_eq_membership_iff _ _).mpr (settled test inside)
    rcases stands.withReadings.evaluate_of_mirrors Truth.kept_eq (fun _ _ _ => congrArg Truth.not)
      mirrors fits with ⟨truth, evaluated', equal⟩
    rw [evaluated', equal]
  · intro lists
    have mirrors : Mirrors (fun a b => a = none ∨ a = b) schema lookup expr := by
      apply Mirrors.of_missing (fun _ => .inr rfl) (fun _ => .inl rfl) admits
      intro test inside column declared
      rcases lists test inside with ⟨settles, plain⟩
      rw [map_reading (plain column declared), (isAmong_eq_membership_iff _ _).mpr settles]
      exact .inr rfl
    rcases stands.evaluate_of_mirrors Truth.kept_missing (fun _ _ _ => Truth.missing_not) mirrors
      fits with ⟨truth, evaluated', missing⟩
    rcases Except.ok.inj (evaluated.symm.trans evaluated') with rfl
    exact missing
  · intro op name value column compares declared isRead
    have memory : expr.evaluate lookup = _ := evaluate_of_comparison compares
    rw [compareValues_of_isRead (here declared) isRead] at memory
    have tests := stands.tests compares declared
    rw [tests.truth, (fits column (List.mem_of_find?_eq_some declared)).2,
      member_of_column? declared]
    refine ⟨Except.ok.inj (evaluated.symm.trans memory), ?_⟩
    cases tests with
    | value _ read _ => exact compareValues_reading_eq_none_iff (here declared) isRead read op
    | isNull _ => exact absurd isRead (not_isRead_null column)
    | isNotNull _ => exact absurd isRead (not_isRead_null column)
  · intro distinctive
    exact stands.truth_of_text distinctive grows

end

def visits : Schema where
  entity := "Visit"
  defaultTable := "visit"
  otherTables := []
  columns :=
    [{ member := "Id", name := "id", kind := .int, isIdentity := true, isKey := true
       isComputed := false, isWritable := true },
     { member := "At", name := "at", kind := .dateTime, isIdentity := false, isKey := false
       isComputed := false, isWritable := true }]

def opening : DateTime :=
  ⟨{ year := 2024, month := 3, day := 1, hour := 8, minute := 30 }, by decide, by decide⟩

def visitsAtOpening : Expr :=
  .binary (.compare .equal) (.member "At") (.constant (.text "2024-03-01 08:30:00"))

def openingVisit (member : String) : Value := if member = "At" then .dateTime opening else .null

def openingColumns (column : String) : Value :=
  if column = "at" then .dateTime opening else .null

def openingBindings : Bindings :=
  { sigil := "@", next := 1, entries := [("@p0", .dateTime opening)] }

theorem compile_visitsAtOpening :
    (compile visits visitsAtOpening).run (.empty "@") =
      (.ok (.compare "at" .equal "@p0"), { bindings := openingBindings }) := by
  rfl

theorem evaluate_withReadings_eq_truth_visits :
    visitsAtOpening.evaluate openingVisit = .ok none ∧
      (visitsAtOpening.withReadings visits).evaluate openingVisit = .ok (some true) ∧
      (Condition.compare "at" .equal "@p0").truth openingColumns openingBindings.valueOf =
        some true := by
  have fits : ∀ column ∈ visits.columns, column.kind.Admits (openingVisit column.member) ∧
      openingColumns column.name = openingVisit column.member := by
    simp [visits, Kind.Admits, openingVisit, openingColumns, Value.kind?]
  have settled : (visitsAtOpening.withReadings visits).Settled openingVisit := by
    intro test inside
    contradiction
  have database : (Condition.compare "at" .equal "@p0").truth openingColumns
      openingBindings.valueOf = some true := by
    decide
  rcases evaluate_withReadings_eq_truth compile_visitsAtOpening fits with
    ⟨unread, inDatabase, evaluated, truth, reread, _, _, single, _⟩
  have missing := (single .equal "At" (.text "2024-03-01 08:30:00") _ rfl rfl
    ⟨.inl rfl, _, rfl⟩).1
  subst missing
  rcases truth.symm.trans database with rfl
  exact ⟨evaluated, reread settled, database⟩

/-- A visit at the opening is not found in memory if the date is given as a text. -/
theorem selects_ne_truth_of_unread :
    (compile visits visitsAtOpening).run (.empty "@") =
        (.ok (.compare "at" .equal "@p0"), { bindings := openingBindings }) ∧
      (Condition.compare "at" .equal "@p0").truth openingColumns openingBindings.valueOf =
        some true ∧
      visitsAtOpening.evaluate openingVisit = .ok none ∧
      visitsAtOpening.selects openingVisit = .ok false :=
  ⟨compile_visitsAtOpening, by decide, rfl, rfl⟩

end Sql.Condition

end BoundSql
