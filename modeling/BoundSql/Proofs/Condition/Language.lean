import BoundSql.Proofs.Condition.Truth

/-!
The language of conditions. `Condition.Accepts` lists the shapes that an expression may have to
stand for a condition, and `Condition.Refuses` the error of every other one, which is that of its
first fault: operands come from left to right, and the parts of a test in the order in which they
are looked at.
-/

namespace BoundSql.Sql

open Entity

namespace Condition

variable {schema : Schema} {column : Column}

/-! ## Values -/

/-- A value that can be bound for a column: no list, and a text only if it is a date or an
identifier where the column stores these. -/
structure Fits (column : Column) (value : Value) : Prop where
  single : ∀ items, value ≠ .list items
  readable : Expr.IsRead column value → ∃ stored, Value.stored? column.kind value = some stored

inductive Misfit (column : Column) : Value → CompileError → Prop
  | list (items) :
      Misfit column (.list items)
        (unsupported ("list value compared with \x60" ++ column.name ++ "\x60"))
  | unread {value} (isRead : Expr.IsRead column value)
      (unread : Value.stored? column.kind value = none) :
      Misfit column value (.coercion column.member (.mismatch column.kind value))

theorem boundValue_of_isRead {value : Value} (isRead : Expr.IsRead column value) :
    boundValue column value = coerceFor column value := by
  rcases isRead with ⟨kind | kind, text, rfl⟩
  · simp [boundValue, kind]
  · simp [boundValue, kind]

theorem boundValue_list (items : List Value) :
    boundValue column (.list items) =
      .error (unsupported ("list value compared with \x60" ++ column.name ++ "\x60")) := by
  cases kind : column.kind <;> simp [boundValue, kind]

theorem boundValue_of_single {value : Value} (single : ∀ items, value ≠ .list items)
    (plain : ¬ Expr.IsRead column value) : boundValue column value = .ok value := by
  unfold boundValue
  split
  next text kind => exact absurd ⟨.inl kind, text, rfl⟩ plain
  next text kind => exact absurd ⟨.inr kind, text, rfl⟩ plain
  next => exact absurd rfl (single _)
  next => rfl

theorem exists_boundValue_iff (column : Column) (value : Value) :
    (∃ stored, boundValue column value = .ok stored) ↔ Fits column value := by
  by_cases isRead : Expr.IsRead column value
  · rw [boundValue_of_isRead isRead]
    simp only [coerceFor_eq_ok_iff]
    have single (items : List Value) : value ≠ .list items := by
      rcases isRead.2 with ⟨text, rfl⟩
      nofun
    exact ⟨fun stored => ⟨single, fun _ => stored⟩, fun fits => fits.readable isRead⟩
  · constructor
    · rintro ⟨stored, bound⟩
      refine ⟨?_, fun read => absurd read isRead⟩
      rintro items rfl
      rw [boundValue_list] at bound
      contradiction
    · exact fun fits => ⟨value, boundValue_of_single fits.single isRead⟩

theorem boundValue_eq_error_iff {value : Value} {error : CompileError} :
    boundValue column value = .error error ↔ Misfit column value error := by
  constructor
  · intro failed
    by_cases isRead : Expr.IsRead column value
    · rw [boundValue_of_isRead isRead] at failed
      unfold coerceFor Value.coerce at failed
      cases stored : Value.stored? column.kind value with
      | none =>
          rw [stored] at failed
          cases failed
          exact .unread isRead stored
      | some stored' =>
          rw [stored] at failed
          contradiction
    · by_cases single : ∀ items, value ≠ .list items
      · rw [boundValue_of_single single isRead] at failed
        contradiction
      · push Not at single
        rcases single with ⟨items, rfl⟩
        rw [boundValue_list] at failed
        cases failed
        exact .list items
  · intro misfit
    cases misfit with
    | list items => exact boundValue_list items
    | unread isRead unread =>
        rw [boundValue_of_isRead isRead]
        unfold coerceFor Value.coerce
        rw [unread]

/-- A value that a column can be compared with. Null is the same or not, but not more or less. -/
structure Comparable (column : Column) (op : Comparison) (value : Value) : Prop where
  fits : Fits column value
  null : value = .null → op = .equal ∨ op = .notEqual

inductive Incomparable (column : Column) (op : Comparison) : Value → CompileError → Prop
  | null (unequal : op ≠ .equal) (unequal' : op ≠ .notEqual) :
      Incomparable column op .null (.nullComparison column.name op.symbol)
  | misfit {value error} (misfit : Misfit column value error) :
      Incomparable column op value error

theorem comparable_null_iff {op : Comparison} :
    Comparable column op .null ↔ op = .equal ∨ op = .notEqual :=
  ⟨fun comparable => comparable.null rfl, fun same =>
    ⟨⟨nofun, fun read => absurd read (not_isRead_null column)⟩, fun _ => same⟩⟩

theorem incomparable_null_iff {op : Comparison} {error : CompileError} :
    Incomparable column op .null error ↔
      op ≠ .equal ∧ op ≠ .notEqual ∧ error = .nullComparison column.name op.symbol := by
  constructor
  · intro incomparable
    cases incomparable with
    | null unequal unequal' => exact ⟨unequal, unequal', rfl⟩
    | misfit misfit =>
        cases misfit with
        | unread isRead => exact absurd isRead (not_isRead_null column)
  · rintro ⟨unequal, unequal', rfl⟩
    exact .null unequal unequal'

theorem comparable_iff_fits {op : Comparison} {value : Value} (solid : value ≠ .null) :
    Comparable column op value ↔ Fits column value :=
  ⟨Comparable.fits, fun fits => ⟨fits, fun null => absurd null solid⟩⟩

theorem incomparable_iff_misfit {op : Comparison} {value : Value} {error : CompileError}
    (solid : value ≠ .null) :
    Incomparable column op value error ↔ Misfit column value error := by
  constructor
  · intro incomparable
    cases incomparable with
    | null => exact absurd rfl solid
    | misfit misfit => exact misfit
  · exact .misfit

/-! ## Tests -/

inductive ComparisonFault (schema : Schema) (op : Comparison) (left right : Expr) :
    CompileError → Prop
  | unnamed (unnamed : left.member? = none) :
      ComparisonFault schema op left right (.nonMemberOperand left.shape)
  | undeclared {member} (named : left.member? = some member)
      (undeclared : schema.column? member = none) :
      ComparisonFault schema op left right (.unknownMember schema.entity member)
  | uncaptured {member column} (named : left.member? = some member)
      (declared : schema.column? member = some column) (uncaptured : right.constant? = none) :
      ComparisonFault schema op left right
        (unsupported ("right side of " ++ op.word ++ " must be a value, found " ++ right.shape))
  | incomparable {member column value error} (named : left.member? = some member)
      (declared : schema.column? member = some column)
      (captured : right.constant? = some value)
      (incomparable : Incomparable column op value error) :
      ComparisonFault schema op left right error

inductive MembershipFault (schema : Schema) (target : Value) (args : List Expr) :
    CompileError → Prop
  | single (single : ∀ items, target ≠ .list items) :
      MembershipFault schema target args
        (unsupported ("Contains() on a " ++ target.typeName ++ " value"))
  | unnamed {items} (isList : target = .list items)
      (unnamed : args.head?.bind Expr.member? = none) :
      MembershipFault schema target args
        (unsupported "list Contains() must test a member of the entity")
  | undeclared {items member} (isList : target = .list items)
      (named : args.head?.bind Expr.member? = some member)
      (undeclared : schema.column? member = none) :
      MembershipFault schema target args (.unknownMember schema.entity member)
  | misfit {member column before item after error}
      (isList : target = .list (before ++ item :: after))
      (named : args.head?.bind Expr.member? = some member)
      (declared : schema.column? member = some column)
      (fit : ∀ item ∈ before, Fits column item) (misfit : Misfit column item error) :
      MembershipFault schema target args error

inductive MethodFault (schema : Schema) (target : Expr) (method : Method) (args : List Expr) :
    CompileError → Prop
  | unnamed (unnamed : target.member? = none) :
      MethodFault schema target method args (.nonMemberOperand target.shape)
  | crowded {member} (named : target.member? = some member) (crowded : args.length ≠ 1) :
      MethodFault schema target method args
        (unsupported (method.word ++ "() takes one argument, got " ++
          SchemaError.number args.length))
  | uncaptured {member arg} (named : target.member? = some member) (only : args = [arg])
      (uncaptured : arg.constant? = none) :
      MethodFault schema target method args
        (unsupported ("argument of " ++ method.word ++ "() must be a value, found " ++ arg.shape))
  | undeclared {member arg value} (named : target.member? = some member) (only : args = [arg])
      (captured : arg.constant? = some value) (undeclared : schema.column? member = none) :
      MethodFault schema target method args (.unknownMember schema.entity member)
  | incomparable {member arg value column error} (named : target.member? = some member)
      (only : args = [arg]) (captured : arg.constant? = some value)
      (declared : schema.column? member = some column) (equals : method = .equals)
      (incomparable : Incomparable column .equal value error) :
      MethodFault schema target method args error
  | textless {member arg value column} (named : target.member? = some member)
      (only : args = [arg]) (captured : arg.constant? = some value)
      (declared : schema.column? member = some column) (textual : method ≠ .equals)
      (textless : ∀ text, value ≠ .text text) :
      MethodFault schema target method args
        (unsupported (method.word ++ "() needs a text argument, found " ++ value.typeName))

/-! ## Conditions -/

inductive Accepts (schema : Schema) : Expr → Prop
  | convert {operand} (accepted : Accepts schema operand) :
      Accepts schema (.unary .convert operand)
  | connective {op left right} (connects : op = .and ∨ op = .or)
      (accepted : Accepts schema left) (accepted' : Accepts schema right) :
      Accepts schema (.binary op left right)
  | not {operand} (accepted : Accepts schema operand) : Accepts schema (.unary .not operand)
  | comparison {op left right member column value} (named : left.member? = some member)
      (declared : schema.column? member = some column) (captured : right.constant? = some value)
      (comparable : Comparable column op value) : Accepts schema (.binary (.compare op) left right)
  | equals {target arg member column value} (named : target.member? = some member)
      (declared : schema.column? member = some column) (captured : arg.constant? = some value)
      (comparable : Comparable column .equal value) :
      Accepts schema (.call target .equals [arg])
  | textual {target method arg member column text} (textual : method ≠ .equals)
      (named : target.member? = some member) (declared : schema.column? member = some column)
      (captured : arg.constant? = some (.text text)) :
      Accepts schema (.call target method [arg])
  | membership {target arg rest items member column}
      (captured : target.constant? = some (.list items)) (named : arg.member? = some member)
      (declared : schema.column? member = some column) (fit : ∀ item ∈ items, Fits column item) :
      Accepts schema (.call target .contains (arg :: rest))
  | member {name column} (declared : schema.column? name = some column)
      (bool : column.kind = .bool) : Accepts schema (.member name)
  | constant (truth) : Accepts schema (.constant (.bool truth))

/-- The error with which an expression is refused. A connective passes on what its left operand
is refused with, and only looks at the right one if the left one is accepted. -/
inductive Refuses (schema : Schema) : Expr → CompileError → Prop
  | convert {operand error} (refused : Refuses schema operand error) :
      Refuses schema (.unary .convert operand) error
  | left {op left right error} (connects : op = .and ∨ op = .or)
      (refused : Refuses schema left error) : Refuses schema (.binary op left right) error
  | right {op left right error} (connects : op = .and ∨ op = .or)
      (accepted : Accepts schema left) (refused : Refuses schema right error) :
      Refuses schema (.binary op left right) error
  | not {operand error} (refused : Refuses schema operand error) :
      Refuses schema (.unary .not operand) error
  | comparison {op left right error} (fault : ComparisonFault schema op left right error) :
      Refuses schema (.binary (.compare op) left right) error
  | arithmetic {op left right} :
      Refuses schema (.binary (.compute op) left right)
        (unsupported ("arithmetic " ++ op.word ++ " is not a condition"))
  | membership {target args value error} (captured : target.constant? = some value)
      (fault : MembershipFault schema value args error) :
      Refuses schema (.call target .contains args) error
  | method {target method args error}
      (onMember : method = .contains → target.constant? = none)
      (fault : MethodFault schema target method args error) :
      Refuses schema (.call target method args) error
  | undeclared {name} (undeclared : schema.column? name = none) :
      Refuses schema (.member name) (.unknownMember schema.entity name)
  | member {name column} (declared : schema.column? name = some column)
      (valued : column.kind ≠ .bool) :
      Refuses schema (.member name)
        (unsupported (column.kind.name ++ " member \x60" ++ name ++ "\x60 used as a condition"))
  | constant {value} (valued : ∀ truth, value ≠ .bool truth) :
      Refuses schema (.constant value) (unsupported (Expr.constant value).shape)
  | assign (bindings) :
      Refuses schema (.assign bindings) (unsupported (Expr.assign bindings).shape)
  | fields (items) : Refuses schema (.fields items) (unsupported (Expr.fields items).shape)

/-! ## Shape by shape -/

variable {left right operand target : Expr} {args : List Expr} {error : CompileError}

theorem accepts_convert_iff : Accepts schema (.unary .convert operand) ↔ Accepts schema operand :=
  ⟨fun | .convert accepted => accepted, .convert⟩

theorem refuses_convert_iff :
    Refuses schema (.unary .convert operand) error ↔ Refuses schema operand error :=
  ⟨fun | .convert refused => refused, .convert⟩

theorem accepts_not_iff : Accepts schema (.unary .not operand) ↔ Accepts schema operand :=
  ⟨fun | .not accepted => accepted, .not⟩

theorem refuses_not_iff :
    Refuses schema (.unary .not operand) error ↔ Refuses schema operand error :=
  ⟨fun | .not refused => refused, .not⟩

theorem accepts_connective_iff {op : BinaryOp} (connects : op = .and ∨ op = .or) :
    Accepts schema (.binary op left right) ↔ Accepts schema left ∧ Accepts schema right := by
  constructor
  · intro accepted
    cases accepted with
    | connective _ accepted accepted' => exact ⟨accepted, accepted'⟩
    | comparison => simp at connects
  · rintro ⟨accepted, accepted'⟩
    exact .connective connects accepted accepted'

theorem refuses_connective_iff {op : BinaryOp} (connects : op = .and ∨ op = .or) :
    Refuses schema (.binary op left right) error ↔
      Refuses schema left error ∨ Accepts schema left ∧ Refuses schema right error := by
  constructor
  · intro refused
    cases refused with
    | left _ refused => exact .inl refused
    | right _ accepted refused => exact .inr ⟨accepted, refused⟩
    | comparison => simp at connects
    | arithmetic => simp at connects
  · rintro (refused | ⟨accepted, refused⟩)
    · exact .left connects refused
    · exact .right connects accepted refused

theorem accepts_membership_iff {value : Value} (captured : target.constant? = some value) :
    Accepts schema (.call target .contains args) ↔
      ∃ items member column, value = .list items ∧
        args.head?.bind Expr.member? = some member ∧ schema.column? member = some column ∧
          ∀ item ∈ items, Fits column item := by
  constructor
  · intro accepted
    cases accepted with
    | textual _ named =>
        rw [Expr.constant?_of_member? named] at captured
        contradiction
    | membership captured' named declared fit =>
        rw [captured'] at captured
        exact ⟨_, _, _, (Option.some.inj captured).symm, named, declared, fit⟩
  · rintro ⟨items, member, column, rfl, named, declared, fit⟩
    cases args with
    | nil => contradiction
    | cons arg rest => exact .membership captured named declared fit

theorem refuses_membership_iff {value : Value} (captured : target.constant? = some value) :
    Refuses schema (.call target .contains args) error ↔
      MembershipFault schema value args error := by
  constructor
  · intro refused
    cases refused with
    | membership captured' fault =>
        rw [captured'] at captured
        exact Option.some.inj captured ▸ fault
    | method onMember =>
        rw [onMember rfl] at captured
        contradiction
  · exact .membership captured

theorem accepts_method_iff {method : Method}
    (onMember : method = .contains → target.constant? = none) :
    Accepts schema (.call target method args) ↔
      ∃ member arg value column, target.member? = some member ∧ args = [arg] ∧
        arg.constant? = some value ∧ schema.column? member = some column ∧
          ((method = .equals ∧ Comparable column .equal value) ∨
            (method ≠ .equals ∧ ∃ text, value = .text text)) := by
  constructor
  · intro accepted
    cases accepted with
    | equals named declared captured comparable =>
        exact ⟨_, _, _, _, named, rfl, captured, declared, .inl ⟨rfl, comparable⟩⟩
    | textual textual named declared captured =>
        exact ⟨_, _, _, _, named, rfl, captured, declared, .inr ⟨textual, _, rfl⟩⟩
    | membership captured =>
        rw [onMember rfl] at captured
        contradiction
  · rintro ⟨member, arg, value, column, named, rfl, captured, declared, ⟨rfl, comparable⟩ |
      ⟨textual, text, rfl⟩⟩
    · exact .equals named declared captured comparable
    · exact .textual textual named declared captured

theorem refuses_method_iff {method : Method}
    (onMember : method = .contains → target.constant? = none) :
    Refuses schema (.call target method args) error ↔
      MethodFault schema target method args error := by
  constructor
  · intro refused
    cases refused with
    | membership captured =>
        rw [onMember rfl] at captured
        contradiction
    | method _ fault => exact fault
  · exact .method onMember

theorem accepts_comparison_iff {op : Comparison} :
    Accepts schema (.binary (.compare op) left right) ↔
      ∃ member column value, left.member? = some member ∧
        schema.column? member = some column ∧ right.constant? = some value ∧
          Comparable column op value := by
  constructor
  · intro accepted
    cases accepted with
    | connective connects => simp at connects
    | comparison named declared captured comparable =>
        exact ⟨_, _, _, named, declared, captured, comparable⟩
  · rintro ⟨member, column, value, named, declared, captured, comparable⟩
    exact .comparison named declared captured comparable

theorem refuses_comparison_iff {op : Comparison} :
    Refuses schema (.binary (.compare op) left right) error ↔
      ComparisonFault schema op left right error := by
  constructor
  · intro refused
    cases refused with
    | left connects => simp at connects
    | right connects => simp at connects
    | comparison fault => exact fault
  · exact .comparison

end Condition

end BoundSql.Sql
