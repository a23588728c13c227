import BoundSql.Proofs.Selection
import BoundSql.Expr.Truth

/-!
Conversions make no difference. A tree with conversions around any of its parts compiles to the
same clauses, with the same values bound, and has the same truth as the tree without them. Only
a row of assignments or fields is not found behind a conversion.
-/

namespace BoundSql

open Entity Sql

namespace Expr

/-- The second tree is the first one with conversions around some of its parts, any number of
them around each. -/
inductive Wraps : Expr → Expr → Prop
  | around (inside : Wraps a b) : Wraps a (.unary .convert b)
  | constant (value : Value) : Wraps (.constant value) (.constant value)
  | member (name : String) : Wraps (.member name) (.member name)
  | binary (op : BinaryOp) (left : Wraps a c) (right : Wraps b d) :
      Wraps (.binary op a b) (.binary op c d)
  | unary (op : UnaryOp) (operand : Wraps a b) : Wraps (.unary op a) (.unary op b)
  | call (target : Wraps a b) (method : Method) (args : List.Forall₂ Wraps as bs) :
      Wraps (.call a method as) (.call b method bs)
  | assign (members : as.map Prod.fst = bs.map Prod.fst)
      (values : List.Forall₂ Wraps (as.map Prod.snd) (bs.map Prod.snd)) :
      Wraps (.assign as) (.assign bs)
  | fields (items : List.Forall₂ Wraps as bs) : Wraps (.fields as) (.fields bs)

variable {a b c d : Expr}

/-- What holds of all trees whose operands it holds of holds of all trees, whatever arguments,
assignments and fields they have. -/
theorem Wraps.induct {motive : ∀ a b, Wraps a b → Prop}
    (around : ∀ {a b} (inside : Wraps a b), motive a b inside → motive _ _ inside.around)
    (constant : ∀ value, motive _ _ (.constant value)) (member : ∀ name, motive _ _ (.member name))
    (binary : ∀ op {a b c d} (left : Wraps a c) (right : Wraps b d), motive a c left →
      motive b d right → motive _ _ (.binary op left right))
    (unary : ∀ op {a b} (operand : Wraps a b), motive a b operand → motive _ _ (.unary op operand))
    (call : ∀ {a b} (target : Wraps a b) method {as bs} (args : List.Forall₂ Wraps as bs),
      motive _ _ (.call target method args))
    (assign : ∀ {as bs} members values, motive _ _ (@assign as bs members values))
    (fields : ∀ {as bs} (items : List.Forall₂ Wraps as bs), motive _ _ (.fields items))
    {a b : Expr} (wraps : a.Wraps b) : motive a b wraps :=
  @Wraps.rec motive (fun _ _ _ => True) (fun inside => around inside) constant member
    (fun op left right => binary op left right) (fun op operand => unary op operand)
    (fun target method args _ _ => call target method args)
    (fun members values _ => assign members values) (fun items _ => fields items)
    trivial (fun _ _ _ _ => trivial) a b wraps

theorem bare_ne_convert (expr operand : Expr) : expr.bare ≠ .unary .convert operand := by
  fun_induction Expr.bare expr with
  | case1 _ induction => exact induction
  | case2 expr notConvert => exact notConvert operand

theorem Wraps.member?_eq (wraps : a.Wraps b) : a.member? = b.member? := by
  induction wraps using Wraps.induct with
  | around _ inner => exact inner
  | unary op _ inner =>
      cases op with
      | convert => exact inner
      | not => rfl
  | _ => rfl

theorem Wraps.constant?_eq (wraps : a.Wraps b) : a.constant? = b.constant? := by
  induction wraps using Wraps.induct with
  | around _ inner => exact inner
  | unary op _ inner =>
      cases op with
      | convert => exact inner
      | not => rfl
  | _ => rfl

theorem Wraps.bare_eq_fields (wraps : a.Wraps b) {items : List Expr} (row : a = .fields items) :
    ∃ others, b.bare = .fields others := by
  induction wraps using Wraps.induct with
  | around _ inner => exact inner row
  | fields _ => exact ⟨_, rfl⟩
  | _ => contradiction

theorem Wraps.head_eq {part : Expr → Option α} (same : ∀ {a b}, Wraps a b → part a = part b)
    {as bs : List Expr} (wraps : List.Forall₂ Wraps as bs) :
    as.head?.bind part = bs.head?.bind part := by
  cases wraps with
  | nil => rfl
  | cons first _ => exact same first

end Expr

namespace Sql

open BoundSql.Expr (Wraps)

/-! ## Compilers that are the same when they succeed -/

def Compiler.Same (left right : Compiler α) : Prop :=
  ∀ before result after, left.Yields before result after ↔ right.Yields before result after

open Compiler

theorem Compiler.Same.refl (compiler : Compiler α) : Same compiler compiler :=
  fun _ _ _ => Iff.rfl

theorem same_throw {e e' : CompileError} : Same (throw e : Compiler α) (throw e') := by
  intro before result after
  simp only [yields_throw]

theorem same_bind {left right : Compiler α} {next next' : α → Compiler β}
    (first : Same left right) (rest : ∀ value, Same (next value) (next' value)) :
    Same (left >>= next) (right >>= next') := by
  intro before result after
  simp only [yields_bind, first _ _ _, rest _ _ _ _]

theorem same_orFail {e e' : CompileError} (found : Option α) :
    Same (Condition.orFail e found) (Condition.orFail e' found) := by
  intro before result after
  simp only [yields_orFail]

variable {schema : Schema} {a b c d : Expr} {as bs : List Expr}

/-! ## Conditions -/

namespace Condition

theorem same_compileComparison (op : Comparison) (left : a.Wraps c) (right : b.Wraps d) :
    Same (compileComparison schema op a b) (compileComparison schema op c d) := by
  unfold compileComparison
  rw [left.member?_eq, right.constant?_eq]
  apply same_bind (same_orFail _)
  intro member
  apply same_bind (.refl _)
  intro column
  exact same_bind (same_orFail _) fun value => .refl _

theorem same_compileMembership (target : Value) (args : List.Forall₂ Wraps as bs) :
    Same (compileMembership schema target as) (compileMembership schema target bs) := by
  unfold compileMembership
  rw [Wraps.head_eq Wraps.member?_eq args]
  exact .refl _

theorem same_compileMethod (target : a.Wraps b) (method : Method)
    (args : List.Forall₂ Wraps as bs) :
    Same (compileMethod schema a method as) (compileMethod schema b method bs) := by
  unfold compileMethod
  rw [target.member?_eq]
  apply same_bind (same_orFail _)
  intro member
  cases args with
  | nil => exact same_bind same_throw fun _ => .refl _
  | cons first others =>
      cases others with
      | nil =>
          simp only [onlyArg, pure_bind]
          rw [first.constant?_eq]
          exact same_bind (same_orFail _) fun value => .refl _
      | cons _ _ =>
          intro before result after
          simp only [onlyArg, yields_bind, yields_throw, false_and, exists_false]

theorem same_compileCall (target : a.Wraps b) (method : Method)
    (args : List.Forall₂ Wraps as bs) :
    Same (compileCall schema a method as) (compileCall schema b method bs) := by
  unfold compileCall
  rw [target.constant?_eq]
  split
  next => exact same_compileMembership _ args
  next => exact same_compileMethod target _ args

theorem same_compile (wraps : a.Wraps b) : Same (compile schema a) (compile schema b) := by
  induction wraps using Wraps.induct with
  | around _ inner => exact inner
  | constant value => exact .refl _
  | member name => exact .refl _
  | binary op left right first second =>
      cases op with
      | and =>
          apply same_bind first
          intro condition
          exact same_bind second fun _ => .refl _
      | or =>
          apply same_bind first
          intro condition
          exact same_bind second fun _ => .refl _
      | compare op => exact same_compileComparison op left right
      | compute op => exact same_throw
  | unary op _ inner =>
      cases op with
      | convert => exact inner
      | not => exact same_bind inner fun _ => .refl _
  | call target method args => exact same_compileCall target method args
  | assign _ _ => exact same_throw
  | fields _ => exact same_throw

end Condition

/-! ## Writes -/

namespace Write

theorem same_compileTerm (wraps : a.Wraps b) :
    Same (compileTerm schema a) (compileTerm schema b) := by
  induction wraps using Wraps.induct with
  | around _ inner => exact inner
  | constant value => exact .refl _
  | member name => exact .refl _
  | binary op _ _ first second =>
      cases op with
      | compute op =>
          apply same_bind first
          intro term
          exact same_bind second fun _ => .refl _
      | _ => exact same_throw
  | unary op _ inner =>
      cases op with
      | convert => exact inner
      | not => exact same_throw
  | call _ _ _ => exact same_throw
  | assign _ _ => exact same_throw
  | fields _ => exact same_throw

theorem same_compileUpdateItem (member : String) (wraps : a.Wraps b) :
    Same (compileUpdateItem schema member a) (compileUpdateItem schema member b) := by
  unfold compileUpdateItem
  rw [wraps.constant?_eq]
  apply same_bind (.refl _)
  intro column
  split
  next => exact .refl _
  next => exact same_bind (same_compileTerm wraps) fun _ => .refl _

theorem same_compileInsertItem (member : String) (wraps : a.Wraps b) :
    Same (compileInsertItem schema member a) (compileInsertItem schema member b) := by
  unfold compileInsertItem
  rw [wraps.constant?_eq]
  apply same_bind (.refl _)
  intro column
  split
  next => exact .refl _
  next => exact same_throw

theorem same_compileEach {item : String → Expr → Compiler Write}
    (same : ∀ {a b : Expr} member, a.Wraps b → Same (item member a) (item member b))
    {as bs : List (String × Expr)} (members : as.map Prod.fst = bs.map Prod.fst)
    (values : List.Forall₂ Wraps (as.map Prod.snd) (bs.map Prod.snd)) :
    Same (compileEach item as) (compileEach item bs) := by
  induction as generalizing bs with
  | nil =>
      rcases List.map_eq_nil_iff.mp members.symm with rfl
      exact .refl _
  | cons assignment as induction =>
      rcases assignment with ⟨member, value⟩
      rcases bs with - | ⟨⟨other, value'⟩, bs⟩
      · simp at members
      · simp only [List.map_cons, List.cons.injEq] at members
        rcases members with ⟨rfl, members⟩
        rw [List.map_cons, List.map_cons, List.forall₂_cons] at values
        apply same_bind (same _ values.1)
        intro write
        exact same_bind (induction members values.2) fun _ => .refl _

theorem outcome_bindingsOf_convert {clause : Clause} {before : Scratch}
    (next : List (String × Expr) → Compiler (List Write)) (operand : Expr) :
    (MonadExcept.ofExcept (bindingsOf clause (.unary .convert operand)) >>= next).outcome before =
      (.error (.unsupported clause "expected a member initializer, found unary Convert"),
        before) := rfl

theorem same_bindingsOf {clause : Clause} {item : String → Expr → Compiler Write}
    (same : ∀ {a b : Expr} member, a.Wraps b → Same (item member a) (item member b))
    (wraps : a.Wraps b) (shown : b.bare = b) :
    Same (MonadExcept.ofExcept (bindingsOf clause a) >>= compileEach item)
      (MonadExcept.ofExcept (bindingsOf clause b) >>= compileEach item) := by
  cases wraps with
  | around _ => exact absurd shown (Expr.bare_ne_convert _ _)
  | assign members values => exact same_compileEach same members values
  | _ => exact same_throw

end Write

/-! ## Selections and sort keys -/

theorem same_columnNamed {otherwise otherwise' : CompileError} (wraps : a.Wraps b)
    (make : Column → β) (result : β) :
    (columnNamed schema otherwise a >>= fun column => pure (make column)) = .ok result ↔
      (columnNamed schema otherwise' b >>= fun column => pure (make column)) = .ok result := by
  simp only [except_bind_eq_ok, columnNamed_eq_ok_iff, wraps.member?_eq]

namespace Selection

theorem same_mapM (wraps : List.Forall₂ Wraps as bs) (names : List String) :
    as.mapM (compileItem schema) = .ok names ↔ bs.mapM (compileItem schema) = .ok names := by
  induction wraps generalizing names with
  | nil => rfl
  | cons first _ induction =>
      simp only [List.mapM_cons, except_bind_eq_ok, induction, compileItem, columnNamed_eq_ok_iff,
        first.member?_eq]

theorem wraps_fieldsOf (wraps : a.Wraps b)
    (shown : ∀ items, b.bare = .fields items → b = .fields items) :
    List.Forall₂ Wraps (fieldsOf a) (fieldsOf b) := by
  cases wraps with
  | @around _ inside wraps =>
      cases a with
      | fields items =>
          rcases wraps.bare_eq_fields rfl with ⟨others, row⟩
          cases shown others row
      | _ => exact .cons wraps.around .nil
  | fields items => exact items
  | constant value => exact .cons (.constant value) .nil
  | member name => exact .cons (.member name) .nil
  | binary op left right => exact .cons (.binary op left right) .nil
  | unary op operand => exact .cons (.unary op operand) .nil
  | call target method args => exact .cons (.call target method args) .nil
  | assign members values => exact .cons (.assign members values) .nil

theorem same_compile (wraps : a.Wraps b)
    (shown : ∀ items, b.bare = .fields items → b = .fields items) (selection : Selection) :
    compile schema a = .ok selection ↔ compile schema b = .ok selection := by
  have fields := wraps_fieldsOf wraps shown
  have some : fieldsOf a ≠ [] ↔ fieldsOf b ≠ [] := by
    rw [← List.length_pos_iff, ← List.length_pos_iff, fields.length_eq]
  simp only [compile_eq_ok_iff, some, except_bind_eq_ok, same_mapM fields]

theorem compile_convert {items : List Expr} (row : a.bare = .fields items) :
    compile schema (.unary .convert a) =
      .error (.unsupported .projection "unary Convert") := by
  have unnamed : (Expr.unary .convert a).member? = none := by
    rw [Expr.member?, Expr.bare_convert, row]
  simp only [compile, pure_bind, List.mapM_cons, compileItem, columnNamed, unnamed]
  rfl

end Selection

end Sql

/-! ## Truth -/

namespace Expr

variable {lookup : String → Value}

theorem orUnsupported_eq_ok_iff {shape : String} {found : Option α} {result : α} :
    orUnsupported shape found = .ok result ↔ found = some result := by
  cases found <;> simp [orUnsupported]

theorem same_evaluateComparison (op : Comparison) {a b c d : Expr} (left : a.Wraps c)
    (right : b.Wraps d) (truth : Truth) :
    evaluateComparison lookup op a b = .ok truth ↔
      evaluateComparison lookup op c d = .ok truth := by
  simp only [evaluateComparison, except_bind_eq_ok, orUnsupported_eq_ok_iff, left.member?_eq,
    right.constant?_eq]

theorem same_evaluateCall {a b : Expr} (target : a.Wraps b) (method : Method)
    {as bs : List Expr} (args : List.Forall₂ Wraps as bs) (truth : Truth) :
    evaluateCall lookup a method as = .ok truth ↔ evaluateCall lookup b method bs = .ok truth := by
  unfold evaluateCall
  rw [target.constant?_eq]
  split
  next =>
      simp only [except_bind_eq_ok, orUnsupported_eq_ok_iff,
        Wraps.head_eq Wraps.member?_eq args]
  next =>
      simp only [except_bind_eq_ok, orUnsupported_eq_ok_iff, target.member?_eq,
        Wraps.head_eq Wraps.constant?_eq args]

theorem same_evaluate {a b : Expr} (wraps : a.Wraps b) (truth : Truth) :
    a.evaluate lookup = .ok truth ↔ b.evaluate lookup = .ok truth := by
  induction wraps using Wraps.induct generalizing truth with
  | around _ inner => exact inner truth
  | constant value => rfl
  | member name => rfl
  | binary op left right first second =>
      cases op with
      | and => simp only [evaluate, except_bind_eq_ok, first, second]
      | or => simp only [evaluate, except_bind_eq_ok, first, second]
      | compare op => exact same_evaluateComparison op left right truth
      | compute op => exact ⟨nofun, nofun⟩
  | unary op _ inner =>
      cases op with
      | convert => exact inner truth
      | not => simp only [evaluate, except_bind_eq_ok, inner]
  | call target method args => exact same_evaluateCall target method args truth
  | assign _ _ => exact ⟨nofun, nofun⟩
  | fields _ => exact ⟨nofun, nofun⟩

end Expr

namespace Sql

open Compiler BoundSql.Expr

/-- Two trees that are the same to every compiler and in every evaluation. Writes and fields are
found in the second tree only if no conversion hides the row of them. -/
structure Interchangeable (schema : Schema) (plain wrapped : Expr) : Prop where
  condition : Same (Condition.compile schema plain) (Condition.compile schema wrapped)
  update : wrapped.bare = wrapped →
    Same (Write.compileUpdate schema plain) (Write.compileUpdate schema wrapped)
  insert : wrapped.bare = wrapped →
    Same (Write.compileInsert schema plain) (Write.compileInsert schema wrapped)
  ordering : ∀ direction key, SortKey.compile schema plain direction = .ok key ↔
    SortKey.compile schema wrapped direction = .ok key
  projection : (∀ items, wrapped.bare = .fields items → wrapped = .fields items) →
    ∀ selection, Selection.compile schema plain = .ok selection ↔
      Selection.compile schema wrapped = .ok selection
  aggregate : ∀ function selection,
    Selection.compileAggregate schema function plain = .ok selection ↔
      Selection.compileAggregate schema function wrapped = .ok selection
  truth : ∀ lookup truth, plain.evaluate lookup = .ok truth ↔ wrapped.evaluate lookup = .ok truth

/-- Conversions around any parts of a tree change nothing of what it compiles to, of what is
bound meanwhile and of its truth. Only around a whole row of assignments or fields does one make
a difference: it hides the row, and a compiler that needs one fails. -/
theorem conversions_are_transparent (schema : Schema) {plain wrapped : Expr}
    (wraps : plain.Wraps wrapped) :
    Interchangeable schema plain wrapped ∧
      (∀ operand before, (Write.compileUpdate schema (.unary .convert operand)).outcome before =
        (.error (.unsupported .update "expected a member initializer, found unary Convert"),
          before)) ∧
      (∀ operand before, (Write.compileInsert schema (.unary .convert operand)).outcome before =
        (.error (.unsupported .insert "expected a member initializer, found unary Convert"),
          before)) ∧
      ∀ operand items, operand.bare = .fields items →
        Selection.compile schema (.unary .convert operand) =
          .error (.unsupported .projection "unary Convert") := by
  refine ⟨?_, fun operand _ => Write.outcome_bindingsOf_convert _ operand,
    fun operand _ => Write.outcome_bindingsOf_convert _ operand,
    fun operand items => Selection.compile_convert⟩
  constructor
  case condition => exact Condition.same_compile wraps
  case update => exact Write.same_bindingsOf Write.same_compileUpdateItem wraps
  case insert => exact Write.same_bindingsOf Write.same_compileInsertItem wraps
  case ordering =>
    intro direction key
    exact same_columnNamed wraps _ key
  case projection => exact Selection.same_compile wraps
  case aggregate =>
    intro function selection
    exact same_columnNamed wraps _ selection
  case truth =>
    intro lookup truth
    exact same_evaluate wraps truth

def guestBirthday : Expr :=
  .assign [("Age", .binary (.compute .add) (.member "Age") (.constant (.int 1)))]

def guestBirthdayConverted : Expr :=
  .assign [("Age", .unary .convert
    (.binary (.compute .add) (.unary .convert (.unary .convert (.member "Age")))
      (.constant (.int 1))))]

theorem wraps_guestBirthday : guestBirthday.Wraps guestBirthdayConverted := by
  have age := (Wraps.member "Age").around.around
  have sum := (Wraps.binary (.compute .add) age (.constant (.int 1))).around
  exact .assign rfl (.cons sum .nil)

theorem conversions_are_transparent_guests :
    guestBirthday.Wraps guestBirthdayConverted ∧ ∃ writes after,
      (Write.compileUpdate guests guestBirthday).Yields { bindings := .empty "@" }
        writes after ∧
      (Write.compileUpdate guests guestBirthdayConverted).Yields { bindings := .empty "@" }
        writes after := by
  have same := (conversions_are_transparent guests wraps_guestBirthday).1.update rfl
  have compiled : ∃ writes after, (Write.compileUpdate guests guestBirthday).Yields
      { bindings := .empty "@" } writes after := ⟨_, _, rfl⟩
  rcases compiled with ⟨writes, after, yields⟩
  exact ⟨wraps_guestBirthday, writes, after, yields, (same _ _ _).mp yields⟩

/-- A conversion around a row makes a difference: the row alone compiles. -/
theorem conversion_hides_row :
    (guestBirthday.Wraps (.unary .convert guestBirthdayConverted) ∧
      (∃ writes after, (Write.compileUpdate guests guestBirthday).Yields
        { bindings := .empty "@" } writes after) ∧
      ¬ ∃ writes after, (Write.compileUpdate guests (.unary .convert guestBirthdayConverted)).Yields
        { bindings := .empty "@" } writes after) ∧
    (Expr.fields [.member "Age"]).Wraps (.unary .convert (.fields [.member "Age"])) ∧
      Selection.compile guests (.fields [.member "Age"]) = .ok (.columns ["age"]) ∧
      Selection.compile guests (.unary .convert (.fields [.member "Age"])) =
        .error (.unsupported .projection "unary Convert") := by
  refine ⟨⟨wraps_guestBirthday.around, ⟨_, _, rfl⟩, ?_⟩,
    .around (.fields (.cons (.member "Age") .nil)), rfl, rfl⟩
  rintro ⟨writes, after, yields⟩
  rw [Compiler.Yields, Write.compileUpdate, Write.outcome_bindingsOf_convert] at yields
  simp at yields

end Sql

end BoundSql
