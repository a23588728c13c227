import BoundSql.Proofs.Write

/-!
Two expressions that differ only in what they capture compile to the same clause. Both
compilations take the same branches, and although they bind different values, they give out
the same names for them.
-/

namespace BoundSql

open Entity Sql

/-! ## Alike values and expressions -/

/-- Values that no text tells apart: both null, both lists of one length, or neither. -/
inductive Value.Alike : Value → Value → Prop
  | null : Alike .null .null
  | list (length : left.length = right.length) : Alike (.list left) (.list right)
  | plain (left_kind : left.kind?.isSome) (right_kind : right.kind?.isSome) : Alike left right

namespace Expr

inductive Alike : Expr → Expr → Prop
  | constant (values : left.Alike right) : Alike (.constant left) (.constant right)
  | member (name : String) : Alike (.member name) (.member name)
  | binary (op : BinaryOp) (left : Alike a c) (right : Alike b d) :
      Alike (.binary op a b) (.binary op c d)
  | unary (op : UnaryOp) (operand : Alike a b) : Alike (.unary op a) (.unary op b)
  | call (target : Alike a b) (method : Method) (args : List.Forall₂ Alike as bs) :
      Alike (.call a method as) (.call b method bs)
  | assign (members : as.map Prod.fst = bs.map Prod.fst)
      (values : List.Forall₂ Alike (as.map Prod.snd) (bs.map Prod.snd)) :
      Alike (.assign as) (.assign bs)
  | fields (items : List.Forall₂ Alike as bs) : Alike (.fields as) (.fields bs)

def isTest : Expr → Bool
  | .constant _ => false
  | .unary _ _ => false
  | .binary .and _ _ => false
  | .binary .or _ _ => false
  | _ => true

/-- Alike expressions that have the same constants wherever one is a condition. -/
inductive AlikeAsCondition : Expr → Expr → Prop
  | constant (value : Value) : AlikeAsCondition (.constant value) (.constant value)
  | unary (op : UnaryOp) (operand : AlikeAsCondition a b) :
      AlikeAsCondition (.unary op a) (.unary op b)
  | and (left : AlikeAsCondition a c) (right : AlikeAsCondition b d) :
      AlikeAsCondition (.binary .and a b) (.binary .and c d)
  | or (left : AlikeAsCondition a c) (right : AlikeAsCondition b d) :
      AlikeAsCondition (.binary .or a b) (.binary .or c d)
  | test (isTest : left.isTest = true) (alike : left.Alike right) : AlikeAsCondition left right

theorem Alike.bare {left right : Expr} (alike : left.Alike right) :
    left.bare.Alike right.bare := by
  fun_induction Expr.bare left generalizing right with
  | case1 operand induction =>
      cases alike with
      | unary _ inner =>
          rw [bare_convert]
          exact induction inner
  | case2 expr notConvert =>
      have same : right.bare = right := by
        cases alike with
        | unary op inner =>
            cases op with
            | convert => exact absurd rfl (notConvert _)
            | not => rfl
        | _ => rfl
      rwa [same]

theorem Alike.member?_eq {left right : Expr} (alike : left.Alike right) :
    left.member? = right.member? := by
  have inside := alike.bare
  unfold member?
  generalize left.bare = a at inside ⊢
  generalize right.bare = b at inside ⊢
  cases inside <;> rfl

theorem Alike.constant? {left right : Expr} (alike : left.Alike right) :
    (left.constant? = none ∧ right.constant? = none) ∨
      ∃ a b, left.constant? = some a ∧ right.constant? = some b ∧ a.Alike b := by
  have inside := alike.bare
  unfold Expr.constant?
  generalize left.bare = a at inside ⊢
  generalize right.bare = b at inside ⊢
  cases inside with
  | constant values => exact .inr ⟨_, _, rfl, rfl, values⟩
  | _ => exact .inl ⟨rfl, rfl⟩

theorem Alike.head_member?_eq {left right : List Expr} (alike : List.Forall₂ Alike left right) :
    left.head?.bind member? = right.head?.bind member? := by
  cases alike with
  | nil => rfl
  | cons first _ => exact first.member?_eq

end Expr

theorem Value.Alike.isNull_eq {left right : Value} (alike : left.Alike right) :
    left.isNull = right.isNull := by
  cases alike with
  | null => rfl
  | list _ => rfl
  | plain left_kind right_kind =>
      cases left <;> cases right <;> first | rfl | simp [Value.kind?] at left_kind right_kind

namespace Sql

/-! ## Compilers that agree -/

structure Bindings.Alike (left right : Bindings) : Prop where
  sigil : left.sigil = right.sigil
  next : left.next = right.next
  names : left.names = right.names

namespace Compiler

/-- Two compilers that end with related results and alike bindings if both succeed. -/
def Agrees (related : α → β → Prop) (left : Compiler α) (right : Compiler β) : Prop :=
  ∀ ⦃before before' result result' after after'⦄, before.bindings.Alike before'.bindings →
    left.Yields before result after → right.Yields before' result' after' →
      related result result' ∧ after.bindings.Alike after'.bindings

variable {related : α → β → Prop}

theorem agrees_pure {left : α} {right : β} (holds : related left right) :
    Agrees related (pure left) (pure right) := by
  intro before before' _ _ _ _ alike first second
  rcases yields_pure.mp first with ⟨rfl, rfl⟩
  rcases yields_pure.mp second with ⟨rfl, rfl⟩
  exact ⟨holds, alike⟩

theorem agrees_throw_left {e : CompileError} {right : Compiler β} :
    Agrees related (throw e) right :=
  fun _ _ _ _ _ _ _ first _ => absurd first yields_throw

theorem agrees_throw_right {e : CompileError} {left : Compiler α} :
    Agrees related left (throw e) :=
  fun _ _ _ _ _ _ _ _ second => absurd second yields_throw

theorem agrees_bind {others : γ → δ → Prop} {left : Compiler α} {right : Compiler β}
    {next : α → Compiler γ} {next' : β → Compiler δ} (first : Agrees related left right)
    (rest : ∀ a b, related a b → Agrees others (next a) (next' b)) :
    Agrees others (left >>= next) (right >>= next') := by
  intro before before' _ _ _ _ alike yields yields'
  rcases yields_bind.mp yields with ⟨a, middle, start, finish⟩
  rcases yields_bind.mp yields' with ⟨b, middle', start', finish'⟩
  rcases first alike start start' with ⟨holds, still⟩
  exact rest a b holds still finish finish'

theorem agrees_bind_eq {others : γ → δ → Prop} {left right : Compiler α}
    {next : α → Compiler γ} {next' : α → Compiler δ} (first : Agrees Eq left right)
    (rest : ∀ a, Agrees others (next a) (next' a)) :
    Agrees others (left >>= next) (right >>= next') := by
  apply agrees_bind first
  intro a b equal
  subst equal
  exact rest a

theorem agrees_map {left right : Compiler α} (first : Agrees Eq left right) (make : α → β) :
    Agrees Eq (left >>= fun a => pure (make a)) (right >>= fun a => pure (make a)) :=
  agrees_bind_eq first fun _ => agrees_pure rfl

theorem agrees_ofExcept {left : Except CompileError α} {right : Except CompileError β}
    (holds : ∀ a b, left = .ok a → right = .ok b → related a b) :
    Agrees related (MonadExcept.ofExcept left) (MonadExcept.ofExcept right) := by
  intro before before' _ _ _ _ alike first second
  rcases yields_ofExcept.mp first with ⟨found, rfl⟩
  rcases yields_ofExcept.mp second with ⟨found', rfl⟩
  exact ⟨holds _ _ found found', alike⟩

theorem agrees_ofExcept_self (given : Except CompileError α) :
    Agrees Eq (MonadExcept.ofExcept given : Compiler α) (MonadExcept.ofExcept given) := by
  apply agrees_ofExcept
  intro a b found found'
  rw [found] at found'
  exact Except.ok.inj found'

theorem agrees_orFail {e e' : CompileError} {left : Option α} {right : Option β}
    (holds : ∀ a b, left = some a → right = some b → related a b) :
    Agrees related (Condition.orFail e left) (Condition.orFail e' right) := by
  intro before before' _ _ _ _ alike first second
  rcases yields_orFail.mp first with ⟨found, rfl⟩
  rcases yields_orFail.mp second with ⟨found', rfl⟩
  exact ⟨holds _ _ found found', alike⟩

theorem agrees_report {notice notice' : Notice} :
    Agrees Eq (report notice) (report notice') := by
  intro before before' _ _ _ _ alike first second
  rcases yields_report.mp first with rfl
  rcases yields_report.mp second with rfl
  exact ⟨rfl, alike⟩

theorem agrees_bindValue (left right : Value) :
    Agrees Eq (Compiler.bind left) (Compiler.bind right) := by
  intro before before' name name' after after' alike first second
  have bound := first.bind.1
  have bound' := second.bind.1
  rw [Bindings.bind] at bound bound'
  split at bound
  next => simp at bound
  next =>
      split at bound'
      next => simp at bound'
      next =>
          simp only [Prod.mk.injEq, Except.ok.injEq] at bound bound'
          rcases bound with ⟨rfl, equal⟩
          rcases bound' with ⟨rfl, equal'⟩
          rw [← equal, ← equal', alike.sigil, alike.next]
          refine ⟨rfl, rfl, rfl, ?_⟩
          have names := alike.names
          simp only [Bindings.names] at names
          simp [Bindings.names, names]

end Compiler

open Compiler

/-! ## Conditions that agree -/

namespace Condition

variable {schema : Schema}

theorem agrees_member {e e' : CompileError} {left right : Option String} (same : left = right) :
    Agrees Eq (orFail e left) (orFail e' right) := by
  subst same
  apply agrees_orFail
  intro a b found found'
  rw [found] at found'
  exact Option.some.inj found'

theorem agrees_constant {e e' : CompileError} {left right : Expr} (alike : left.Alike right) :
    Agrees Value.Alike (orFail e left.constant?) (orFail e' right.constant?) := by
  apply agrees_orFail
  intro a b found found'
  rcases alike.constant? with ⟨none, -⟩ | ⟨v, w, some, some', values⟩
  · rw [none] at found
    contradiction
  · rw [some] at found
    rw [some'] at found'
    rwa [Option.some.inj found, Option.some.inj found'] at values

theorem agrees_compileAgainst (column : Column) (op : Comparison) {left right : Value}
    (alike : left.Alike right) :
    Agrees Eq (compileAgainst column op left) (compileAgainst column op right) := by
  unfold compileAgainst
  rw [alike.isNull_eq]
  split
  next =>
      cases op with
      | equal => exact agrees_map (agrees_bindValue _ _) _
      | notEqual =>
          exact agrees_map (agrees_bindValue _ _) _
      | _ => exact agrees_throw_left
  next =>
      apply agrees_bind (agrees_ofExcept fun _ _ _ _ => trivial)
      intro stored stored' _
      exact agrees_map (agrees_bindValue _ _) _

theorem agrees_bindAll (column : Column) {left right : List Value}
    (length : left.length = right.length) :
    Agrees Eq (bindAll column left) (bindAll column right) := by
  induction left generalizing right with
  | nil =>
      rcases List.length_eq_zero_iff.mp length.symm with rfl
      exact agrees_pure rfl
  | cons item items induction =>
      cases right with
      | nil => simp at length
      | cons other others =>
          apply agrees_bind (agrees_ofExcept fun _ _ _ _ => trivial)
          intro stored stored' _
          apply agrees_bind_eq (agrees_bindValue _ _)
          intro name
          apply agrees_bind_eq (induction (by simpa using length))
          intro names
          exact agrees_pure rfl

theorem agrees_compileComparison (op : Comparison) {a b c d : Expr} (left : a.Alike c)
    (right : b.Alike d) :
    Agrees Eq (compileComparison schema op a b) (compileComparison schema op c d) := by
  apply agrees_bind_eq (agrees_member left.member?_eq)
  intro member
  apply agrees_bind_eq (agrees_ofExcept_self _)
  intro column
  exact agrees_bind (agrees_constant right) fun _ _ values =>
    agrees_compileAgainst column op values

theorem agrees_compileMembership {left right : Value} (values : left.Alike right)
    {as bs : List Expr} (args : List.Forall₂ Expr.Alike as bs) :
    Agrees Eq (compileMembership schema left as) (compileMembership schema right bs) := by
  cases values with
  | null => exact agrees_throw_left
  | plain left_kind _ =>
      cases left <;> first | exact agrees_throw_left | simp [Value.kind?] at left_kind
  | @list items others length =>
      apply agrees_bind_eq (agrees_member (Expr.Alike.head_member?_eq args))
      intro member
      apply agrees_bind_eq (agrees_ofExcept_self _)
      intro column
      have empty : items.isEmpty = others.isEmpty := by
        cases items <;> cases others <;> first | rfl | simp at length
      rw [empty]
      split
      next => exact agrees_bind agrees_report fun _ _ _ => agrees_pure rfl
      next =>
          exact agrees_map (agrees_bindAll column length) _

theorem agrees_onlyArg (method : Method) {as bs : List Expr}
    (args : List.Forall₂ Expr.Alike as bs) :
    Agrees Expr.Alike (onlyArg method as) (onlyArg method bs) := by
  cases args with
  | nil => exact agrees_throw_left
  | cons first rest =>
      cases rest with
      | nil => exact agrees_pure first
      | cons _ _ => exact agrees_throw_left

theorem agrees_compileMethod {a b : Expr} (target : a.Alike b) (method : Method)
    {as bs : List Expr} (args : List.Forall₂ Expr.Alike as bs) :
    Agrees Eq (compileMethod schema a method as) (compileMethod schema b method bs) := by
  apply agrees_bind_eq (agrees_member target.member?_eq)
  intro member
  apply agrees_bind (agrees_onlyArg method args)
  intro arg arg' alike
  apply agrees_bind (agrees_constant alike)
  intro value value' values
  apply agrees_bind_eq (agrees_ofExcept_self _)
  intro column
  split
  next => exact agrees_compileAgainst column .equal values
  next text notEquals =>
      split
      next => contradiction
      next => exact agrees_map (agrees_bindValue _ _) _
      next => exact agrees_throw_right
  next => exact agrees_throw_left

theorem agrees_compileCall {a b : Expr} (target : a.Alike b) (method : Method)
    {as bs : List Expr} (args : List.Forall₂ Expr.Alike as bs) :
    Agrees Eq (compileCall schema a method as) (compileCall schema b method bs) := by
  unfold compileCall
  rcases target.constant? with ⟨none, none'⟩ | ⟨v, w, some, some', values⟩
  · rw [none, none']
    cases method <;> exact agrees_compileMethod target _ args
  · rw [some, some']
    cases method with
    | contains => exact agrees_compileMembership values args
    | _ => exact agrees_compileMethod target _ args

theorem agrees_compileMember (member : String) :
    Agrees Eq (compileMember schema member) (compileMember schema member) := by
  apply agrees_bind_eq (agrees_ofExcept_self _)
  intro column
  split
  next => exact agrees_map (agrees_bindValue _ _) _
  next => exact agrees_throw_left

theorem agrees_compile {left right : Expr} (alike : left.AlikeAsCondition right) :
    Agrees Eq (compile schema left) (compile schema right) := by
  induction alike with
  | constant value =>
      cases value with
      | bool truth => exact agrees_pure rfl
      | _ => exact agrees_throw_left
  | unary op _ inner =>
      cases op with
      | convert => exact inner
      | not => exact agrees_map inner _
  | and _ _ first second =>
      apply agrees_bind_eq first
      intro a
      exact agrees_map second _
  | or _ _ first second =>
      apply agrees_bind_eq first
      intro a
      exact agrees_map second _
  | test isTest alike =>
      cases alike with
      | constant _ => simp [Expr.isTest] at isTest
      | member name => exact agrees_compileMember name
      | binary op left right =>
          cases op with
          | and => simp [Expr.isTest] at isTest
          | or => simp [Expr.isTest] at isTest
          | compare op => exact agrees_compileComparison op left right
          | compute op => exact agrees_throw_left
      | unary _ _ => simp [Expr.isTest] at isTest
      | call target method args => exact agrees_compileCall target method args
      | assign _ _ => exact agrees_throw_left
      | fields _ => exact agrees_throw_left

end Condition

/-! ## Writes that agree -/

namespace Write

open Condition

variable {schema : Schema}

theorem agrees_bindStored (column : Column) (left right : Value) :
    Agrees Eq (bindStored column left) (bindStored column right) := by
  apply agrees_bind (agrees_ofExcept fun _ _ _ _ => trivial)
  intro stored stored' _
  exact agrees_map (agrees_bindValue _ _) _

theorem agrees_compileTerm {left right : Expr} (alike : left.Alike right) :
    Agrees Eq (compileTerm schema left) (compileTerm schema right) := by
  fun_induction compileTerm schema left generalizing right with
  | case1 operand induction =>
      cases alike with
      | unary _ inner =>
          have agree := induction inner
          exact agree
  | case2 items => exact agrees_throw_left
  | case3 value notList =>
      cases alike with
      | @constant _ other values =>
          cases other with
          | list items => exact agrees_throw_right
          | _ => exact agrees_map (agrees_bindValue _ _) _
  | case4 member =>
      cases alike
      exact agrees_map (agrees_ofExcept_self _) _
  | case5 op left right first second =>
      cases alike with
      | binary _ alikeLeft alikeRight =>
          apply agrees_bind_eq (first alikeLeft)
          intro a
          exact agrees_map (second alikeRight) _
  | case6 => exact agrees_throw_left

theorem agrees_compileUpdateItem (member : String) {left right : Expr}
    (alike : left.Alike right) :
    Agrees Eq (compileUpdateItem schema member left) (compileUpdateItem schema member right) := by
  apply agrees_bind_eq (agrees_ofExcept_self _)
  intro column
  rcases alike.constant? with ⟨none, none'⟩ | ⟨v, w, some, some', _⟩
  · rw [none, none']
    exact agrees_map (agrees_compileTerm alike) _
  · rw [some, some']
    exact agrees_bindStored column v w

theorem agrees_compileInsertItem (member : String) {left right : Expr}
    (alike : left.Alike right) :
    Agrees Eq (compileInsertItem schema member left) (compileInsertItem schema member right) := by
  apply agrees_bind_eq (agrees_ofExcept_self _)
  intro column
  rcases alike.constant? with ⟨none, none'⟩ | ⟨v, w, some, some', _⟩
  · rw [none, none']
    exact agrees_throw_left
  · rw [some, some']
    exact agrees_bindStored column v w

theorem agrees_compileEach {item : String → Expr → Compiler Write}
    (agrees : ∀ member {left right : Expr}, left.Alike right →
      Agrees Eq (item member left) (item member right))
    {as bs : List (String × Expr)} (members : as.map Prod.fst = bs.map Prod.fst)
    (values : List.Forall₂ Expr.Alike (as.map Prod.snd) (bs.map Prod.snd)) :
    Agrees Eq (compileEach item as) (compileEach item bs) := by
  induction as generalizing bs with
  | nil =>
      rcases List.map_eq_nil_iff.mp members.symm with rfl
      exact agrees_pure rfl
  | cons assignment as induction =>
      rcases assignment with ⟨member, value⟩
      rcases bs with - | ⟨⟨other, value'⟩, bs⟩
      · simp at members
      · simp only [List.map_cons, List.cons.injEq] at members
        rcases members with ⟨rfl, members⟩
        rw [List.map_cons, List.map_cons, List.forall₂_cons] at values
        apply agrees_bind_eq (agrees member values.1)
        intro write
        exact agrees_map (induction members values.2) _

theorem agrees_bindingsOf (clause : Clause) {left right : Expr} (alike : left.Alike right) :
    Agrees (fun as bs => as.map Prod.fst = bs.map Prod.fst ∧
        List.Forall₂ Expr.Alike (as.map Prod.snd) (bs.map Prod.snd))
      (MonadExcept.ofExcept (bindingsOf clause left) : Compiler (List (String × Expr)))
      (MonadExcept.ofExcept (bindingsOf clause right)) := by
  apply agrees_ofExcept
  intro as bs found found'
  cases alike with
  | assign members values =>
      rcases Except.ok.inj found with rfl
      rcases Except.ok.inj found' with rfl
      exact ⟨members, values⟩
  | _ => contradiction

theorem agrees_compileUpdate {left right : Expr} (alike : left.Alike right) :
    Agrees Eq (compileUpdate schema left) (compileUpdate schema right) :=
  agrees_bind (agrees_bindingsOf .update alike) fun _ _ assignments =>
    agrees_compileEach agrees_compileUpdateItem assignments.1 assignments.2

theorem agrees_compileInsert {left right : Expr} (alike : left.Alike right) :
    Agrees Eq (compileInsert schema left) (compileInsert schema right) :=
  agrees_bind (agrees_bindingsOf .insert alike) fun _ _ assignments =>
    agrees_compileEach agrees_compileInsertItem assignments.1 assignments.2

theorem agrees_compileColumns (left right : MemberValues) (columns : List Column) :
    Agrees Eq (compileColumns left columns) (compileColumns right columns) := by
  induction columns with
  | nil => exact agrees_pure rfl
  | cons column columns induction =>
      apply agrees_bind (agrees_ofExcept fun _ _ _ _ => trivial)
      intro value value' _
      apply agrees_bind_eq (agrees_bindStored column value value')
      intro write
      exact agrees_map induction _

theorem agrees_compileRow (left right : MemberValues) :
    Agrees Eq (compileRow schema left) (compileRow schema right) :=
  agrees_compileColumns left right schema.persisted

end Write

end Sql

end BoundSql
