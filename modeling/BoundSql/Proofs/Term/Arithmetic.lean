import BoundSql.Proofs.Numbering
import BoundSql.Proofs.Term.Reader

/-!
The arithmetic of updates. The right side of an assignment is read back as the tree it was
compiled from, without conversions: each member is its column, and each constant is a
placeholder of its own that holds the constant.
-/

namespace BoundSql.Sql

open Entity Compiler

/-! ## Names of their own -/

namespace Bindings

structure Gives (before : Bindings) (given : List String) (after : Bindings) : Prop where
  grows : before.Grows after
  names : after.names = before.names ++ given
  nodup : given.Nodup
  fresh : ∀ name ∈ given, name ∉ before.names

theorem Gives.refl (bindings : Bindings) : bindings.Gives [] bindings :=
  ⟨.refl _, (List.append_nil _).symm, .nil, nofun⟩

theorem Gives.trans {first second third : Bindings} {given more : List String}
    (left : first.Gives given second) (right : second.Gives more third) :
    first.Gives (given ++ more) third := by
  have behind : ∀ name ∈ more, name ∉ first.names ∧ name ∉ given := by
    intro name among
    have unknown := right.fresh name among
    rw [left.names, List.mem_append, not_or] at unknown
    exact unknown
  refine ⟨left.grows.trans right.grows, ?_, ?_, ?_⟩
  · rw [right.names, left.names, List.append_assoc]
  · refine left.nodup.append right.nodup ?_
    intro name among among'
    exact (behind name among').2 among
  · intro name among
    rcases List.mem_append.mp among with old | new
    · exact left.fresh name old
    · exact (behind name new).1

end Bindings

theorem Compiler.Yields.gives {value : Value} {name : String} {before after : Scratch}
    (yields : (Compiler.bind value).Yields before name after) :
    before.bindings.Gives [name] after.bindings := by
  have bound := yields.bind.1
  have grows := yields.held.1
  rw [Bindings.bind] at bound
  split at bound
  next => simp at bound
  next fresh =>
      simp only [Prod.mk.injEq, Except.ok.injEq] at bound
      rcases bound with ⟨rfl, made⟩
      refine ⟨grows, ?_, List.nodup_singleton _, ?_⟩
      · simp [← made, Bindings.names]
      · intro name among
        rw [List.mem_singleton.mp among]
        simpa using fresh

/-! ## Trees -/

namespace Term

/-- A term that says what an expression does: conversions are gone, a member is its column, and
a constant is a placeholder that holds it. -/
inductive StandsFor (schema : Schema) (bindings : Bindings) : Expr → Term → Prop
  | constant (holds : bindings.Holds name value) :
      StandsFor schema bindings (.constant value) (.placeholder name)
  | member {target : Column} (declared : schema.column? member = some target) :
      StandsFor schema bindings (.member member) (.column target.name)
  | compute (op : Arithmetic) (left : StandsFor schema bindings a term)
      (right : StandsFor schema bindings b term') :
      StandsFor schema bindings (.binary (.compute op) a b) (.compute op term term')
  | convert (inside : StandsFor schema bindings expr term) :
      StandsFor schema bindings (.unary .convert expr) term

/-- Arithmetic over declared members and single values, with conversions anywhere. -/
inductive Expressible (schema : Schema) : Expr → Prop
  | constant (single : ∀ items, value ≠ .list items) : Expressible schema (.constant value)
  | member {target : Column} (declared : schema.column? member = some target) :
      Expressible schema (.member member)
  | compute (op : Arithmetic) (left : Expressible schema a) (right : Expressible schema b) :
      Expressible schema (.binary (.compute op) a b)
  | convert (inside : Expressible schema expr) : Expressible schema (.unary .convert expr)

variable {schema : Schema} {expr : Expr} {term : Term}

theorem StandsFor.grows {before after : Bindings} (grows : before.Grows after)
    (stands : StandsFor schema before expr term) : StandsFor schema after expr term := by
  induction stands with
  | constant holds => exact .constant (grows.holds holds)
  | member declared => exact .member declared
  | compute op _ _ left right => exact .compute op left right
  | convert _ inside => exact .convert inside

theorem StandsFor.over {bindings : Bindings} (stands : StandsFor schema bindings expr term) :
    term.Over schema.HasColumn (IsNumbered bindings.sigil) := by
  induction stands with
  | constant holds => exact holds.1
  | member declared => exact hasColumn_of_column? declared
  | compute _ _ _ left right => exact ⟨left, right⟩
  | convert _ inside => exact inside

end Term

namespace Write

variable {schema : Schema} {before after : Scratch}

theorem standsFor_compileTerm {expr : Expr} {term : Term}
    (yields : (compileTerm schema expr).Yields before term after) :
    Term.Expressible schema expr ∧ term.StandsFor schema after.bindings expr ∧
      before.bindings.Gives term.placeholders after.bindings := by
  fun_induction compileTerm schema expr generalizing before term after with
  | case1 operand inner =>
      rcases inner yields with ⟨sound, stands, gives⟩
      exact ⟨.convert sound, .convert stands, gives⟩
  | case2 items => exact absurd yields yields_throw
  | case3 value notList =>
      simp only [yields_bind, yields_pure] at yields
      rcases yields with ⟨name, _, bound, rfl, rfl⟩
      exact ⟨.constant notList, .constant bound.held.2, bound.gives⟩
  | case4 member =>
      simp only [yields_bind, yields_ofExcept, yields_pure] at yields
      rcases yields with ⟨column, _, ⟨found, rfl⟩, rfl, rfl⟩
      have declared := columnOf_eq_ok_iff.mp found
      exact ⟨.member declared, .member declared, .refl _⟩
  | case5 op left right first second =>
      simp only [yields_bind, yields_pure] at yields
      rcases yields with ⟨a, middle, left, b, _, right, rfl, rfl⟩
      rcases first left with ⟨soundLeft, standsLeft, givesLeft⟩
      rcases second right with ⟨soundRight, standsRight, givesRight⟩
      exact ⟨.compute op soundLeft soundRight,
        .compute op (standsLeft.grows givesRight.grows) standsRight, givesLeft.trans givesRight⟩
  | case6 => exact absurd yields yields_throw

theorem exists_compileTerm {expr : Expr} (sound : Term.Expressible schema expr)
    (numbered : before.bindings.Numbered) :
    ∃ term after, (compileTerm schema expr).Yields before term after ∧
      after.bindings.Numbered := by
  induction sound generalizing before with
  | @constant value single =>
      rcases numbered.bind value with ⟨after, bound, still, -⟩
      have yields : (Compiler.bind value).Yields before
          (Bindings.nameOf before.bindings.sigil before.bindings.size)
          { before with bindings := after } := by
        rw [Compiler.Yields, outcome_bindValue, bound]
      rw [compileTerm]
      case constant.x_1 => exact single
      exact ⟨_, _, yields_bind.mpr ⟨_, _, yields, yields_pure.mpr ⟨rfl, rfl⟩⟩, still⟩
  | @member name target declared =>
      refine ⟨.column target.name, before, ?_, numbered⟩
      exact yields_bind.mpr ⟨target, before,
        yields_ofExcept.mpr ⟨columnOf_eq_ok_iff.mpr declared, rfl⟩, yields_pure.mpr ⟨rfl, rfl⟩⟩
  | compute op _ _ first second =>
      rcases first numbered with ⟨a, middle, left, kept⟩
      rcases second kept with ⟨b, after, right, still⟩
      refine ⟨.compute op a b, after, ?_, still⟩
      exact yields_bind.mpr ⟨a, middle, left, yields_bind.mpr ⟨b, after, right,
        yields_pure.mpr ⟨rfl, rfl⟩⟩⟩
  | convert _ inside => exact inside numbered

theorem standsFor_compileUpdateItem {member : String} {value : Expr} {write : Write}
    (yields : (compileUpdateItem schema member value).Yields before write after) :
    (value.constant? = none →
        Term.Expressible schema value ∧ write.value.StandsFor schema after.bindings value) ∧
      before.bindings.Gives write.placeholders after.bindings := by
  simp only [compileUpdateItem, yields_bind, yields_ofExcept] at yields
  rcases yields with ⟨column, _, ⟨_, rfl⟩, yields⟩
  split at yields
  next constant found =>
      simp only [bindStored, yields_bind, yields_ofExcept, yields_pure] at yields
      rcases yields with ⟨stored, _, ⟨_, rfl⟩, name, _, bound, rfl, rfl⟩
      refine ⟨fun none => ?_, bound.gives⟩
      rw [found] at none
      contradiction
  next =>
      simp only [yields_bind, yields_pure] at yields
      rcases yields with ⟨term, _, compiled, rfl, rfl⟩
      rcases standsFor_compileTerm compiled with ⟨sound, stands, gives⟩
      exact ⟨fun _ => ⟨sound, stands⟩, gives⟩

theorem gives_compileEach {item : String → Expr → Compiler Write}
    (gives : ∀ {member value before write after}, (item member value).Yields before write after →
      before.bindings.Gives write.placeholders after.bindings)
    {assignments : List (String × Expr)} {writes : List Write}
    (yields : (compileEach item assignments).Yields before writes after) :
    before.bindings.Gives (writes.flatMap placeholders) after.bindings := by
  induction assignments generalizing before writes with
  | nil =>
      rcases yields_pure.mp yields with ⟨rfl, rfl⟩
      exact .refl _
  | cons assignment assignments induction =>
      simp only [compileEach, yields_bind, yields_pure] at yields
      rcases yields with ⟨write, middle, first, writes, _, others, rfl, rfl⟩
      exact (gives first).trans (induction others)

end Write

/-! ## Texts -/

def Token.written : Token → String
  | .identifier name => quoteIdentifier name
  | .placeholder name => name
  | .symbol sign => if sign = "(" || sign = ")" then sign else " " ++ sign ++ " "
  | _ => ""

theorem Term.written_tokensIn (term : Term) (nested : Bool) :
    String.join ((term.tokensIn nested).map Token.written) = term.renderIn nested := by
  induction term generalizing nested with
  | placeholder name => simp [tokensIn, renderIn, Token.written, String.join]
  | column name => simp [tokensIn, renderIn, Token.written, String.join]
  | compute op left right first second =>
      have open_ne : op.symbol ≠ "(" := by cases op <;> decide
      have close_ne : op.symbol ≠ ")" := by cases op <;> decide
      cases nested <;>
        simp [tokensIn, renderIn, first, second, open_ne, close_ne, Token.written,
          String.append_assoc]

/-- What an update writes for an assignment that is no constant: a text that is read back as a
tree that stands for the assignment, and cannot be read in any other way. -/
structure Write.Keeps (schema : Schema) (bindings : Bindings) (expr : Expr) (write : Write) :
    Prop where
  standsFor : write.value.StandsFor schema bindings expr
  reads : Distinctive bindings.sigil →
    Term.read? bindings.sigil write.renderValue = some write.value
  written : String.join (write.value.tokens.map Token.written) = write.renderValue
  only : ∀ term, Term.Reads 0 write.value.tokens term ↔ term = write.value

theorem Term.StandsFor.keeps {schema : Schema} {bindings : Bindings} {expr : Expr} {write : Write}
    (stands : write.value.StandsFor schema bindings expr) : write.Keeps schema bindings expr := by
  refine ⟨stands, ?_, write.value.written_tokensIn false, fun _ => reads_tokens_iff⟩
  intro distinctive
  have tokens := (spells_term distinctive stands.over false).read?
  rw [read?, Write.renderValue, render, tokens]
  exact ofTokens?_of_reads (write.value.reads_tokensIn false)

theorem Write.exists_compileUpdate_iff {schema : Schema} {before : Scratch} {member : String}
    {column : Column} {value : Expr} (numbered : before.bindings.Numbered)
    (target : targetOf schema member = .ok column) (computed : value.constant? = none) :
    (∃ writes after,
        (compileUpdate schema (.assign [(member, value)])).Yields before writes after) ↔
      Term.Expressible schema value := by
  have each : compileUpdate schema (.assign [(member, value)]) =
      compileEach (compileUpdateItem schema) [(member, value)] := rfl
  rw [each]
  constructor
  · rintro ⟨writes, after, yields⟩
    rcases yields_bind.mp yields with ⟨write, middle, first, -⟩
    exact ((standsFor_compileUpdateItem first).1 computed).1
  · intro sound
    rcases exists_compileTerm sound numbered with ⟨term, after, yields, -⟩
    have first : (compileUpdateItem schema member value).Yields before
        ⟨column.name, term⟩ after := by
      rw [compileUpdateItem, target, computed]
      exact yields_bind.mpr ⟨column, before, yields_ofExcept.mpr ⟨rfl, rfl⟩,
        yields_bind.mpr ⟨term, after, yields, yields_pure.mpr ⟨rfl, rfl⟩⟩⟩
    refine ⟨[⟨column.name, term⟩], after, ?_⟩
    exact yields_bind.mpr ⟨_, after, first, yields_bind.mpr ⟨[], after,
      yields_pure.mpr ⟨rfl, rfl⟩, yields_pure.mpr ⟨rfl, rfl⟩⟩⟩

/-- An update keeps the arithmetic of its assignments. What it writes for an assignment that is no
constant is read back as the tree of the assignment without conversions, and every constant has
a name of its own that was not given out before. All arithmetic over declared members and single
values is accepted, and nothing else. -/
theorem update_keeps_arithmetic (schema : Schema) (before : Scratch) :
    (∀ assignments writes after,
      (Write.compileUpdate schema (.assign assignments)).Yields before writes after →
        List.Forall₂ (fun assignment write => assignment.2.constant? = none →
            write.Keeps schema after.bindings assignment.2) assignments writes ∧
          before.bindings.Gives (writes.flatMap Write.placeholders) after.bindings) ∧
      ∀ member column value, before.bindings.Numbered →
        Write.targetOf schema member = .ok column → value.constant? = none →
          ((∃ writes after, (Write.compileUpdate schema (.assign [(member, value)])).Yields
            before writes after) ↔ Term.Expressible schema value) := by
  refine ⟨?_, fun _ _ _ => Write.exists_compileUpdate_iff⟩
  intro assignments writes after yields
  have each : (Write.compileEach (Write.compileUpdateItem schema) assignments).Yields
      before writes after := yields
  have keep := (Write.forall₂_compileEach
    (fun bindings assignment write => assignment.2.constant? = none →
      write.value.StandsFor schema bindings assignment.2)
    (fun grows stands computed => (stands computed).grows grows)
    (fun item => ⟨(Write.standsFor_compileUpdateItem item).2.grows,
      fun computed => ((Write.standsFor_compileUpdateItem item).1 computed).2⟩) each).2
  exact ⟨keep.imp fun _ _ stands computed => (stands computed).keeps,
    Write.gives_compileEach (fun item => (Write.standsFor_compileUpdateItem item).2) each⟩

def guestAgeing : Expr :=
  .binary (.compute .subtract) (.member "Age")
    (.unary .convert (.binary (.compute .multiply)
      (.binary (.compute .subtract) (.member "Age") (.constant (.int 1))) (.constant (.int 2))))

def guestAgeingTerm : Term :=
  .compute .subtract (.column "age")
    (.compute .multiply (.compute .subtract (.column "age") (.placeholder "@p0"))
      (.placeholder "@p1"))

theorem update_keeps_arithmetic_guests :
    ∃ after, (Write.compileUpdate guests (.assign [("Age", guestAgeing)])).Yields
        { bindings := .empty "@" } [⟨"age", guestAgeingTerm⟩] after ∧
      Term.read? "@" "\x60age\x60 - ((\x60age\x60 - @p0) * @p1)" = some guestAgeingTerm ∧
      guestAgeingTerm.StandsFor guests after.bindings guestAgeing ∧
      ["@p0", "@p1"].Nodup := by
  have compiled : ∃ after, (Write.compileUpdate guests (.assign [("Age", guestAgeing)])).Yields
      { bindings := .empty "@" } [⟨"age", guestAgeingTerm⟩] after := ⟨_, rfl⟩
  rcases compiled with ⟨after, yields⟩
  rcases (update_keeps_arithmetic guests _).1 _ _ _ yields with ⟨each, gives⟩
  rcases List.forall₂_cons.mp each with ⟨keeps, -⟩
  have sigil : after.bindings.sigil = "@" := gives.grows.sigil
  have reads := (keeps rfl).reads
  rw [sigil] at reads
  exact ⟨after, yields, reads distinctive_at, (keeps rfl).standsFor, gives.nodup⟩

end BoundSql.Sql
