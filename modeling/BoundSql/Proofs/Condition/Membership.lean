import BoundSql.Proofs.Condition.Truth

/-!
Membership in lists. In memory nothing is known of null, not even in an empty list, and null
among the items of a list is passed over; a database takes an empty list for false and a list
with null in it for unknown unless the value is found. The difference shows only below a
negation, and only where the list does not settle the matter.
-/

namespace BoundSql

open Entity Sql

theorem Truth.and_eq_true {a b : Truth} :
    a.and b = some true ↔ a = some true ∧ b = some true := by
  rcases a with - | (- | -) <;> rcases b with - | (- | -) <;> simp [Truth.and]

theorem Truth.or_eq_true {a b : Truth} :
    a.or b = some true ↔ a = some true ∨ b = some true := by
  rcases a with - | (- | -) <;> rcases b with - | (- | -) <;> simp [Truth.or]

theorem Truth.kept_eq_true (given : Prop) :
    Truth.Kept fun a b => given → (a = some true ↔ b = some true) where
  refl _ _ := Iff.rfl
  and first second holds := by
    rw [Truth.and_eq_true, Truth.and_eq_true, first holds, second holds]
  or first second holds := by
    rw [Truth.or_eq_true, Truth.or_eq_true, first holds, second holds]

namespace Expr

/-- Whether a list settles what a test for membership comes to: it has items if the value is
null, and otherwise it has the value or no null. -/
def Settles (value : Value) (items : List Value) : Prop :=
  if value.isNull then items ≠ []
  else (∃ item ∈ items, value.compare? item = some .eq) ∨ ∀ item ∈ items, item.isNull = false

/-- An expression all of whose tests for membership are settled by the values of a row. -/
def Settled (lookup : String → Value) (expr : Expr) : Prop :=
  ∀ test ∈ expr.memberships, Settles (lookup test.1) test.2

/-- An expression that compares no text with a date or an identifier, alone or in a list. -/
structure Legible (schema : Schema) (expr : Expr) : Prop where
  comparisons : ∀ test ∈ expr.comparisons, ∀ column ∈ schema.column? test.2.1,
    ¬ IsRead column test.2.2
  memberships : ∀ test ∈ expr.memberships, ∀ column ∈ schema.column? test.1,
    ∀ item ∈ test.2, ¬ IsRead column item

end Expr

namespace Sql.Condition

open BoundSql.Expr

/-! ## One test -/

section

variable (value : Value) (items : List Value)

/-- Memory and database make the same of a test that is settled, and only of such a test. -/
theorem isAmong_eq_membership_iff :
    isAmong value items = membership value items ↔ Settles value items := by
  unfold isAmong membership isIn Settles
  by_cases empty : items = []
  · subst empty
    cases value.isNull <;> simp
  · have nonempty : items.isEmpty = false := by simpa using empty
    rw [nonempty]
    cases value.isNull with
    | true => simpa using empty
    | false =>
        cases found : items.any fun item => value.compare? item == some .eq with
        | true =>
            have hit : ∃ item ∈ items, value.compare? item = some .eq := by simpa using found
            simpa using Or.inl hit
        | false =>
            have miss : ¬ ∃ item ∈ items, value.compare? item = some .eq := by simpa using found
            cases nulls : items.any Value.isNull with
            | true =>
                rcases List.any_eq_true.mp nulls with ⟨item, inside, null⟩
                have notSolid : ¬ ∀ item ∈ items, item.isNull = false := by
                  intro solid
                  rw [solid item inside] at null
                  contradiction
                simp [miss, notSolid]
            | false =>
                have solid : ∀ item ∈ items, item.isNull = false := by simpa using nulls
                simpa using Or.inr solid

theorem isAmong_eq_true_iff :
    isAmong value items = some true ↔ membership value items = some true := by
  unfold isAmong membership isIn
  cases items with
  | nil => cases value.isNull <;> simp
  | cons item items =>
      cases value.isNull with
      | true => simp
      | false =>
          cases (item :: items).any fun other => value.compare? other == some .eq with
          | true => simp
          | false => cases (item :: items).any Value.isNull <;> simp

end

/-! ## Trees -/

section

variable {schema : Schema} {lookup row : String → Value} {expr : Expr}

theorem Mirrors.of_legible {related : Truth → Truth → Prop} (refl : ∀ a, related a a)
    (legible : expr.Legible schema)
    (lists : ∀ test ∈ expr.memberships,
      related (isAmong (lookup test.1) test.2) (membership (lookup test.1) test.2)) :
    Mirrors related schema lookup expr where
  comparisons := by
    intro test inside column declared
    rw [reading_eq (legible.comparisons test inside column declared)]
    exact refl _
  memberships := by
    intro test inside column declared
    rw [map_reading (legible.memberships test inside column declared)]
    exact lists test inside

theorem StandsFor.truth_of_contains {bindings : Bindings} {target : Expr} {args : List Expr}
    {condition : Condition} {items : List Value} {name : String}
    (stands : StandsFor schema bindings (.call target .contains args) condition)
    (captured : target.constant? = some (.list items))
    (named : args.head?.bind member? = some name)
    (legible : (Expr.call target .contains args).Legible schema)
    (fits : ∀ column ∈ schema.columns, row column.name = lookup column.member) :
    condition.truth row bindings.valueOf = membership (lookup name) items := by
  cases stands with
  | like named' _ _ _ _ =>
      rw [constant?_of_member? named'] at captured
      contradiction
  | among captured' nonempty named' declared held =>
      rcases Value.list.inj (Option.some.inj (captured.symm.trans captured')) with rfl
      rcases Option.some.inj (named.symm.trans named') with rfl
      have inside : (name, items) ∈ (Expr.call target .contains args).memberships := by
        rw [memberships_call captured named]
        exact List.mem_singleton_self _
      rw [truth, map_valueOf held, map_reading (legible.memberships _ inside _ declared),
        membership, if_neg (by simpa using nonempty),
        fits _ (List.mem_of_find?_eq_some declared), member_of_column? declared]
  | nowhere captured' _ _ =>
      rcases Value.list.inj (Option.some.inj (captured.symm.trans captured')) with rfl
      rfl

/-- A condition with membership tests has one truth in memory and in a database wherever the
lists settle the tests, and without negation it selects the same rows in any case. A single test
has two truths exactly if its list does not settle it. -/
theorem evaluate_eq_truth_of_settled {sigil : String} {condition : Condition} {after : Scratch}
    (compiled : (compile schema expr).run (.empty sigil) = (.ok condition, after))
    (legible : expr.Legible schema)
    (fits : ∀ column ∈ schema.columns,
      column.kind.Admits (lookup column.member) ∧ row column.name = lookup column.member) :
    ∃ inMemory inDatabase, expr.evaluate lookup = .ok inMemory ∧
      condition.truth row after.bindings.valueOf = inDatabase ∧
      (expr.Settled lookup → inMemory = inDatabase) ∧
      (expr.Settled lookup ∨ expr.negates = false →
        expr.selects lookup = .ok (inDatabase == some true)) ∧
      (∀ target args items name, expr = .call target .contains args →
        target.constant? = some (.list items) → args.head?.bind member? = some name →
          inMemory = isAmong (lookup name) items ∧
          inDatabase = membership (lookup name) items ∧
          (inMemory = inDatabase ↔ Settles (lookup name) items)) ∧
      (Distinctive sigil → ∃ read, read? sigil condition.render = some read ∧
        read.truth row after.bindings.valueOf = inDatabase) := by
  rcases yields_compile (Compiler.run_eq_ok_iff.mp compiled) with ⟨grows, stands⟩
  have chosen : Mirrors (fun a b => expr.negates = false → (a = some true ↔ b = some true))
      schema lookup expr :=
    Mirrors.of_legible (fun _ _ => Iff.rfl) legible fun _ _ _ => isAmong_eq_true_iff _ _
  rcases stands.evaluate_of_mirrors (Truth.kept_eq_true _)
    (fun negates _ _ _ free => by simp [negates] at free) chosen fits with
    ⟨inMemory, evaluated, same⟩
  have settles (settled : expr.Settled lookup) :
      inMemory = condition.truth row after.bindings.valueOf := by
    have mirrors := Mirrors.of_legible (fun _ => rfl) legible fun test inside =>
      (isAmong_eq_membership_iff _ _).mpr (settled test inside)
    rcases stands.evaluate_of_mirrors Truth.kept_eq (fun _ _ _ => congrArg Truth.not) mirrors
      fits with ⟨truth, evaluated', equal⟩
    rw [← equal]
    exact Except.ok.inj (evaluated.symm.trans evaluated')
  refine ⟨inMemory, _, evaluated, rfl, settles, ?_, ?_, ?_⟩
  · intro either
    have selected : expr.selects lookup = .ok (inMemory == some true) := by
      rw [selects, evaluated]
      rfl
    have together : inMemory = some true ↔
        condition.truth row after.bindings.valueOf = some true := by
      rcases either with settled | free
      · rw [settles settled]
      · exact same free
    rw [selected, Except.ok.injEq, Bool.eq_iff_iff, beq_iff_eq, beq_iff_eq]
    exact together
  · intro target args items name equal captured named
    subst equal
    have database := stands.truth_of_contains captured named legible fun column declared =>
      (fits column declared).2
    rcases Except.ok.inj (evaluated.symm.trans (evaluate_contains captured named)) with rfl
    rw [database]
    exact ⟨rfl, rfl, isAmong_eq_membership_iff _ _⟩
  · intro distinctive
    exact stands.truth_of_text distinctive grows

end

def guestsOutside (ages : List Value) : Expr :=
  .unary .not (.call (.constant (.list ages)) .contains [.member "Age"])

def guestAged (age : Value) (member : String) : Value := if member = "Age" then age else .null

def columnsAged (age : Value) (column : String) : Value := if column = "age" then age else .null

theorem evaluate_eq_truth_of_settled_guests :
    (guestsOutside [.int 17, .null]).Settled (guestAged (.int 17)) ∧
      (guestsOutside [.int 17, .null]).evaluate (guestAged (.int 17)) = .ok (some false) ∧
      (Condition.not (.among "age" ["@p0", "@p1"])).truth (columnsAged (.int 17))
        (Bindings.valueOf { sigil := "@", next := 2
                            entries := [("@p0", .int 17), ("@p1", .null)] }) = some false := by
  have compiled : (compile guests (guestsOutside [.int 17, .null])).run (.empty "@") =
      (.ok (.not (.among "age" ["@p0", "@p1"])),
        { bindings := { sigil := "@", next := 2
                        entries := [("@p0", .int 17), ("@p1", .null)] } }) := by
    rfl
  have legible : (guestsOutside [.int 17, .null]).Legible guests := by
    constructor
    · simp [guestsOutside, comparisons]
    · intro test inside column _ item member read
      rcases read.2 with ⟨text, equal⟩
      simp [guestsOutside, memberships, constant?, member?, bare] at inside
      subst inside
      simp at member
      rcases member with rfl | rfl <;> contradiction
  have fits : ∀ column ∈ guests.columns,
      column.kind.Admits (guestAged (.int 17) column.member) ∧
        columnsAged (.int 17) column.name = guestAged (.int 17) column.member := by
    simp [guests, Kind.Admits, guestAged, columnsAged, Value.kind?]
  have settled : (guestsOutside [.int 17, .null]).Settled (guestAged (.int 17)) := by
    intro test inside
    simp [guestsOutside, memberships, constant?, member?, bare] at inside
    subst inside
    exact .inl ⟨.int 17, by simp, by decide⟩
  rcases evaluate_eq_truth_of_settled compiled legible fits with
    ⟨inMemory, inDatabase, evaluated, same, settles, _⟩
  have memory : (guestsOutside [.int 17, .null]).evaluate (guestAged (.int 17)) =
      .ok (some false) := by
    rfl
  rcases Except.ok.inj (evaluated.symm.trans memory) with rfl
  exact ⟨settled, memory, by rw [same, ← settles settled]⟩

/-- Null is outside an empty list for a database and not in memory; a number outside a list with
null is so in memory and not for a database. -/
theorem evaluate_ne_truth_of_unsettled :
    ((compile guests (guestsOutside [])).run (.empty "@")).1 = .ok (.not (.always false)) ∧
      (Condition.not (.always false)).truth (columnsAged .null) (fun _ => .null) = some true ∧
      (guestsOutside []).evaluate (guestAged .null) = .ok none ∧
      ((compile guests (guestsOutside [.int 1, .null])).run (.empty "@")).1 =
        .ok (.not (.among "age" ["@p0", "@p1"])) ∧
      (Condition.not (.among "age" ["@p0", "@p1"])).truth (columnsAged (.int 2))
        (Bindings.valueOf ((compile guests (guestsOutside [.int 1, .null])).run
          (.empty "@")).2.bindings) = none ∧
      (guestsOutside [.int 1, .null]).evaluate (guestAged (.int 2)) = .ok (some true) := by
  refine ⟨rfl, rfl, rfl, rfl, ?_, rfl⟩
  decide +kernel

end Sql.Condition

end BoundSql
