import BoundSql.Value.Order
import BoundSql.Proofs.Number.Rounding
import BoundSql.Proofs.Condition.Truth

/-!
The order of values. Text, dates and identifiers have linear orders. A value that counts as a
number has a place among the floats, and the integers that share one place are ordered by
themselves, but a float at that place is equal to all of them. So two comparisons give the third
except about a float that several integers are rounded to.

The main statement is `compare?_coherent`.
-/

namespace BoundSql

/-! ## Two steps -/

def Along (first second : Ordering) : Prop := first = second ∨ first = .eq ∨ second = .eq

namespace Along

theorem refl (step : Ordering) : Along step step := .inl rfl

variable {first second : Ordering} (along : Along first second)

include along

theorem then_eq_left (moves : first ≠ .eq) : first.then second = first := by
  rcases along with rfl | stays | rfl
  · exact Ordering.then_self
  · contradiction
  · exact Ordering.then_eq

theorem then_eq_right (moves : second ≠ .eq) : first.then second = second := by
  rcases along with rfl | rfl | stays
  · exact Ordering.then_self
  · rfl
  · contradiction

end Along

theorem compare_then {α : Type} {cmp : α → α → Ordering} [Std.TransCmp cmp] {a b c : α}
    (along : Along (cmp a b) (cmp b c)) : cmp a c = (cmp a b).then (cmp b c) := by
  rcases along with same | stays | stays
  · rw [← same]
    cases step : cmp a b with
    | lt => exact Std.TransCmp.lt_trans step (same ▸ step)
    | eq => exact Std.TransCmp.eq_trans step (same ▸ step)
    | gt => exact Std.TransCmp.gt_trans step (same ▸ step)
  · rw [stays, Ordering.then, Std.TransCmp.congr_left stays]
  · rw [stays, Ordering.then_eq, Std.TransCmp.congr_right stays]

section

open Calendar

instance : Std.TransCmp DateTime.compare :=
  inferInstanceAs (Std.TransCmp
    (compareLex (compareOn (Fields.year ∘ DateTime.fields)) <|
      compareLex (compareOn (Fields.month ∘ DateTime.fields)) <|
      compareLex (compareOn (Fields.day ∘ DateTime.fields)) <|
      compareLex (compareOn (Fields.hour ∘ DateTime.fields)) <|
      compareLex (compareOn (Fields.minute ∘ DateTime.fields)) <|
      compareLex (compareOn (Fields.second ∘ DateTime.fields)) <|
      compareOn (Fields.nanosecond ∘ DateTime.fields)))

end

instance : Std.TransCmp Uuid.compare :=
  inferInstanceAs (Std.TransCmp (compareOn (BitVec.toNat ∘ Uuid.bits)))

/-! ## Quantities -/

inductive Quantity where
  | whole (n : Int)
  | float (place : Int)

namespace Quantity

def place : Quantity → Int
  | whole n => (Binary64.ofInt n).place
  | float place => place

/-- How two quantities at one place are ordered: a float is equal to all that is there. -/
def tie : Quantity → Quantity → Ordering
  | whole m, whole n => Ord.compare m n
  | _, _ => .eq

def compare : Quantity → Quantity → Ordering
  | whole m, whole n => Ord.compare m n
  | x, y => Ord.compare x.place y.place

theorem compare_eq_then (x y : Quantity) :
    x.compare y = (Ord.compare x.place y.place).then (x.tie y) := by
  cases x <;> cases y <;> simp only [compare, tie, place, Ordering.then_eq]
  next m n =>
      have down {first : Ordering} (le : first.isLE = true) : first.then .lt = .lt := by
        cases first <;> first | rfl | contradiction
      have up {first : Ordering} (ge : first.isGE = true) : first.then .gt = .gt := by
        cases first <;> first | rfl | contradiction
      cases step : Ord.compare m n with
      | lt =>
          have less := Int.compare_eq_lt.mp step
          exact (down (Int.isLE_compare.mpr
            (Binary64.place_ofInt_mono (Int.le_of_lt less)))).symm
      | eq =>
          rcases Int.compare_eq_eq.mp step with rfl
          rw [Ordering.then_eq, Int.compare_eq_eq.mpr rfl]
      | gt =>
          have more := Int.compare_eq_gt.mp step
          exact (up (Int.isGE_compare.mpr
            (Binary64.place_ofInt_mono (Int.le_of_lt more)))).symm

theorem compare_of_place_eq {x y : Quantity} (level : x.place = y.place) :
    x.compare y = x.tie y := by
  rw [compare_eq_then, Int.compare_eq_eq.mpr level]
  rfl

theorem compare_of_place_ne {x y : Quantity} (apart : x.place ≠ y.place) :
    x.compare y = Ord.compare x.place y.place := by
  rw [compare_eq_then]
  cases step : Ord.compare x.place y.place with
  | lt | gt => rfl
  | eq => exact absurd (Int.compare_eq_eq.mp step) apart

theorem compare_ne_eq {x y : Quantity} (apart : x.place ≠ y.place) : x.compare y ≠ .eq := by
  rw [compare_of_place_ne apart]
  exact fun step => apart (Int.compare_eq_eq.mp step)

theorem compare_swap (x y : Quantity) : y.compare x = (x.compare y).swap := by
  cases x <;> cases y <;> exact (Int.compare_swap _ _).symm

def Blurs : Quantity → Quantity → Quantity → Prop
  | float place, whole m, whole n =>
      m ≠ n ∧ (Binary64.ofInt m).place = place ∧ (Binary64.ofInt n).place = place
  | _, _, _ => False

/-- One of three quantities is a float at the place of the other two, which differ. -/
def Blurred (x y z : Quantity) : Prop := x.Blurs y z ∨ y.Blurs x z ∨ z.Blurs x y

section

variable {x y z : Quantity}

theorem Blurred.level (blurred : Blurred x y z) : x.place = y.place ∧ y.place = z.place := by
  cases x <;> cases y <;> cases z <;> simp_all [Blurred, Blurs, place]

variable (along : Along (x.compare y) (y.compare z))

include along

theorem compare_of_apart (apart : ¬ (x.place = y.place ∧ y.place = z.place)) :
    x.compare z = (x.compare y).then (y.compare z) := by
  by_cases first : x.place = y.place
  · have second : y.place ≠ z.place := fun second => apart ⟨first, second⟩
    rw [along.then_eq_right (compare_ne_eq second), compare_of_place_ne second,
      compare_of_place_ne (first ▸ second), first]
  · by_cases second : y.place = z.place
    · rw [along.then_eq_left (compare_ne_eq first), compare_of_place_ne first,
        compare_of_place_ne (second ▸ first), second]
    · have moves := compare_ne_eq first
      have left := along.then_eq_left moves
      rw [compare_of_place_ne first, compare_of_place_ne second] at along left
      rw [compare_of_place_ne first] at moves
      have places := (compare_then along).trans left
      have third : x.place ≠ z.place := by
        intro same
        exact moves (places.symm.trans (Int.compare_eq_eq.mpr same))
      rw [compare_of_place_ne first, compare_of_place_ne second, left,
        compare_of_place_ne third, places]

theorem compare_of_level (first : x.place = y.place) (second : y.place = z.place) :
    Along (x.compare z) ((x.compare y).then (y.compare z)) ∧
      (x.compare z = (x.compare y).then (y.compare z) ↔ ¬ Blurred x y z) := by
  rw [compare_of_place_eq first, compare_of_place_eq second] at along ⊢
  rw [compare_of_place_eq (first.trans second)]
  cases x <;> cases y <;> cases z
  case whole.whole.whole l m n =>
      have implied : Ord.compare l n = (Ord.compare l m).then (Ord.compare m n) :=
        compare_then along
      exact ⟨implied ▸ .refl _, iff_of_true implied (by simp [Blurred, Blurs])⟩
  -- A float takes part, so at most one of the three ties is between integers.
  all_goals
    have tied (m n : Int) : Ordering.eq = Ord.compare m n ↔ m = n :=
      eq_comm.trans Int.compare_eq_eq
    simp_all [tie, Blurred, Blurs, place, Along]

/-- Two steps imply the third or leave a tie, and imply it exactly if nothing is blurred. -/
theorem compare_trans :
    Along (x.compare z) ((x.compare y).then (y.compare z)) ∧
      (x.compare z = (x.compare y).then (y.compare z) ↔ ¬ Blurred x y z) := by
  by_cases level : x.place = y.place ∧ y.place = z.place
  · exact compare_of_level along level.1 level.2
  · have implied := compare_of_apart along level
    rw [implied]
    exact ⟨.refl _, iff_of_true rfl fun blurred => level blurred.level⟩

end

end Quantity

/-! ## Values -/

theorem Binary64.compare?_eq_some_iff {x y : Binary64} {step : Ordering} :
    x.compare? y = some step ↔
      x.isNaN = false ∧ y.isNaN = false ∧ Ord.compare x.place y.place = step := by
  simp [compare?, and_assoc]

theorem Binary64.equals_iff {x y : Binary64} :
    x.equals y = true ↔ x.isNaN = false ∧ y.isNaN = false ∧ x.place = y.place := by
  rw [equals, beq_iff_eq, compare?_eq_some_iff, Int.compare_eq_eq]

namespace Value

def quantity? : Value → Option Quantity
  | .bool b => some (.whole (intOf b).toInt)
  | .int n => some (.whole n.toInt)
  | .float x => if x.isNaN then none else some (.float x.place)
  | _ => none

theorem quantity?_eq_some_iff {a : Value} {x : Quantity} :
    a.quantity? = some x ↔
      (∃ b, a = .bool b ∧ .whole (intOf b).toInt = x) ∨
      (∃ n, a = .int n ∧ .whole n.toInt = x) ∨
      ∃ y, a = .float y ∧ y.isNaN = false ∧ .float y.place = x := by
  cases a <;> simp [quantity?]

def IsTruthWithFloat : Value → Value → Prop
  | .bool _, .float _ | .float _, .bool _ => True
  | _, _ => False

theorem IsTruthWithFloat.symm {a b : Value} (mixed : IsTruthWithFloat a b) :
    IsTruthWithFloat b a := by
  unfold IsTruthWithFloat at mixed
  split at mixed
  next => trivial
  next => trivial
  next => contradiction

theorem quantity?_float {x : Binary64} (number : x.isNaN = false) :
    (Value.float x).quantity? = some (.float x.place) := by
  simp [quantity?, number]

inductive Compares : Value → Value → Ordering → Prop
  | quantities {a b : Value} {x y : Quantity} (left : a.quantity? = some x)
      (right : b.quantity? = some y) (alike : ¬ IsTruthWithFloat a b) :
      Compares a b (x.compare y)
  | texts (a b : String) : Compares (.text a) (.text b) (Ord.compare a b)
  | dateTimes (a b : DateTime) : Compares (.dateTime a) (.dateTime b) (a.compare b)
  | uuids (a b : Uuid) : Compares (.uuid a) (.uuid b) (a.compare b)

theorem compare?_of_quantities {a b : Value} {x y : Quantity} (left : a.quantity? = some x)
    (right : b.quantity? = some y) (alike : ¬ IsTruthWithFloat a b) :
    a.compare? b = some (x.compare y) := by
  have floats {x y : Binary64} {step : Ordering} (number : x.isNaN = false)
      (number' : y.isNaN = false) (places : Ord.compare x.place y.place = step) :
      x.compare? y = some step :=
    Binary64.compare?_eq_some_iff.mpr ⟨number, number', places⟩
  rcases quantity?_eq_some_iff.mp left with
      ⟨_, rfl, rfl⟩ | ⟨m, rfl, rfl⟩ | ⟨y, rfl, number, rfl⟩ <;>
    rcases quantity?_eq_some_iff.mp right with
      ⟨_, rfl, rfl⟩ | ⟨n, rfl, rfl⟩ | ⟨z, rfl, number', rfl⟩
  · rfl
  · rfl
  · exact absurd trivial alike
  · rfl
  · rfl
  · exact floats (Binary64.isNaN_ofInt _) number' rfl
  · exact absurd trivial alike
  · exact floats number (Binary64.isNaN_ofInt _) rfl
  · exact floats number number' rfl

theorem compare?_eq_some_iff {a b : Value} {step : Ordering} :
    a.compare? b = some step ↔ Compares a b step := by
  have numbers {a b : Value} {x y : Quantity} (compares : a.compare? b = some step)
      (left : a.quantity? = some x) (right : b.quantity? = some y)
      (alike : ¬ IsTruthWithFloat a b) : Compares a b step := by
    rw [compare?_of_quantities left right alike] at compares
    rcases Option.some.inj compares with rfl
    exact .quantities left right alike
  constructor
  · intro compares
    have answer := compares
    unfold compare? at answer
    split at answer
    next => exact numbers compares rfl rfl id
    next =>
        have number := (Binary64.compare?_eq_some_iff.mp answer).2.1
        exact numbers compares rfl (quantity?_float number) id
    next =>
        have number := (Binary64.compare?_eq_some_iff.mp answer).1
        exact numbers compares (quantity?_float number) rfl id
    next =>
        rcases Binary64.compare?_eq_some_iff.mp answer with ⟨number, number', -⟩
        exact numbers compares (quantity?_float number) (quantity?_float number') id
    next => exact numbers compares rfl rfl id
    next => exact numbers compares rfl rfl id
    next => exact numbers compares rfl rfl id
    next =>
        rcases Option.some.inj answer with rfl
        exact .texts _ _
    next =>
        rcases Option.some.inj answer with rfl
        exact .dateTimes _ _
    next =>
        rcases Option.some.inj answer with rfl
        exact .uuids _ _
    next => contradiction
  · rintro (⟨left, right, alike⟩ | - | - | -)
    · exact compare?_of_quantities left right alike
    all_goals rfl

def Blurs : Value → Value → Value → Prop
  | .float x, .int m, .int n =>
      m ≠ n ∧ (Binary64.ofInt m.toInt).equals x ∧ (Binary64.ofInt n.toInt).equals x
  | _, _, _ => False

/-- One of three values is a float that is equal to the other two, which differ. -/
def Blurred (a b c : Value) : Prop := a.Blurs b c ∨ b.Blurs a c ∨ c.Blurs a b

instance (a b c : Value) : Decidable (Blurs a b c) := by
  unfold Blurs
  split <;> infer_instance

instance (a b c : Value) : Decidable (Blurred a b c) := by
  unfold Blurred
  infer_instance

theorem blurs_iff {a b c : Value} {x y z : Quantity} (first : a.quantity? = some x)
    (second : b.quantity? = some y) (third : c.quantity? = some z)
    (alike : ¬ IsTruthWithFloat a b) (alike' : ¬ IsTruthWithFloat a c) :
    a.Blurs b c ↔ x.Blurs y z := by
  rcases quantity?_eq_some_iff.mp first with
      ⟨_, rfl, rfl⟩ | ⟨_, rfl, rfl⟩ | ⟨x, rfl, number, rfl⟩
  · simp [Blurs, Quantity.Blurs]
  · simp [Blurs, Quantity.Blurs]
  rcases quantity?_eq_some_iff.mp second with
      ⟨_, rfl, rfl⟩ | ⟨m, rfl, rfl⟩ | ⟨_, rfl, -, rfl⟩
  · exact absurd trivial alike
  · rcases quantity?_eq_some_iff.mp third with
        ⟨_, rfl, rfl⟩ | ⟨n, rfl, rfl⟩ | ⟨_, rfl, -, rfl⟩
    · exact absurd trivial alike'
    · simp [Blurs, Quantity.Blurs, Binary64.equals_iff, Binary64.isNaN_ofInt, number,
        Int64.toInt_inj]
    · simp [Blurs, Quantity.Blurs]
  · simp [Blurs, Quantity.Blurs]

/-! ## Three values -/

theorem compare?_swap (a b : Value) : b.compare? a = (a.compare? b).map Ordering.swap := by
  have reversed {a b : Value} {step : Ordering} (compares : a.compare? b = some step) :
      b.compare? a = some step.swap := by
    rcases compare?_eq_some_iff.mp compares with ⟨left, right, alike⟩ | - | - | -
    · rw [compare?_of_quantities right left fun mixed => alike mixed.symm, Quantity.compare_swap]
    all_goals exact congrArg some Std.OrientedCmp.eq_swap
  cases compares : a.compare? b with
  | some step => exact reversed compares
  | none =>
      cases compares' : b.compare? a with
      | none => rfl
      | some step => exact absurd (reversed compares') (by simp [compares])

theorem compare?_trans {a b c : Value} {first second : Ordering}
    (compares : a.compare? b = some first) (compares' : b.compare? c = some second)
    (along : Along first second) (alike : ¬ IsTruthWithFloat a c) :
    ∃ third, a.compare? c = some third ∧ Along third (first.then second) ∧
      (third = first.then second ↔ ¬ Blurred a b c) := by
  have settled {third : Ordering} (compares : a.compare? c = some third)
      (implied : third = first.then second) (sharp : ¬ Blurred a b c) :
      ∃ third, a.compare? c = some third ∧ Along third (first.then second) ∧
        (third = first.then second ↔ ¬ Blurred a b c) :=
    ⟨third, compares, implied ▸ .refl _, iff_of_true implied sharp⟩
  rcases compare?_eq_some_iff.mp compares with ⟨left, middle, alike₁⟩ | ⟨s, t⟩ | ⟨s, t⟩ | ⟨s, t⟩
  case quantities =>
      rcases compare?_eq_some_iff.mp compares' with
        ⟨middle', right, alike₂⟩ | ⟨t, u⟩ | ⟨t, u⟩ | ⟨t, u⟩
      case quantities =>
          rcases Option.some.inj (middle.symm.trans middle') with rfl
          refine ⟨_, compare?_of_quantities left right alike, ?_⟩
          rw [Blurred, blurs_iff left middle right alike₁ alike,
            blurs_iff middle left right (fun mixed => alike₁ mixed.symm) alike₂,
            blurs_iff right left middle (fun mixed => alike mixed.symm)
              (fun mixed => alike₂ mixed.symm)]
          exact Quantity.compare_trans along
      all_goals contradiction
  all_goals
    rcases compare?_eq_some_iff.mp compares' with
      ⟨middle', right, alike₂⟩ | ⟨t, u⟩ | ⟨t, u⟩ | ⟨t, u⟩
    · contradiction
    exact settled rfl (compare_then along) (by simp [Blurred, Blurs])

/-- The order of values and the conditions that read it. Comparisons are turned around together,
and a condition on a member holds as its value compares with the constant. Of two comparisons
that go the same way the third is what they imply, up to a tie, and it is exactly that unless
one of the values is a float that the other two are rounded to. -/
theorem compare?_coherent :
    (∀ a b : Value, b.compare? a = (a.compare? b).map Ordering.swap) ∧
    (∀ (lookup : String → Value) (expr : Expr) (op : Comparison) (name : String) (value : Value),
      expr.comparison? = some (op, name, value) → value.isNull = false →
        expr.evaluate lookup = .ok (((lookup name).compare? value).map op.holds)) ∧
    ∀ (a b c : Value) (first second : Ordering), a.compare? b = some first →
      b.compare? c = some second → Along first second → ¬ IsTruthWithFloat a c →
      ∃ third, a.compare? c = some third ∧ Along third (first.then second) ∧
        (third = first.then second ↔ ¬ Blurred a b c) := by
  refine ⟨compare?_swap, ?_, fun a b c first second => compare?_trans⟩
  intro lookup expr op name value tests present
  rw [Expr.evaluate_of_comparison tests]
  simp [Expr.compareValues, present]

theorem compare?_coherent_rounded :
    (Expr.binary (.compare .lessThan) (.member "Size")
        (.constant (.int 9007199254740996))).evaluate (fun _ => .int 9007199254740993) =
      .ok (some true) := by
  have conditions := compare?_coherent.2.1 (fun _ => .int 9007199254740993)
    (.binary (.compare .lessThan) (.member "Size") (.constant (.int 9007199254740996)))
    .lessThan "Size" (.int 9007199254740996) rfl rfl
  rcases compare?_coherent.2.2 (.int 9007199254740993) (.float (.ofInt 9007199254740992))
      (.int 9007199254740996) .eq .lt (by decide +kernel) (by decide +kernel) (.inr (.inl rfl)) id
    with ⟨third, compares, -, implied⟩
  have sharp : ¬ Blurred (.int 9007199254740993) (.float (.ofInt 9007199254740992))
      (.int 9007199254740996) := by
    decide +kernel
  rw [conditions, compares, implied.mpr sharp]
  rfl

/-- Two integers that are rounded to one float are both equal to it but not to each other, and the
integer one is equal to a truth value and to a float that are not compared. -/
theorem compare?_incoherent :
    ((Value.int 9007199254740993).compare? (.float (.ofInt 9007199254740992)) = some .eq ∧
      (Value.float (.ofInt 9007199254740992)).compare? (.int 9007199254740992) = some .eq ∧
      (Value.int 9007199254740993).compare? (.int 9007199254740992) = some .gt) ∧
    (Value.bool true).compare? (.int 1) = some .eq ∧
      (Value.int 1).compare? (.float (.ofInt 1)) = some .eq ∧
      (Value.bool true).compare? (.float (.ofInt 1)) = none := by
  decide +kernel

end Value

end BoundSql
