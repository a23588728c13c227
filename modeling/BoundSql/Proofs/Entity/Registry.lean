import BoundSql.Entity.Registry.Shared

/-!
Registries under concurrent use. Whoever takes turns in whatever order, an entry stays as it was
stored, all inquiries for one type get that entry, and those for other types and those that fail
could as well not have been made. `Orderly` puts this together.
-/

namespace BoundSql.Entity.Registry

/-! ## Entries -/

section

variable {registry : Registry} {type other : String} {schema stored : Schema}

theorem find?_append_of_none (absent : registry.find? type = none) (other : String) :
    Registry.find? { entries := registry.entries ++ [(type, schema)] } other =
      if other = type then some schema else registry.find? other := by
  rw [find?, List.lookup_append, List.lookup_cons, List.lookup_nil]
  by_cases same : other = type
  · subst same
    rw [find?] at absent
    simp [absent]
  · have different : (other == type) = false := by simpa using same
    simp [different, same, find?]

theorem keep_of_some (found : registry.find? type = some stored) :
    registry.keep type schema = (registry, stored) := by
  rw [keep, found]

theorem find?_keep (registry : Registry) (type : String) (schema : Schema) :
    (registry.keep type schema).1.find? type = some (registry.keep type schema).2 := by
  rw [keep.eq_def]
  split
  next stored found => exact found
  next absent => rw [find?_append_of_none absent, if_pos rfl]

theorem find?_keep_of_ne (different : other ≠ type) :
    (registry.keep type schema).1.find? other = registry.find? other := by
  rw [keep.eq_def]
  split
  next => rfl
  next absent => rw [find?_append_of_none absent, if_neg different]

theorem find?_keep_of_some (found : registry.find? other = some stored) :
    (registry.keep type schema).1.find? other = some stored := by
  by_cases same : other = type
  · subst same
    rw [keep_of_some found]
    exact found
  · rwa [find?_keep_of_ne same]

theorem find?_of_find?_keep (found : (registry.keep type schema).1.find? other = some stored) :
    registry.find? other = some stored ∨ other = type ∧ stored = schema := by
  by_cases same : other = type
  · subst same
    cases before : registry.find? other with
    | some first =>
        rw [keep_of_some before] at found
        exact .inl (before.symm.trans found)
    | none =>
        rw [keep, before] at found
        rw [find?_append_of_none before, if_pos rfl] at found
        exact .inr ⟨rfl, (Option.some.inj found).symm⟩
  · rw [find?_keep_of_ne same] at found
    exact .inl found

end

/-! ## Steps -/

namespace Inquiry

inductive Steps (registry : Registry) (type : String) (declaration : Declaration) :
    Inquiry → Registry × Inquiry → Prop
  | found {stored : Schema} (found : registry.find? type = some stored) :
      Steps registry type declaration .asking (registry, .answered (.ok stored))
  | missed (absent : registry.find? type = none) :
      Steps registry type declaration .asking (registry, .missed)
  | derived {schema : Schema} (resolved : Schema.resolve declaration = .ok schema) :
      Steps registry type declaration .missed (registry, .derived schema)
  | failed {error : SchemaError} (failed : Schema.resolve declaration = .error error) :
      Steps registry type declaration .missed (registry, .answered (.error error))
  | kept (schema : Schema) :
      Steps registry type declaration (.derived schema)
        ((registry.keep type schema).1, .answered (.ok (registry.keep type schema).2))
  | answered (answer : Except SchemaError Schema) :
      Steps registry type declaration (.answered answer) (registry, .answered answer)

theorem steps_step (registry : Registry) (type : String) (declaration : Declaration)
    (inquiry : Inquiry) :
    Steps registry type declaration inquiry (inquiry.step registry type declaration) := by
  cases inquiry with
  | asking =>
      rw [step]
      split
      next stored found => exact .found found
      next absent => exact .missed absent
  | missed =>
      rw [step]
      split
      next e failed => exact .failed failed
      next schema resolved => exact .derived resolved
  | derived schema => exact .kept schema
  | answered answer => exact .answered answer

section

variable {registry : Registry} {type : String} {declaration : Declaration} {inquiry : Inquiry}
  {result : Registry × Inquiry}

theorem Steps.keeps (steps : Steps registry type declaration inquiry result) {other : String}
    {stored : Schema} (found : registry.find? other = some stored) :
    result.1.find? other = some stored := by
  cases steps with
  | kept schema => exact find?_keep_of_some found
  | _ => exact found

theorem Steps.spares (steps : Steps registry type declaration inquiry result) {other : String}
    (different : other ≠ type) : result.1.find? other = registry.find? other := by
  cases steps with
  | kept schema => exact find?_keep_of_ne different
  | _ => rfl

theorem Steps.finds (steps : Steps registry type declaration inquiry result) {schema : Schema}
    (before : inquiry = .answered (.ok schema) → registry.find? type = some schema)
    (got : result.2 = .answered (.ok schema)) : result.1.find? type = some schema := by
  cases steps with
  | found found =>
      cases got
      exact found
  | kept derived =>
      cases got
      exact find?_keep registry type derived
  | answered answer => exact before got
  | failed _ => cases got
  | _ => contradiction

theorem Steps.entry (steps : Steps registry type declaration inquiry result) {other : String}
    {schema : Schema} (found : result.1.find? other = some schema) :
    registry.find? other = some schema ∨ type = other ∧ inquiry = .derived schema := by
  cases steps with
  | kept derived =>
      rcases find?_of_find?_keep found with before | ⟨rfl, rfl⟩
      · exact .inl before
      · exact .inr ⟨rfl, rfl⟩
  | _ => exact .inl found

theorem Steps.resolved (steps : Steps registry type declaration inquiry result) {schema : Schema}
    (derived : result.2 = .derived schema) : Schema.resolve declaration = .ok schema := by
  cases steps with
  | derived resolved =>
      cases derived
      exact resolved
  | _ => contradiction

theorem Steps.refused (steps : Steps registry type declaration inquiry result)
    {error : SchemaError} (failed : result.2 = .answered (.error error)) :
    inquiry = .answered (.error error) ∨ Schema.resolve declaration = .error error := by
  cases steps with
  | failed refused =>
      cases failed
      exact .inr refused
  | answered answer => exact .inl failed
  | _ => cases failed

theorem Steps.silent (steps : Steps registry type declaration inquiry result) :
    result.1 = registry ∨ ∃ schema, result.2 = .answered (.ok schema) := by
  cases steps with
  | kept schema => exact .inr ⟨_, rfl⟩
  | _ => exact .inl rfl

theorem Steps.eq_of_answered {answer : Except SchemaError Schema}
    (steps : Steps registry type declaration (.answered answer) result) :
    result = (registry, .answered answer) := by
  cases steps
  rfl

def left : Inquiry → Nat
  | .asking => 3
  | .missed => 2
  | .derived _ => 1
  | .answered _ => 0

theorem Steps.left_lt (steps : Steps registry type declaration inquiry result) :
    result.2.left ≤ inquiry.left - 1 := by
  cases steps <;> simp [left]

theorem exists_answer_of_left_eq_zero (done : inquiry.left = 0) :
    ∃ answer, inquiry = .answered answer := by
  cases inquiry with
  | answered answer => exact ⟨answer, rfl⟩
  | _ => contradiction

theorem step_congr {other : Registry} (same : registry.find? type = other.find? type) :
    (inquiry.step registry type declaration).2 = (inquiry.step other type declaration).2 ∧
      (inquiry.step registry type declaration).1.find? type =
        (inquiry.step other type declaration).1.find? type := by
  cases inquiry with
  | asking =>
      rw [step, step, ← same]
      cases registry.find? type <;> exact ⟨rfl, same⟩
  | missed =>
      rw [step, step]
      cases Schema.resolve declaration <;> exact ⟨rfl, same⟩
  | derived schema =>
      have kept : (registry.keep type schema).2 = (other.keep type schema).2 := by
        rw [keep, keep, ← same]
        cases registry.find? type <;> rfl
      refine ⟨congrArg (fun schema => answered (.ok schema)) kept, ?_⟩
      exact (find?_keep ..).trans ((congrArg some kept).trans (find?_keep ..).symm)
  | answered answer => exact ⟨rfl, same⟩

end

end Inquiry

/-! ## Turns -/

namespace Shared

open Inquiry

variable {types : Nat → String} {shared : Shared} {turn : Turn} {turns : List Turn}

theorem steps_take (types : Nat → String) (shared : Shared) (turn : Turn) :
    Steps shared.registry (types turn.caller) turn.declaration (shared.inquiries turn.caller)
      ((shared.take types turn).registry, (shared.take types turn).inquiries turn.caller) := by
  have steps := steps_step shared.registry (types turn.caller) turn.declaration
    (shared.inquiries turn.caller)
  simpa [take] using steps

theorem inquiries_take_of_ne {caller : Nat} (other : caller ≠ turn.caller) :
    (shared.take types turn).inquiries caller = shared.inquiries caller := if_neg other

theorem run_cons (turn : Turn) (turns : List Turn) :
    shared.run types (turn :: turns) = (shared.take types turn).run types turns := rfl

theorem run_append (turns others : List Turn) :
    shared.run types (turns ++ others) = (shared.run types turns).run types others :=
  List.foldl_append

theorem find?_run {type : String} {stored : Schema} (turns : List Turn)
    (found : shared.registry.find? type = some stored) :
    (shared.run types turns).registry.find? type = some stored := by
  induction turns generalizing shared with
  | nil => exact found
  | cons turn turns induction => exact induction ((steps_take types shared turn).keeps found)

theorem answered_take {caller : Nat} {answer : Except SchemaError Schema}
    (answered : shared.inquiries caller = .answered answer) :
    (shared.take types turn).inquiries caller = .answered answer := by
  by_cases own : caller = turn.caller
  · subst own
    have steps := steps_take types shared turn
    rw [answered] at steps
    exact congrArg Prod.snd steps.eq_of_answered
  · rw [inquiries_take_of_ne own, answered]

theorem answered_run {caller : Nat} {answer : Except SchemaError Schema} (turns : List Turn)
    (answered : shared.inquiries caller = .answered answer) :
    (shared.run types turns).inquiries caller = .answered answer := by
  induction turns generalizing shared with
  | nil => exact answered
  | cons turn turns induction => exact induction (answered_take answered)

def Honest (types : Nat → String) (shared : Shared) : Prop :=
  ∀ caller schema, shared.inquiries caller = .answered (.ok schema) →
    shared.registry.find? (types caller) = some schema

theorem Honest.take (honest : shared.Honest types) (turn : Turn) :
    (shared.take types turn).Honest types := by
  intro caller schema got
  have steps := steps_take types shared turn
  by_cases own : caller = turn.caller
  · subst own
    exact steps.finds (honest turn.caller schema) got
  · rw [inquiries_take_of_ne own] at got
    exact steps.keeps (honest caller schema got)

theorem Honest.run (honest : shared.Honest types) (turns : List Turn) :
    (shared.run types turns).Honest types := by
  induction turns generalizing shared with
  | nil => exact honest
  | cons turn turns induction => exact induction (honest.take turn)

/-! ## Where schemas and errors come from -/

/-- What is there after some turns was there before or comes out of one of them. -/
structure Traced (types : Nat → String) (start : Registry) (turns : List Turn) (shared : Shared) :
    Prop where
  entry : ∀ type schema, shared.registry.find? type = some schema →
    start.find? type = some schema ∨
      ∃ turn ∈ turns, types turn.caller = type ∧ Schema.resolve turn.declaration = .ok schema
  derived : ∀ caller schema, shared.inquiries caller = .derived schema →
    ∃ turn ∈ turns, turn.caller = caller ∧ Schema.resolve turn.declaration = .ok schema
  failed : ∀ caller error, shared.inquiries caller = .answered (.error error) →
    ∃ turn ∈ turns, turn.caller = caller ∧ Schema.resolve turn.declaration = .error error

theorem Traced.take {start : Registry} (traced : Traced types start turns shared) (turn : Turn) :
    Traced types start (turns ++ [turn]) (shared.take types turn) := by
  have old {holds : Turn → Prop} (found : ∃ turn ∈ turns, holds turn) :
      ∃ other ∈ turns ++ [turn], holds other := by
    rcases found with ⟨other, among, holds⟩
    exact ⟨other, List.mem_append_left _ among, holds⟩
  have new : turn ∈ turns ++ [turn] := by simp
  have steps := steps_take types shared turn
  constructor
  · intro type schema found
    rcases steps.entry found with before | ⟨same, derived⟩
    · exact (traced.entry type schema before).imp id old
    · rcases traced.derived _ schema derived with ⟨other, among, caller, resolved⟩
      exact .inr ⟨other, List.mem_append_left _ among, caller ▸ same, resolved⟩
  · intro caller schema derived
    by_cases own : caller = turn.caller
    · subst own
      exact ⟨turn, new, rfl, steps.resolved derived⟩
    · rw [inquiries_take_of_ne own] at derived
      exact old (traced.derived caller schema derived)
  · intro caller error failed
    by_cases own : caller = turn.caller
    · subst own
      rcases steps.refused failed with before | refused
      · exact old (traced.failed _ error before)
      · exact ⟨turn, new, rfl, refused⟩
    · rw [inquiries_take_of_ne own] at failed
      exact old (traced.failed caller error failed)

theorem Traced.run {start : Registry} {seen : List Turn} (traced : Traced types start seen shared)
    (turns : List Turn) : Traced types start (seen ++ turns) (shared.run types turns) := by
  induction turns generalizing shared seen with
  | nil => rwa [List.append_nil]
  | cons turn turns induction =>
      have rest := induction (traced.take turn)
      rwa [List.append_assoc, List.singleton_append] at rest

theorem traced_start (types : Nat → String) (start : Registry) :
    Traced types start [] { registry := start } :=
  ⟨fun _ _ found => .inl found, fun _ _ derived => (nomatch derived),
    fun _ _ failed => (nomatch failed)⟩

/-! ## Turns that make no difference -/

/-- Whether two registries and the inquiries for one type are the same as far as it goes. -/
structure AgreeOn (types : Nat → String) (type : String) (shared other : Shared) : Prop where
  entry : shared.registry.find? type = other.registry.find? type
  inquiries : ∀ caller, types caller = type → shared.inquiries caller = other.inquiries caller

variable {other : Shared} {type : String}

theorem AgreeOn.take (agree : AgreeOn types type shared other) (own : types turn.caller = type) :
    AgreeOn types type (shared.take types turn) (other.take types turn) := by
  have same := agree.inquiries turn.caller own
  subst own
  have steps := @step_congr shared.registry _ turn.declaration (other.inquiries turn.caller) _
    agree.entry
  constructor
  · simpa [take, same] using steps.2
  · intro caller asks
    by_cases first : caller = turn.caller
    · subst first
      simpa [take, same] using steps.1
    · rw [inquiries_take_of_ne first, inquiries_take_of_ne first]
      exact agree.inquiries caller asks

theorem AgreeOn.take_left (agree : AgreeOn types type shared other)
    (foreign : types turn.caller ≠ type) : AgreeOn types type (shared.take types turn) other := by
  constructor
  · exact ((steps_take types shared turn).spares foreign.symm).trans agree.entry
  · intro caller asks
    have different : caller ≠ turn.caller := by
      rintro rfl
      exact foreign asks
    rw [inquiries_take_of_ne different]
    exact agree.inquiries caller asks

theorem AgreeOn.run (agree : AgreeOn types type shared other) (turns : List Turn) :
    AgreeOn types type (shared.run types turns)
      (other.run types (turns.filter fun turn => types turn.caller = type)) := by
  induction turns generalizing shared other with
  | nil => exact agree
  | cons turn turns induction =>
      by_cases own : types turn.caller = type
      · rw [List.filter_cons_of_pos (by simpa using own)]
        exact induction (agree.take own)
      · rw [List.filter_cons_of_neg (by simpa using own)]
        exact induction (agree.take_left own)

/-- Whether two registries and all inquiries but one are the same. -/
structure AgreeBut (caller : Nat) (shared other : Shared) : Prop where
  registry : shared.registry = other.registry
  inquiries : ∀ others, others ≠ caller → shared.inquiries others = other.inquiries others

variable {caller : Nat}

theorem AgreeBut.take (agree : AgreeBut caller shared other) (different : turn.caller ≠ caller) :
    AgreeBut caller (shared.take types turn) (other.take types turn) := by
  have same := agree.inquiries turn.caller different
  constructor
  · simp [Shared.take, same, agree.registry]
  · intro others foreign
    simp [Shared.take, same, agree.registry, agree.inquiries others foreign]

theorem AgreeBut.take_left (agree : AgreeBut caller shared other) (own : turn.caller = caller)
    (without : ∀ schema, (shared.take types turn).inquiries caller ≠ .answered (.ok schema)) :
    AgreeBut caller (shared.take types turn) other := by
  subst own
  constructor
  · rcases (steps_take types shared turn).silent with same | ⟨schema, got⟩
    · exact same.trans agree.registry
    · exact absurd got (without schema)
  · intro others foreign
    rw [inquiries_take_of_ne foreign]
    exact agree.inquiries others foreign

theorem AgreeBut.run {error : SchemaError} (agree : AgreeBut caller shared other)
    (turns : List Turn)
    (failed : (shared.run types turns).inquiries caller = .answered (.error error)) :
    AgreeBut caller (shared.run types turns)
      (other.run types (turns.filter fun turn => turn.caller ≠ caller)) := by
  induction turns generalizing shared other with
  | nil => exact agree
  | cons turn turns induction =>
      by_cases own : turn.caller = caller
      · rw [List.filter_cons_of_neg (by simpa using own)]
        refine induction (agree.take_left own ?_) failed
        intro schema got
        rw [run_cons, answered_run turns got] at failed
        cases failed
      · rw [List.filter_cons_of_pos (by simpa using own)]
        exact induction (agree.take own) failed

/-! ## Progress -/

theorem left_run (types : Nat → String) (shared : Shared) (caller : Nat) (turns : List Turn) :
    ((shared.run types turns).inquiries caller).left ≤
      (shared.inquiries caller).left - turns.countP (·.caller = caller) := by
  induction turns generalizing shared with
  | nil => exact Nat.le_refl _
  | cons turn turns induction =>
      have rest := induction (shared.take types turn)
      rw [run_cons, List.countP_cons]
      by_cases own : caller = turn.caller
      · subst own
        have once := (steps_take types shared turn).left_lt
        simp only [decide_true, if_true] at once ⊢
        omega
      · have other : ¬ turn.caller = caller := fun same => own same.symm
        rw [inquiries_take_of_ne own] at rest
        simpa [other] using rest

/-- An inquiry whose steps nobody comes between is `Registry.resolve`. -/
theorem run_alone (asking : shared.inquiries caller = .asking) (declaration : Declaration) :
    let alone := shared.run types (List.replicate 3 ⟨caller, declaration⟩)
    (alone.registry, alone.inquiries caller) =
      ((shared.registry.resolve (types caller) declaration).1,
        .answered (shared.registry.resolve (types caller) declaration).2) := by
  have once (shared : Shared) (turn : Turn) : shared.take types turn =
      { registry := ((shared.inquiries turn.caller).step shared.registry (types turn.caller)
          turn.declaration).1
        inquiries := fun caller =>
          if caller = turn.caller then ((shared.inquiries turn.caller).step shared.registry
            (types turn.caller) turn.declaration).2
          else shared.inquiries caller } := rfl
  simp only [List.replicate, run_cons]
  cases found : shared.registry.find? (types caller) with
  | some stored => simp [run, once, asking, step, found, resolve]
  | none =>
      cases resolved : Schema.resolve declaration with
      | error e => simp [run, once, asking, step, found, resolved, resolve]
      | ok schema => simp [run, once, asking, step, found, resolved, resolve]

/-! ## Runs -/

def after (types : Nat → String) (start : Registry) (turns : List Turn) : Shared :=
  run types { registry := start } turns

/-- What is known of a registry after `turns`, and after those of them that come first: entries
and answers stay, callers for one type agree, those for other types and those that fail could as
well not have come, and nobody waits for anybody. -/
structure Orderly (types : Nat → String) (start : Registry) (turns : List Turn) : Prop where
  keeps : ∀ before later, turns = before ++ later → ∀ type stored,
    (after types start before).registry.find? type = some stored →
      (after types start turns).registry.find? type = some stored
  final : ∀ before later, turns = before ++ later → ∀ caller answer,
    (after types start before).inquiries caller = .answered answer →
      (after types start turns).inquiries caller = .answered answer
  agree : ∀ caller other schema schema', types caller = types other →
    (after types start turns).inquiries caller = .answered (.ok schema) →
      (after types start turns).inquiries other = .answered (.ok schema') →
        schema = schema' ∧ (after types start turns).registry.find? (types caller) = some schema
  resolved : ∀ type stored, (after types start turns).registry.find? type = some stored →
    start.find? type = some stored ∨
      ∃ turn ∈ turns, types turn.caller = type ∧ Schema.resolve turn.declaration = .ok stored
  apart : ∀ type, AgreeOn types type (after types start turns)
    (after types start (turns.filter fun turn => types turn.caller = type))
  refused : ∀ before later caller declaration error,
    turns = before ++ ⟨caller, declaration⟩ :: later →
      (after types start before).inquiries caller = .missed →
        Schema.resolve declaration = .error error →
          (after types start turns).inquiries caller = .answered (.error error)
  traceless : ∀ caller error,
    (after types start turns).inquiries caller = .answered (.error error) →
      (∃ turn ∈ turns, turn.caller = caller ∧ Schema.resolve turn.declaration = .error error) ∧
        AgreeBut caller (after types start turns)
          (after types start (turns.filter fun turn => turn.caller ≠ caller))
  answers : ∀ caller, 3 ≤ turns.countP (·.caller = caller) →
    ∃ answer, (after types start turns).inquiries caller = .answered answer
  alone : ∀ caller declaration, (after types start turns).inquiries caller = .asking →
    let next := after types start (turns ++ List.replicate 3 ⟨caller, declaration⟩)
    (next.registry, next.inquiries caller) =
      (((after types start turns).registry.resolve (types caller) declaration).1,
        .answered ((after types start turns).registry.resolve (types caller) declaration).2)

theorem honest_start (types : Nat → String) (start : Registry) :
    Honest types { registry := start } :=
  fun _ _ got => nomatch got

theorem answered_take_of_error {declaration : Declaration} {error : SchemaError}
    (missed : shared.inquiries caller = .missed)
    (refused : Schema.resolve declaration = .error error) :
    (shared.take types ⟨caller, declaration⟩).inquiries caller = .answered (.error error) := by
  simp [take, missed, step, refused]

/-- Callers that share a registry get one schema for one type, whatever order they take their turns
in, and a caller that fails or asks for another type makes no difference to them. -/
theorem run_orderly (types : Nat → String) (start : Registry) (turns : List Turn) :
    Orderly types start turns := by
  have honest := (honest_start types start).run turns
  have traced := (traced_start types start).run turns
  rw [List.nil_append] at traced
  constructor
  case keeps =>
    rintro before later rfl type stored found
    rw [after, run_append]
    exact find?_run later found
  case final =>
    rintro before later rfl caller answer answered
    rw [after, run_append]
    exact answered_run later answered
  case agree =>
    intro caller other schema schema' same got got'
    have found := honest caller schema got
    have found' := honest other schema' got'
    rw [← same, found] at found'
    exact ⟨Option.some.inj found', found⟩
  case resolved => exact traced.entry
  case apart =>
    intro type
    exact AgreeOn.run ⟨rfl, fun _ _ => rfl⟩ turns
  case refused =>
    rintro before later caller declaration error rfl missed refused
    rw [after, run_append, run_cons]
    exact answered_run later (answered_take_of_error missed refused)
  case traceless =>
    intro caller error failed
    exact ⟨traced.failed caller error failed, AgreeBut.run ⟨rfl, fun _ _ => rfl⟩ turns failed⟩
  case answers =>
    intro caller enough
    have rest := left_run types { registry := start } caller turns
    have three : ({ registry := start } : Shared).inquiries caller = .asking := rfl
    rw [three, left] at rest
    exact exists_answer_of_left_eq_zero (by rw [after]; omega)
  case alone =>
    intro caller declaration asking
    rw [after, run_append]
    exact run_alone asking declaration

/-- The second caller is faster, so the first one gets a schema that it has not derived. -/
example : (after (fun _ => "Guest") {}
    ([0, 1, 0, 1, 1, 0].map fun caller =>
      ⟨caller, if caller = 0 then "First" else "Second", some "guests", [], []⟩)).inquiries 0 =
        .answered (.ok ⟨"Second", "guests", [], []⟩) := by
  rfl

end Shared

end BoundSql.Entity.Registry
