import Mathlib.Data.List.Forall2
import BoundSql.Sql.Condition
import BoundSql.Sql.Write

/-!
Compilers taken apart. `Compiler.Yields` says that a compiler succeeds, and its lemmas
split a compiler that succeeds into the steps it is made of. Bindings only ever grow, so
what a placeholder stands for when it is made it stands for in the end.
-/

namespace BoundSql.Sql

theorem except_bind_eq_ok {first : Except ε α} {next : α → Except ε β} {result : β} :
    first >>= next = .ok result ↔ ∃ value, first = .ok value ∧ next value = .ok result := by
  cases first with
  | error e => simp [Bind.bind, Except.bind]
  | ok value => simp [Bind.bind, Except.bind]

theorem except_bind_eq_error {first : Except ε α} {next : α → Except ε β} {error : ε} :
    first >>= next = .error error ↔
      first = .error error ∨ ∃ value, first = .ok value ∧ next value = .error error := by
  cases first with
  | error e => simp [Bind.bind, Except.bind]
  | ok value => simp [Bind.bind, Except.bind]

theorem forM_eq_ok_iff {check : α → Except ε PUnit} {items : List α} :
    items.forM check = .ok ⟨⟩ ↔ ∀ item ∈ items, check item = .ok ⟨⟩ := by
  induction items with
  | nil => simp [Pure.pure, Except.pure]
  | cons item items induction =>
      rw [List.forM_eq_forM, List.forM_cons, except_bind_eq_ok, List.forall_mem_cons, ← induction]
      constructor
      · rintro ⟨_, first, others⟩
        exact ⟨first, others⟩
      · rintro ⟨first, others⟩
        exact ⟨⟨⟩, first, others⟩

theorem forall₂_of_mapM {make : α → Except CompileError β} {items : List α} {results : List β}
    (made : items.mapM make = .ok results) :
    List.Forall₂ (fun item result => make item = .ok result) items results := by
  induction items generalizing results with
  | nil =>
      rcases Except.ok.inj made with rfl
      exact .nil
  | cons item items induction =>
      simp only [List.mapM_cons, except_bind_eq_ok] at made
      rcases made with ⟨result, first, others, more, made⟩
      rcases Except.ok.inj made with rfl
      exact .cons first (induction more)

/-- The error of the first item that fails. -/
inductive FirstFailure (fails : α → CompileError → Prop) : List α → CompileError → Prop
  | here (failure : fails item error) : FirstFailure fails (item :: rest) error
  | later (passes : ∀ other, ¬ fails item other) (behind : FirstFailure fails rest error) :
      FirstFailure fails (item :: rest) error

theorem firstFailure_cons_iff {fails : α → CompileError → Prop} {item : α} {rest : List α}
    {error : CompileError} :
    FirstFailure fails (item :: rest) error ↔
      fails item error ∨ (∀ other, ¬ fails item other) ∧ FirstFailure fails rest error := by
  constructor
  · rintro (failure | ⟨passes, behind⟩)
    · exact .inl failure
    · exact .inr ⟨passes, behind⟩
  · rintro (failure | ⟨passes, behind⟩)
    · exact .here failure
    · exact .later passes behind

theorem mapM_eq_error_iff {make : α → Except CompileError β} {items : List α}
    {error : CompileError} :
    items.mapM make = .error error ↔
      FirstFailure (fun item error => make item = .error error) items error := by
  induction items with
  | nil =>
      refine ⟨fun failed => ?_, fun failure => nomatch failure⟩
      contradiction
  | cons item items induction =>
      rw [List.mapM_cons, firstFailure_cons_iff, except_bind_eq_error, ← induction]
      cases made : make item with
      | error other => simp
      | ok result => cases items.mapM make <;> simp

theorem exists_mapM_eq_ok_iff {make : α → Except CompileError β} {items : List α} :
    (∃ results, items.mapM make = .ok results) ↔
      ∀ item ∈ items, ∃ result, make item = .ok result := by
  induction items with
  | nil => simp [Pure.pure, Except.pure]
  | cons item items induction =>
      rw [List.forall_mem_cons, ← induction]
      simp only [List.mapM_cons, except_bind_eq_ok]
      constructor
      · rintro ⟨_, result, made, results, more, -⟩
        exact ⟨⟨result, made⟩, results, more⟩
      · rintro ⟨⟨result, made⟩, results, more⟩
        exact ⟨_, result, made, results, more, rfl⟩

/-! ## Bindings -/

namespace Bindings

structure Grows (before after : Bindings) : Prop where
  sigil : after.sigil = before.sigil
  entries : before.entries <+: after.entries

def Holds (bindings : Bindings) (name : String) (value : Value) : Prop :=
  (∃ number, name = nameOf bindings.sigil number) ∧ bindings.get? name = some value

def Knows (bindings : Bindings) (name : String) : Prop :=
  (∃ number, name = nameOf bindings.sigil number) ∧ name ∈ bindings.names

theorem Holds.knows {bindings : Bindings} {name : String} {value : Value}
    (holds : bindings.Holds name value) : bindings.Knows name := by
  rcases List.lookup_eq_some_iff.mp holds.2 with ⟨before, after, entries, -⟩
  refine ⟨holds.1, ?_⟩
  rw [names, entries]
  simp

theorem Grows.refl (bindings : Bindings) : bindings.Grows bindings := ⟨rfl, List.prefix_refl _⟩

theorem Grows.trans {first second third : Bindings} (left : first.Grows second)
    (right : second.Grows third) : first.Grows third :=
  ⟨right.sigil.trans left.sigil, left.entries.trans right.entries⟩

theorem Grows.get? {before after : Bindings} (grows : before.Grows after) {name : String}
    {value : Value} (found : before.get? name = some value) : after.get? name = some value := by
  rcases grows.entries with ⟨more, equal⟩
  rw [Bindings.get?, ← equal, List.lookup_append, ← Bindings.get?, found]
  rfl

theorem Grows.holds {before after : Bindings} (grows : before.Grows after) {name : String}
    {value : Value} (holds : before.Holds name value) : after.Holds name value :=
  ⟨grows.sigil ▸ holds.1, grows.get? holds.2⟩

theorem Grows.knows {before after : Bindings} (grows : before.Grows after) {name : String}
    (knows : before.Knows name) : after.Knows name :=
  ⟨grows.sigil ▸ knows.1, (grows.entries.map Prod.fst).subset knows.2⟩

theorem lookup_eq_none {entries : List (String × Value)} {name : String}
    (fresh : name ∉ entries.map Prod.fst) : entries.lookup name = none := by
  rw [List.lookup_eq_none_iff]
  intro entry member
  have different : name ≠ entry.1 := fun equal =>
    fresh (equal ▸ List.mem_map_of_mem member)
  simpa using different

theorem bind_eq_ok {bindings after : Bindings} {value : Value} {name : String}
    (bound : bindings.bind value = (.ok name, after)) :
    bindings.Grows after ∧ after.Holds name value := by
  rw [bind] at bound
  split at bound
  · simp at bound
  · next fresh =>
      simp only [Prod.mk.injEq, Except.ok.injEq] at bound
      rcases bound with ⟨rfl, rfl⟩
      have unknown := lookup_eq_none (by simpa [names] using fresh)
      refine ⟨⟨rfl, List.prefix_append _ _⟩, ⟨_, rfl⟩, ?_⟩
      rw [get?, List.lookup_append, unknown]
      simp

end Bindings

/-! ## Runs -/

namespace Compiler

/-- What a compiler ends with, and what it leaves behind. -/
def outcome (compiler : Compiler α) (before : Scratch) : Except CompileError α × Scratch :=
  compiler before

/-- The compiler succeeds with a result. -/
def Yields (compiler : Compiler α) (before : Scratch) (result : α) (after : Scratch) : Prop :=
  compiler.outcome before = (.ok result, after)

theorem run_eq_ok_iff {compiler : Compiler α} {bindings : Bindings} {result : α}
    {after : Scratch} :
    compiler.run bindings = (.ok result, after) ↔ compiler.Yields { bindings } result after :=
  Iff.rfl

section

variable {before after : Scratch}

theorem outcome_bind (first : Compiler α) (next : α → Compiler β) :
    (first >>= next).outcome before =
      match first.outcome before with
      | (.ok value, middle) => (next value).outcome middle
      | (.error e, middle) => (.error e, middle) := by
  have split : (first >>= next).outcome before =
      (ExceptT.bindCont next (first.outcome before).1 : StateM Scratch _)
        (first.outcome before).2 := rfl
  rw [split]
  rcases first.outcome before with ⟨- | value, middle⟩ <;> rfl

theorem yields_pure {result given : α} :
    Yields (pure given) before result after ↔ given = result ∧ before = after := by
  have run : (pure given : Compiler α).outcome before = (.ok given, before) := rfl
  simp [Yields, run]

theorem yields_throw {e : CompileError} {result : α} :
    ¬ Yields (throw e) before result after := by
  have run : (throw e : Compiler α).outcome before = (.error e, before) := rfl
  simp [Yields, run]

theorem yields_bind {first : Compiler α} {next : α → Compiler β} {result : β} :
    Yields (first >>= next) before result after ↔
      ∃ value middle, Yields first before value middle ∧
        Yields (next value) middle result after := by
  simp only [Yields, outcome_bind]
  rcases first.outcome before with ⟨- | value, middle⟩ <;> simp [and_assoc]

theorem yields_ofExcept {given : Except CompileError α} {result : α} :
    Yields (MonadExcept.ofExcept given) before result after ↔
      given = .ok result ∧ before = after := by
  cases given with
  | error e => simpa [MonadExcept.ofExcept] using yields_throw
  | ok value => simpa [MonadExcept.ofExcept] using yields_pure

theorem yields_orFail {e : CompileError} {found : Option α} {result : α} :
    Yields (Condition.orFail e found) before result after ↔
      found = some result ∧ before = after := by
  cases found with
  | none => simpa [Condition.orFail] using yields_throw
  | some value => simpa [Condition.orFail] using yields_pure

theorem yields_report {notice : Notice} {result : Unit} :
    Yields (report notice) before result after ↔
      { before with notices := before.notices ++ [notice] } = after := by
  have run : (report notice).outcome before =
      (.ok (), { before with notices := before.notices ++ [notice] }) := rfl
  simp [Yields, run]

theorem outcome_bindValue (value : Value) :
    (Compiler.bind value).outcome before =
      ((before.bindings.bind value).1,
        { before with bindings := (before.bindings.bind value).2 }) := by
  have split : (Compiler.bind value).outcome before =
      (MonadExcept.ofExcept (before.bindings.bind value).1 : Compiler String).outcome
        { before with bindings := (before.bindings.bind value).2 } := rfl
  rw [split]
  cases (before.bindings.bind value).1 <;> rfl

theorem Yields.bind {value : Value} {name : String}
    (yields : Yields (Compiler.bind value) before name after) :
    before.bindings.bind value = (.ok name, after.bindings) ∧ after.notices = before.notices := by
  simp only [Yields, outcome_bindValue, Prod.mk.injEq] at yields
  rcases yields with ⟨named, rfl⟩
  exact ⟨Prod.ext named rfl, rfl⟩

theorem Yields.held {value : Value} {name : String}
    (yields : Yields (Compiler.bind value) before name after) :
    before.bindings.Grows after.bindings ∧ after.bindings.Holds name value :=
  Bindings.bind_eq_ok yields.bind.1

end

end Compiler

end BoundSql.Sql
