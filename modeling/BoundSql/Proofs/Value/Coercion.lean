import BoundSql.Value.Host

/-!
What coercion comes to. A column leaves null and the values of its kind as they are, and what it
makes of any other value is of its kind, so coercion is done once for all; a value that it refuses
is named in the error as it was. A host type therefore fails for null, for a value that its kind
refuses and for an integer out of its range, and for nothing else.

The main statement is `coercion_lands`.
-/

namespace BoundSql

namespace Value

variable {kind : Kind} {value stored : Value}

theorem stored?_eq_self (own : value.kind? = some kind) : stored? kind value = some value := by
  cases value <;> cases own <;> rfl

theorem coerce_eq_ok_self_iff :
    coerce kind value = .ok value ↔ value = .null ∨ value.kind? = some kind := by
  rw [coerce_eq_ok_iff]
  constructor
  · exact kind_of_stored?
  · intro settled
    rcases settled with null | own
    · rw [null, ← coerce_eq_ok_iff]
      exact coerce_null kind
    · exact stored?_eq_self own

theorem coerce_eq_error_iff {error : CoercionError} :
    coerce kind value = .error error ↔
      stored? kind value = none ∧ error = .mismatch kind value := by
  unfold coerce
  cases stored? kind value with
  | none => simp [eq_comm]
  | some stored => simp

/-! ## Landing and refusal -/

/-- How the form of a value in a column is related to the value. -/
structure Lands (kind : Kind) (value stored : Value) : Prop where
  null_iff : stored = .null ↔ value = .null
  kind_eq : value ≠ .null → stored.kind? = some kind
  stable : coerce kind stored = .ok stored

structure Refused (kind : Kind) (value : Value) (error : CoercionError) : Prop where
  eq_mismatch : error = .mismatch kind value
  message_eq : error.message = "Cannot convert " ++ value.typeName ++ " value \x60" ++
    value.display ++ "\x60 to " ++ kind.name
  ne_null : value ≠ .null
  kind_ne : value.kind? ≠ some kind

theorem lands_of_coerce (coerced : coerce kind value = .ok stored) : Lands kind value stored := by
  have stores := coerce_eq_ok_iff.mp coerced
  have stable := coerce_eq_ok_self_iff.mpr (kind_of_stored? stores)
  rcases null_or_kind_of_stored? stores with ⟨null, null'⟩ | ⟨notNull, own⟩
  · exact ⟨iff_of_true null' null, fun notNull => absurd null notNull, stable⟩
  · have notNull' : stored ≠ .null := by
      intro null
      rw [null] at own
      contradiction
    exact ⟨iff_of_false notNull' notNull, fun _ => own, stable⟩

theorem exists_kind_ne_iff :
    (∃ stored, coerce kind value = .ok stored ∧ stored.kind? ≠ some kind) ↔ value = .null := by
  constructor
  · intro ⟨stored, coerced, other⟩
    rcases null_or_kind_of_stored? (coerce_eq_ok_iff.mp coerced) with ⟨null, -⟩ | ⟨-, own⟩
    · exact null
    · contradiction
  · intro null
    rw [null]
    exact ⟨.null, coerce_null kind, nofun⟩

theorem refused_of_coerce {error : CoercionError} (failed : coerce kind value = .error error) :
    Refused kind value error := by
  have unsettled : ¬(value = .null ∨ value.kind? = some kind) := by
    rw [← coerce_eq_ok_self_iff, failed]
    exact nofun
  rcases not_or.mp unsettled with ⟨notNull, other⟩
  rcases (coerce_eq_error_iff.mp failed).2 with rfl
  exact ⟨rfl, rfl, notNull, other⟩

end Value

/-! ## Host types -/

namespace HostType

open Value

/-- The values of a host type. Of the integers it has those within its range. -/
inductive Has : HostType → Value → Prop
  | integer {signed : Bool} {width : Nat} {n : Int64} (low_le : low signed width ≤ n.toInt)
      (lt_bound : n.toInt < bound signed width) : Has (.integer signed width) (.int n)
  | truth (b : Bool) : Has .truth (.bool b)
  | float (x : Binary64) : Has .float (.float x)
  | text (s : String) : Has .text (.text s)
  | dateTime (moment : DateTime) : Has .dateTime (.dateTime moment)
  | uuid (id : Uuid) : Has .uuid (.uuid id)

variable {host : HostType} {value stored : Value}

theorem has_iff : host.Has stored ↔ stored.kind? = some host.kind ∧ host.admits stored = true := by
  constructor
  · intro has
    cases has with
    | integer low_le lt_bound => exact ⟨rfl, by simpa [admits] using ⟨low_le, lt_bound⟩⟩
    | _ => exact ⟨rfl, rfl⟩
  · intro ⟨own, admitted⟩
    cases host <;> cases stored <;> cases own
    case integer.int.refl =>
        rw [admits, Bool.and_eq_true, decide_eq_true_eq, decide_eq_true_eq] at admitted
        exact .integer admitted.1 admitted.2
    all_goals constructor

theorem convert_null (host : HostType) :
    host.convert .null = .error (.unexpectedNull host.name) := by
  rw [convert, coerce_null]

theorem convert_of_refused {error : CoercionError}
    (failed : coerce host.kind value = .error error) : host.convert value = .error error := by
  rw [convert, failed]

theorem convert_of_coerced (notNull : value ≠ .null)
    (coerced : coerce host.kind value = .ok stored) :
    host.convert value =
      if host.admits stored then .ok stored else .error (.mismatch host.kind stored) := by
  have notNull' := mt (lands_of_coerce coerced).null_iff.mp notNull
  rw [convert, coerced]
  split
  next => contradiction
  next same => exact absurd (Except.ok.inj same) notNull'
  next kept _ same => rw [Except.ok.inj same]

theorem convert_eq_ok_iff :
    host.convert value = .ok stored ↔ coerce host.kind value = .ok stored ∧ host.Has stored := by
  by_cases null : value = .null
  · rw [null, convert_null, coerce_null]
    refine iff_of_false nofun ?_
    intro both
    rcases Except.ok.inj both.1 with rfl
    cases both.2
  cases coerced : coerce host.kind value with
  | error error =>
      rw [convert_of_refused coerced]
      exact iff_of_false nofun fun both => nomatch both.1
  | ok kept =>
      have own := (lands_of_coerce coerced).kind_eq null
      rw [convert_of_coerced null coerced, has_iff]
      constructor
      · intro converted
        split at converted
        next admitted =>
            rcases Except.ok.inj converted with rfl
            exact ⟨rfl, own, admitted⟩
        next => contradiction
      · intro ⟨same, _, admitted⟩
        rw [Except.ok.inj same, if_pos admitted]

theorem convert_eq_unexpectedNull_iff {name : String} :
    host.convert value = .error (.unexpectedNull name) ↔ value = .null ∧ name = host.name := by
  by_cases null : value = .null
  · rw [null, convert_null]
    simp [eq_comm]
  refine iff_of_false ?_ fun both => null both.1
  cases coerced : coerce host.kind value with
  | error error =>
      rw [convert_of_refused coerced, (refused_of_coerce coerced).eq_mismatch]
      exact nofun
  | ok kept =>
      rw [convert_of_coerced null coerced]
      split <;> exact nofun

theorem exists_int_of_not_has (own : stored.kind? = some host.kind) (outside : ¬host.Has stored) :
    ∃ n, stored = .int n ∧ host.kind = .int := by
  rw [has_iff, and_iff_right own] at outside
  cases host <;> cases stored <;> cases own
  case integer.int.refl n => exact ⟨n, rfl, rfl⟩
  all_goals exact absurd rfl outside

theorem convert_eq_error_iff (notNull : value ≠ .null) {error : CoercionError} :
    host.convert value = .error error ↔ coerce host.kind value = .error error ∨
      ∃ n, coerce host.kind value = .ok (.int n) ∧ ¬host.Has (.int n) ∧
        error = .mismatch .int (.int n) := by
  cases coerced : coerce host.kind value with
  | error cause =>
      rw [convert_of_refused coerced]
      simp
  | ok kept =>
      have own := (lands_of_coerce coerced).kind_eq notNull
      rw [convert_of_coerced notNull coerced]
      by_cases has : host.Has kept
      · rw [if_pos (has_iff.mp has).2]
        refine iff_of_false nofun ?_
        intro refused
        rcases refused with failed | ⟨n, same, outside, -⟩
        · contradiction
        · exact outside (Except.ok.inj same ▸ has)
      · rcases exists_int_of_not_has own has with ⟨n, rfl, kind⟩
        rw [if_neg fun admitted => has (has_iff.mpr ⟨own, admitted⟩), kind]
        constructor
        · intro same
          exact .inr ⟨n, rfl, has, (Except.error.inj same).symm⟩
        · intro refused
          rcases refused with failed | ⟨m, same, -, rfl⟩
          · contradiction
          · rw [Except.ok.inj same]

/-! ## Optional types -/

theorem convert_ne_null (host : HostType) (value : Value) : host.convert value ≠ .ok .null := by
  intro converted
  cases (convert_eq_ok_iff.mp converted).2

theorem convertOptional_of_ne_null (host : HostType) (notNull : value ≠ .null) :
    host.convertOptional value = host.convert value := by
  cases value with
  | null => contradiction
  | _ => rfl

theorem convertOptional_eq_ok_null_iff : host.convertOptional value = .ok .null ↔ value = .null := by
  by_cases null : value = .null
  · rw [null]
    exact iff_of_true rfl rfl
  · rw [convertOptional_of_ne_null host null]
    exact iff_of_false (convert_ne_null host value) null

end HostType

namespace Value

/-- Coercion lands in its kind, or in null for null, and stays there; what it refuses is named as
it was. So of what a column stores null alone is no value of the column's kind, and a conversion to
a host type fails for null, for what the column refuses and for integers out of range. -/
theorem coercion_lands :
    (∀ (kind : Kind) (value stored : Value),
      coerce kind value = .ok stored → Lands kind value stored) ∧
    (∀ (kind : Kind) (value : Value) (error : CoercionError),
      coerce kind value = .error error → Refused kind value error) ∧
    (∀ (host : HostType) (value : Value),
      ((∃ stored, coerce host.kind value = .ok stored ∧ stored.kind? ≠ some host.kind) ↔
        value = .null) ∧
      (∀ name, host.convert value = .error (.unexpectedNull name) ↔
        value = .null ∧ name = host.name) ∧
      (∀ stored, host.convert value = .ok stored ↔
        coerce host.kind value = .ok stored ∧ host.Has stored) ∧
      (host.convertOptional value = .ok .null ↔ value = .null) ∧
      (value ≠ .null → host.convertOptional value = host.convert value ∧
        ∀ error, host.convert value = .error error ↔ coerce host.kind value = .error error ∨
          ∃ n, coerce host.kind value = .ok (.int n) ∧ ¬host.Has (.int n) ∧
            error = .mismatch .int (.int n))) := by
  refine ⟨fun _ _ _ => lands_of_coerce, fun _ _ _ => refused_of_coerce, fun host value => ?_⟩
  refine ⟨exists_kind_ne_iff, fun _ => HostType.convert_eq_unexpectedNull_iff,
    fun _ => HostType.convert_eq_ok_iff, HostType.convertOptional_eq_ok_null_iff, ?_⟩
  intro notNull
  exact ⟨HostType.convertOptional_of_ne_null host notNull,
    fun _ => HostType.convert_eq_error_iff notNull⟩

theorem coercion_lands_byte :
    Lands .int (.text " +128\n") (.int 128) ∧
    Refused .bool (.int 2) (.mismatch .bool (.int 2)) ∧
    HostType.convert (.integer true 8) (.text " +128\n") = .error (.mismatch .int (.int 128)) := by
  have read : coerce .int (.text " +128\n") = .ok (.int 128) := by rfl
  rcases coercion_lands with ⟨lands, refused, converts⟩
  refine ⟨lands _ _ _ read, refused _ _ _ rfl, ?_⟩
  have fails := ((converts (.integer true 8) (.text " +128\n")).2.2.2.2 nofun).2
  refine (fails _).mpr (.inr ⟨128, read, ?_, rfl⟩)
  intro has
  cases has with
  | integer _ lt_bound => exact absurd lt_bound (by decide)

end Value

end BoundSql
