import BoundSql.Value.Host
import BoundSql.Proofs.Calendar
import BoundSql.Proofs.Json.Tree
import BoundSql.Proofs.Number.Integer
import BoundSql.Proofs.Uuid

/-!
Texts of values, coerced back. A column of dates, of integers or of identifiers reads from the text
of such a value the value itself, the fraction of a second aside where the text has none. The main
statements are `dateTime_of_texts` and `integers_and_uuids_of_texts`.
-/

namespace BoundSql.Value

open Number

/-! ## Dates -/

theorem coerce_dateTime_text {text : List Char} {moment : DateTime}
    (read : DateTime.ofText? text = some moment) :
    coerce .dateTime (.text (String.ofList text)) = .ok (.dateTime moment) := by
  rw [coerce_eq_ok_iff, stored?, String.toList_ofList, read]
  rfl

theorem ofJson?_read?_dateTime (moment : DateTime) (budget : Nat) :
    (Json.read? (toJson (.dateTime moment)).compact.toList).bind (ofJson? budget) =
      some (.text (String.ofList moment.fullText)) := by
  have legible : (Json.ofText moment.fullText).Legible := .string moment.fullText
  rw [toJson, Json.compact, String.toList_ofList, Json.read?_write legible, Option.bind_some,
    Json.ofText, ofJson?, Json.unquote?, Json.unescape?_escape]
  rfl

/-- What a date comes back as: itself, if its nanoseconds stay within its second or its second is
the last one of its minute, and otherwise the date in the next second that its texts show. -/
structure ComesBackAs (moment back : DateTime) : Prop where
  same : moment.fields.nanosecond < 1000000000 ∨ moment.fields.second = 59 → back = moment
  next : ¬ (moment.fields.nanosecond < 1000000000 ∨ moment.fields.second = 59) →
    back.fields = { moment.fields with
      second := moment.fields.second + 1
      nanosecond := moment.fields.nanosecond - 1000000000 }

theorem comesBackAs_settled (moment : DateTime) : ComesBackAs moment moment.settled where
  same regular := DateTime.settled_eq_self_iff.mpr regular
  next past := by rw [moment.settled_fields, if_neg past]

/-- A date comes back from its JSON form as that shows it, which is as it was unless its second goes
on into the next one, and from its display without the fraction of the second; a leap second stays
one. -/
theorem dateTime_of_texts (moment : DateTime) :
    ∃ back : DateTime, ComesBackAs moment back ∧
      (∃ text, (∀ budget, (Json.read? (toJson (.dateTime moment)).compact.toList).bind
          (ofJson? budget) = some (.text text)) ∧
        coerce .dateTime (.text text) = .ok (.dateTime back)) ∧
      ∃ whole : DateTime,
        whole.fields = { back.fields with
          nanosecond := back.fields.nanosecond / 1000000000 * 1000000000 } ∧
        coerce .dateTime (.text (display (.dateTime moment))) = .ok (.dateTime whole) := by
  refine ⟨moment.settled, comesBackAs_settled moment, ?_, ?_⟩
  · exact ⟨_, ofJson?_read?_dateTime moment, coerce_dateTime_text moment.ofText?_fullText⟩
  · exact ⟨moment.withoutFraction, moment.withoutFraction_fields,
      coerce_dateTime_text moment.ofText?_plainText⟩

/-- A second that goes on for a second and a half, and is not the last one of its minute. -/
def longSecond : DateTime :=
  ⟨{ year := 2024, month := 3, day := 1, hour := 8, minute := 30, second := 30,
     nanosecond := 1500000000 }, by decide, by decide⟩

theorem longSecond_not_of_texts :
    (toJson (.dateTime longSecond)).compact = "\"2024-03-01T08:30:31.500\"" ∧
      coerce .dateTime (.text "2024-03-01T08:30:31.500") ≠ .ok (.dateTime longSecond) ∧
      display (.dateTime longSecond) = "2024-03-01 08:30:31" ∧
      ∀ whole nanosecond, whole.fields = { longSecond.fields with nanosecond } →
        coerce .dateTime (.text "2024-03-01 08:30:31") ≠ .ok (.dateTime whole) := by
  have full : String.ofList longSecond.fullText = "2024-03-01T08:30:31.500" := by rfl
  have plain : String.ofList longSecond.plainText = "2024-03-01 08:30:31" := by rfl
  refine ⟨by rfl, ?_, plain, ?_⟩
  · rw [← full, coerce_dateTime_text longSecond.ofText?_fullText]
    intro same
    have regular := DateTime.settled_eq_self_iff.mp (Value.dateTime.inj (Except.ok.inj same))
    exact absurd regular (by decide)
  · intro whole nanosecond kept
    rw [← plain, coerce_dateTime_text longSecond.ofText?_plainText]
    intro same
    have seconds := congrArg (·.fields.second) (Value.dateTime.inj (Except.ok.inj same))
    rw [kept] at seconds
    have early : longSecond.withoutFraction.fields.second = 30 := seconds
    exact absurd early (by decide)

example : (DateTime.ofText? "-0044-12-31T23:59:60.120".toList).map DateTime.plainText =
    some "-0044-12-31 23:59:60".toList := by
  decide

/-! ## Integers -/

theorem int64?_eq_some_iff {n : Int} {i : Int64} : int64? n = some i ↔ i.toInt = n := by
  have least : Int64.minValue.toInt = -0x8000000000000000 := by decide
  have largest : Int64.maxValue.toInt = 0x7FFFFFFFFFFFFFFF := by decide
  rw [int64?]
  constructor
  · intro fits
    split at fits
    next inside =>
        rw [Bool.and_eq_true, decide_eq_true_eq, decide_eq_true_eq] at inside
        rcases Option.some.inj fits with rfl
        exact Int64.toInt_ofInt_of_le (by omega) (by omega)
    next => contradiction
  · rintro rfl
    have low := i.le_toInt
    have high := i.toInt_lt
    rw [if_pos, Int64.ofInt_toInt]
    rw [Bool.and_eq_true, decide_eq_true_eq, decide_eq_true_eq]
    omega

theorem exists_toInt_eq_iff {n : Int} :
    (∃ i : Int64, i.toInt = n) ↔ -0x8000000000000000 ≤ n ∧ n < 0x8000000000000000 := by
  constructor
  · rintro ⟨i, rfl⟩
    have low := i.le_toInt
    have high := i.toInt_lt
    omega
  · rintro ⟨low, high⟩
    exact ⟨Int64.ofInt n, Int64.toInt_ofInt_of_le (by omega) (by omega)⟩

theorem intOfText?_eq_some_iff {s : String} {i : Int64} :
    intOfText? s = some i ↔ Says s.toList i.toInt := by
  rw [intOfText?, Option.bind_eq_some_iff]
  simp only [integerOf?_trim_eq_some_iff, int64?_eq_some_iff]
  constructor
  · rintro ⟨n, said, rfl⟩
    exact said
  · intro said
    exact ⟨_, said, rfl⟩

theorem coerce_int_text_eq_ok_iff {s : String} {i : Int64} :
    coerce .int (.text s) = .ok (.int i) ↔ Says s.toList i.toInt := by
  rw [coerce_eq_ok_iff, stored?, ← intOfText?_eq_some_iff]
  simp

theorem coerce_int_text_eq_error_iff {s : String} {error : CoercionError} :
    coerce .int (.text s) = .error error ↔
      (∀ n, Says s.toList n → ¬(-0x8000000000000000 ≤ n ∧ n < 0x8000000000000000)) ∧
        error = .mismatch .int (.text s) := by
  simp only [← exists_toInt_eq_iff]
  rw [coerce, stored?]
  cases read : intOfText? s with
  | some i =>
      have said := intOfText?_eq_some_iff.mp read
      constructor
      · intro failed
        contradiction
      · rintro ⟨none, -⟩
        exact absurd ⟨i, rfl⟩ (none _ said)
  | none =>
      have none : ∀ n, Says s.toList n → ¬∃ i : Int64, i.toInt = n := by
        rintro _ said ⟨i, rfl⟩
        rw [intOfText?_eq_some_iff.mpr said] at read
        contradiction
      constructor
      · rintro ⟨⟩
        exact ⟨none, rfl⟩
      · rintro ⟨-, rfl⟩
        rfl

theorem message_of_text (s : String) : (CoercionError.mismatch .int (.text s)).message =
    "Cannot convert text value \x60" ++ s ++ "\x60 to int" := by
  have front : "Cannot convert " ++ "text" ++ " value \x60" = "Cannot convert text value \x60" := by
    decide
  have behind : "\x60 to " ++ "int" = "\x60 to int" := by
    decide
  unfold CoercionError.message
  simp only [typeName, display, Kind.name]
  rw [front, String.append_assoc, behind]

/-! ## Integers of a host type -/

section

open HostType

variable {signed : Bool} {width : Nat} (host : HostType.integer signed width ∈ HostType.all)

include host

theorem range_le : -0x8000000000000000 ≤ low signed width ∧
    bound signed width ≤ 0x8000000000000000 := by
  simp only [HostType.all, List.mem_cons, HostType.integer.injEq, reduceCtorEq, List.not_mem_nil,
    or_false] at host
  rcases host with ⟨rfl, rfl⟩ | ⟨rfl, rfl⟩ | ⟨rfl, rfl⟩ | ⟨rfl, rfl⟩ | ⟨rfl, rfl⟩ | ⟨rfl, rfl⟩ |
    ⟨rfl, rfl⟩ <;> decide

theorem convert_of_says {s : String} {n : Int} (said : Says s.toList n) :
    (low signed width ≤ n ∧ n < bound signed width →
      ∃ i : Int64, i.toInt = n ∧ convert (.integer signed width) (.text s) = .ok (.int i)) ∧
    (¬(low signed width ≤ n ∧ n < bound signed width) →
      ∃ value, convert (.integer signed width) (.text s) = .error (.mismatch .int value)) := by
  have range := range_le host
  by_cases fits : -0x8000000000000000 ≤ n ∧ n < 0x8000000000000000
  · rcases exists_toInt_eq_iff.mpr fits with ⟨i, rfl⟩
    have read := coerce_int_text_eq_ok_iff.mpr said
    have converted : convert (.integer signed width) (.text s) =
        if low signed width ≤ i.toInt ∧ i.toInt < bound signed width then .ok (.int i)
        else .error (.mismatch .int (.int i)) := by
      rw [convert, HostType.kind, read]
      simp [admits]
    rw [converted]
    constructor
    · intro inside
      exact ⟨i, rfl, if_pos inside⟩
    · intro outside
      exact ⟨.int i, if_neg outside⟩
  · constructor
    · intro inside
      omega
    · have refused : coerce .int (.text s) = .error (.mismatch .int (.text s)) := by
        rw [coerce_int_text_eq_error_iff]
        refine ⟨fun m said' => ?_, rfl⟩
        rwa [said'.unique said]
      intro _
      exact ⟨.text s, by rw [convert, HostType.kind, refused]⟩

end

/-! ## Written and read -/

theorem coerce_text_eq {value : Value} {s : String} (written : stored? .text value = some (.text s))
    (kind : Kind) : (coerce .text value >>= coerce kind) = coerce kind (.text s) := by
  rw [coerce_eq_ok_iff.mpr written]
  rfl

theorem coerce_int_text_int (i : Int64) :
    (coerce .text (.int i) >>= coerce .int) = .ok (.int i) := by
  have written : stored? .text (.int i) = some (.text (intText i)) := rfl
  rw [coerce_text_eq written, coerce_int_text_eq_ok_iff, intText, String.toList_ofList]
  exact says_signedDigits i.toInt

theorem coerce_uuid_text_uuid (id : Uuid) :
    (coerce .text (.uuid id) >>= coerce .uuid) = .ok (.uuid id) := by
  have written : stored? .text (.uuid id) = some (.text (String.ofList id.toText)) := rfl
  rw [coerce_text_eq written, coerce_eq_ok_iff, stored?, String.toList_ofList,
    Uuid.ofText?_toText]
  rfl

/-- A text is an integer's if it says one that 64 bits hold, and an integer of a host type's if the
type holds it as well; any other text is refused. What is written for an integer or an identifier
is read as it. -/
theorem integers_and_uuids_of_texts :
    (∀ (s : String) (i : Int64),
      coerce .int (.text s) = .ok (.int i) ↔ Says s.toList i.toInt) ∧
    (∀ (s : String) (error : CoercionError), coerce .int (.text s) = .error error ↔
      (∀ n, Says s.toList n → ¬(-0x8000000000000000 ≤ n ∧ n < 0x8000000000000000)) ∧
        error = .mismatch .int (.text s)) ∧
    (∀ s : String, (CoercionError.mismatch .int (.text s)).message =
      "Cannot convert text value \x60" ++ s ++ "\x60 to int") ∧
    (∀ i : Int64, (coerce .text (.int i) >>= coerce .int) = .ok (.int i)) ∧
    (∀ signed width, HostType.integer signed width ∈ HostType.all → ∀ n : Int,
      (HostType.low signed width ≤ n ∧ n < HostType.bound signed width →
        ∃ i : Int64, i.toInt = n ∧
          HostType.convert (.integer signed width) (.text (String.ofList (signedDigits n))) =
            .ok (.int i)) ∧
      (¬(HostType.low signed width ≤ n ∧ n < HostType.bound signed width) →
        ∃ value,
          HostType.convert (.integer signed width) (.text (String.ofList (signedDigits n))) =
            .error (.mismatch .int value))) ∧
    (∀ id : Uuid, (coerce .text (.uuid id) >>= coerce .uuid) = .ok (.uuid id)) := by
  refine ⟨fun _ _ => coerce_int_text_eq_ok_iff, fun _ _ => coerce_int_text_eq_error_iff,
    message_of_text, coerce_int_text_int, fun signed width host n => convert_of_says host ?_,
    coerce_uuid_text_uuid⟩
  rw [String.toList_ofList]
  exact says_signedDigits n

theorem integers_and_uuids_of_texts_byte :
    (∃ i : Int64, i.toInt = -128 ∧
      HostType.convert (.integer true 8) (.text (String.ofList (signedDigits (-128)))) =
        .ok (.int i)) ∧
    (∃ value, HostType.convert (.integer true 8) (.text (String.ofList (signedDigits 128))) =
      .error (.mismatch .int value)) := by
  have host : HostType.integer true 8 ∈ HostType.all := by decide
  have reads := integers_and_uuids_of_texts.2.2.2.2.1 true 8 host
  exact ⟨(reads (-128)).1 (by decide), (reads 128).2 (by decide)⟩

example : coerce .int (.text "\t-0009223372036854775808\n") = .ok (.int Int64.minValue) := by
  rfl

example : coerce .int (.text "+ 1") = .error (.mismatch .int (.text "+ 1")) := by
  rfl

end BoundSql.Value
