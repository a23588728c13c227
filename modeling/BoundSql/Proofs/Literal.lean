import BoundSql.Proofs.Calendar
import BoundSql.Proofs.Uuid
import BoundSql.Proofs.Number.Numeral
import BoundSql.Proofs.Spelling
import BoundSql.Sql.Bulk

/-!
Literals and what columns store for them. A literal is read as null, as a number or as a text,
and a column of the kind of the value stores for it what the value says, but for the fraction of
a second and the sign of a zero.
-/

namespace BoundSql

open Number

namespace Sql

open Token

/-! ## Quoted texts -/

theorem spells_text {sigil : String} (distinctive : Distinctive sigil) (text : String) :
    Spells sigil (quoteText text) [.literal text] := by
  intro rest breaks
  have ends : '\'' ∉ rest.head? := by
    intro member
    exact absurd (breaks _ member) (by decide)
  have silent := distinctive.not_isPrefixOf (c := '\'') (by decide)
  have dashes : ∀ text, startsLineComment ('\'' :: text) = false := by
    intro text
    simp [startsLineComment]
  have shape : (quoteText text).toList ++ rest =
      '\'' :: (text.toList.flatMap escapeTextChar ++ '\'' :: rest) := by
    simp [quoteText, escapeText]
  have one : readOne sigil.toList ('\'' :: (text.toList.flatMap escapeTextChar ++ '\'' :: rest)) =
      some (.literal text, rest) := by
    simp [readOne, silent, dashes, enclosed_text _ ends]
  rw [shape]
  exact readAll_cons (by decide) one (by simp; omega)

/-! ## Numerals -/

def unsignedTokens (numeral : Numeral) : List Token :=
  .number (String.ofList numeral.whole) ::
    if numeral.fraction.isEmpty then []
    else [.symbol ".", .number (String.ofList numeral.fraction)]

def numeralTokens (negative : Bool) (numeral : Numeral) : List Token :=
  if negative then .symbol "-" :: unsignedTokens numeral else unsignedTokens numeral

theorem toList_at : "@".toList = ['@'] := rfl

theorem readAll_minus {c : Char} (digit : c.isDigit = true) (rest : List Char) :
    readAll ['@'] ('-' :: c :: rest) =
      (readAll ['@'] (c :: rest)).map (.symbol "-" :: ·) := by
  have one : readOne ['@'] ('-' :: c :: rest) = some (.symbol "-", c :: rest) := by
    have single := (ne_sign_of_isDigit digit).1
    simp [readOne, startsLineComment, single, isNameChar, symbolAt, longSymbols]
  exact readAll_cons (by decide) one (by simp)

theorem readAll_point (rest : List Char) :
    readAll ['@'] ('.' :: rest) = (readAll ['@'] rest).map (.symbol "." :: ·) := by
  have one : readOne ['@'] ('.' :: rest) = some (.symbol ".", rest) := by
    simp [readOne, startsLineComment, isNameChar, symbolAt, longSymbols]
  exact readAll_cons (by decide) one (Nat.le_refl _)

theorem readAll_numeral (numeral : Numeral) {rest : List Char}
    (ends : ∀ c ∈ rest.head?, isNameChar c = false) :
    readAll ['@'] (numeral.text ++ rest) =
      (readAll ['@'] rest).map (unsignedTokens numeral ++ ·) := by
  rcases numeral with ⟨whole, fraction, nonempty, areDigits⟩
  rcases List.forall_mem_append.mp areDigits with ⟨digits, digits'⟩
  cases fraction with
  | nil =>
      have read := readAll_digits distinctive_at digits nonempty ends
      rw [Numeral.text, Numeral.pointed, List.isEmpty_nil, if_pos rfl, List.append_nil]
      exact read
  | cons d fraction =>
      have point : ∀ c ∈ ('.' :: (d :: fraction ++ rest)).head?, isNameChar c = false := by
        simp [isNameChar]
      have before := readAll_digits distinctive_at digits nonempty point
      have behind := readAll_digits distinctive_at digits' (by simp) ends
      rw [toList_at] at before behind
      rw [Numeral.text, Numeral.pointed, List.isEmpty_cons, if_neg Bool.false_ne_true,
        List.append_assoc, List.cons_append, before, readAll_point, behind]
      simp [unsignedTokens, Function.comp_def]

theorem spells_numeral (negative : Bool) (numeral : Numeral) :
    Spells "@" (String.ofList (minus negative ++ numeral.text))
      (numeralTokens negative numeral) := by
  intro rest breaks
  have unsigned := readAll_numeral numeral breaks.endsName
  rw [toList_at, String.toList_ofList, List.append_assoc]
  cases negative with
  | false => exact unsigned
  | true =>
      cases shape : numeral.whole with
      | nil => exact absurd shape numeral.nonempty
      | cons c whole =>
          have digit : c.isDigit = true := by
            apply numeral.areDigits
            rw [shape]
            exact List.mem_cons_self ..
          have signed := readAll_minus digit (whole ++ Numeral.pointed numeral.fraction ++ rest)
          have text : numeral.text ++ rest =
              c :: (whole ++ Numeral.pointed numeral.fraction ++ rest) := by
            rw [Numeral.text, shape]
            rfl
          rw [← text, unsigned] at signed
          simpa [minus, numeralTokens, Function.comp_def] using signed

end Sql

/-! ## What columns store -/

def Number.Decimal.integer? (number : Decimal) : Option Int :=
  if number.exponent = 0 then
    some (if number.negative then -(number.significand : Int) else number.significand)
  else none

def Number.Decimal.unsignedZero (number : Decimal) : Decimal :=
  { number with negative := number.negative && number.significand ≠ 0 }

/-- What a literal says of a value: the second that a moment is shown in without its fraction, and
a zero without its sign. -/
def Value.written : Value → Value
  | .float x => if x.rank = 0 then .float .zero else .float x
  | .dateTime moment => .dateTime moment.withoutFraction
  | value => value

def Value.IsWhole : Value → Prop
  | .float x => x.rank = 0 → x.negative = false
  | .dateTime moment => moment.fields.nanosecond = 0 ∨
      moment.fields.second = 59 ∧ moment.fields.nanosecond = 1000000000
  | _ => True

theorem Value.written_eq_self_iff {value : Value} : value.written = value ↔ value.IsWhole := by
  cases value with
  | float x =>
      rcases x with ⟨negative, rank, small⟩
      by_cases origin : rank = 0
      · simp [written, IsWhole, origin, Binary64.zero, eq_comm]
      · simp [written, IsWhole, origin]
  | dateTime moment =>
      rw [written, IsWhole, dateTime.injEq]
      exact DateTime.withoutFraction_eq_self_iff
  | _ => simp [written, IsWhole]

namespace Sql

inductive Datum where
  | null
  | number (number : Decimal)
  | text (inside : String)

namespace Datum

def numeral? : List Token → Option (List Char)
  | [.number whole] => some whole.toList
  | [.number whole, .symbol ".", .number fraction] =>
      some (whole.toList ++ '.' :: fraction.toList)
  | _ => none

def ofTokens? : List Token → Option Datum
  | [.word "null"] => some .null
  | [.literal inside] => some (.text inside)
  | .symbol "-" :: tokens => do
      let unsigned ← numeral? tokens
      return .number (← Decimal.ofText? ('-' :: unsigned))
  | tokens => do
      let unsigned ← numeral? tokens
      return .number (← Decimal.ofText? unsigned)

/-- What a column stores for a literal. Moments and identifiers are written as texts. -/
def storedAs? : Kind → Datum → Option Value
  | _, .null => some .null
  | .bool, .number decimal => some (.bool (decimal.significand ≠ 0))
  | .int, .number decimal => (decimal.integer?.bind Value.int64?).map .int
  | .float, .number decimal => some (.float decimal.unsignedZero.toBinary64)
  | .text, .text s => some (.text s)
  | .dateTime, .text s => (DateTime.ofText? s.toList).map .dateTime
  | .uuid, .text s => (Uuid.ofText? s.toList).map .uuid
  | _, _ => none

def read? (kind : Kind) (tokens : List Token) : Option Value :=
  (ofTokens? tokens).bind (storedAs? kind)

example : read? .float [.symbol "-", .number "0"] = some (.float .zero) := by rfl

theorem numeral?_unsignedTokens (numeral : Numeral) :
    numeral? (unsignedTokens numeral) = some numeral.text := by
  unfold unsignedTokens Numeral.text Numeral.pointed
  split <;> simp [numeral?]

theorem ofTokens?_numeralTokens (negative : Bool) (numeral : Numeral) :
    ofTokens? (numeralTokens negative numeral) = some (.number (numeral.decimal negative)) := by
  have text := ofText?_numeral numeral negative
  have unsigned := numeral?_unsignedTokens numeral
  cases negative with
  | true =>
      have signed : Decimal.ofText? ('-' :: numeral.text) = some (numeral.decimal true) := text
      rw [numeralTokens, if_pos rfl, ofTokens?, unsigned]
      simp [signed]
  | false =>
      have bare : Decimal.ofText? numeral.text = some (numeral.decimal false) := text
      have digits : ofTokens? (unsignedTokens numeral) =
          (do return .number (← Decimal.ofText? (← numeral? (unsignedTokens numeral)))) := rfl
      rw [numeralTokens, if_neg Bool.false_ne_true, digits, unsigned]
      simp [bare]

theorem read?_numeral (kind : Kind) (negative : Bool) (numeral : Numeral) :
    read? kind (numeralTokens negative numeral) =
      storedAs? kind (.number (numeral.decimal negative)) := by
  rw [read?, ofTokens?_numeralTokens, Option.bind_some]

end Datum

/-! ## Literals of values -/

/-- A text that is read as a literal for which a column of a kind stores a value. -/
def Says (kind : Kind) (text : String) (value : Value) : Prop :=
  ∃ tokens, Spells "@" text tokens ∧ Datum.read? kind tokens = some value

theorem says_null (kind : Kind) : Says kind "null" .null := by
  refine ⟨[.word "null"], spells_word distinctive_at (by decide), ?_⟩
  cases kind <;> rfl

theorem says_numeral {kind : Kind} {negative : Bool} {numeral : Numeral} {value : Value}
    (stored : Datum.storedAs? kind (.number (numeral.decimal negative)) = some value) :
    Says kind (String.ofList (minus negative ++ numeral.text)) value :=
  ⟨numeralTokens negative numeral, spells_numeral negative numeral,
    (Datum.read?_numeral kind negative numeral).trans stored⟩

theorem says_text {kind : Kind} {inside : String} {value : Value}
    (stored : Datum.storedAs? kind (.text inside) = some value) :
    Says kind (quoteText inside) value :=
  ⟨[.literal inside], spells_text distinctive_at inside, stored⟩

theorem says_truth (b : Bool) : Says .bool (Literal.truth b).render (.bool b) := by
  have digit : (Literal.truth b).render =
      String.ofList (minus false ++ (Numeral.ofNat b.toNat).text) := by
    cases b <;> rfl
  rw [digit]
  apply says_numeral
  cases b <;> rfl

theorem says_integer (n : Int64) : Says .int (Literal.integer n).render (.int n) := by
  rw [Literal.render, Value.intText, signedDigits_eq]
  apply says_numeral
  have whole : ((Numeral.ofNat n.toInt.natAbs).decimal (n.toInt < 0)).integer? = some n.toInt := by
    simp only [Decimal.integer?, Numeral.decimal, Numeral.ofNat, List.append_nil,
      valueOf_digits, List.length_nil, Int.natCast_zero, neg_zero, if_true, decide_eq_true_eq,
      Option.some.injEq]
    omega
  have fits : Value.int64? n.toInt = some n := by
    have bounds := And.intro n.minValue_le_toInt n.toInt_le
    rw [Value.int64?, if_pos (by simpa only [Bool.and_eq_true, decide_eq_true_eq] using bounds),
      Int64.ofInt_toInt]
  simp [Datum.storedAs?, whole, fits]

theorem says_float {x : Binary64} (finite : x.isFinite = true) :
    Says .float (Literal.float x).render (Value.float x).written := by
  rcases exists_numeral_of_float Value.floatLayout rfl rfl finite with
    ⟨numeral, text, reads, zero⟩
  have number : x.isNaN = false := by
    have small : x.rank < infinityRank := of_decide_eq_true finite
    exact decide_eq_false (Nat.lt_asymm small)
  rw [Literal.render, Value.floatText, if_neg (by simp [number]), if_pos finite, text]
  apply says_numeral
  rw [Datum.storedAs?, Value.written]
  split
  next origin =>
      have bare : (numeral.decimal x.negative).unsignedZero.toBinary64 = .zero := by
        simp [Decimal.unsignedZero, Decimal.toBinary64, Numeral.decimal, zero origin,
          Binary64.ofDecimal, Binary64.zero]
      rw [bare]
  next positive =>
      have digits : valueOf (numeral.whole ++ numeral.fraction) ≠ 0 := by
        intro nothing
        apply positive
        rw [← reads]
        simp [Decimal.toBinary64, Numeral.decimal, nothing, Binary64.ofDecimal]
      have same : (numeral.decimal x.negative).unsignedZero = numeral.decimal x.negative := by
        simp [Decimal.unsignedZero, Numeral.decimal, digits]
      rw [same, reads]

theorem says_ofValue {value : Value} {literal : Literal}
    (made : Literal.ofValue value = .ok literal) {kind : Kind}
    (fits : value = .null ∨ value.kind? = some kind) :
    Says kind literal.render value.written := by
  rcases fits with rfl | fits
  · rcases Except.ok.inj made with rfl
    exact says_null kind
  cases value with
  | null => contradiction
  | bool b =>
      rcases Option.some.inj fits with rfl
      rcases Except.ok.inj made with rfl
      exact says_truth b
  | int n =>
      rcases Option.some.inj fits with rfl
      rcases Except.ok.inj made with rfl
      exact says_integer n
  | float x =>
      rcases Option.some.inj fits with rfl
      rw [Literal.ofValue] at made
      split at made
      next finite =>
          rcases Except.ok.inj made with rfl
          exact says_float finite
      next => contradiction
  | text s =>
      rcases Option.some.inj fits with rfl
      rcases Except.ok.inj made with rfl
      exact says_text rfl
  | list items => contradiction
  | dateTime moment =>
      rcases Option.some.inj fits with rfl
      rcases Except.ok.inj made with rfl
      apply says_text
      rw [Datum.storedAs?, Value.display, String.toList_ofList, DateTime.ofText?_plainText]
      rfl
  | uuid id =>
      rcases Option.some.inj fits with rfl
      rcases Except.ok.inj made with rfl
      apply says_text
      rw [Datum.storedAs?, Value.display, String.toList_ofList, Uuid.ofText?_toText]
      rfl

end Sql

end BoundSql
