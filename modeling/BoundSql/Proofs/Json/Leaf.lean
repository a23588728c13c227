import BoundSql.Json.Decoder
import BoundSql.Json.Reader
import BoundSql.Proofs.Number.Numeral

/-!
Strings and whole numbers inside a JSON text. What is escaped is read up to its closing quote
and denotes the text that it was made of; the digits of an integer are taken as one numeral, which
denotes the integer.
-/

namespace BoundSql.Json

open Number

/-! ## Escapes -/

/-- The forms that a character may have in a string. -/
inductive EscapedAs (c : Char) : List Char → Prop
  | letter {sign : Char} (other : sign ≠ 'u') (meaning : simpleEscape? sign = some c) :
      EscapedAs c ['\\', sign]
  | code (control : c.toNat < 0x20) :
      EscapedAs c ['\\', 'u', '0', '0', hexDigit (c.toNat / 16), hexDigit (c.toNat % 16)]
  | itself (notQuote : c ≠ '"') (notSlash : c ≠ '\\') (printable : ¬ c.toNat < 0x20) :
      EscapedAs c [c]

theorem eq_of_toNat_eq {c : Char} {code : Nat} (equal : c.toNat = code) : Char.ofNat code = c := by
  rw [← equal, Char.ofNat_toNat]

theorem escapedAs_escapeChar (c : Char) : EscapedAs c (escapeChar c) := by
  unfold escapeChar
  split
  next quote =>
    subst quote
    exact .letter (by decide) rfl
  next notQuote =>
  split
  next slash =>
    subst slash
    exact .letter (by decide) rfl
  next notSlash =>
  split
  next back =>
    have different : 'b' ≠ 'u' := by decide
    exact .letter different (congrArg some (eq_of_toNat_eq back))
  next =>
  split
  next feed =>
    have different : 'f' ≠ 'u' := by decide
    exact .letter different (congrArg some (eq_of_toNat_eq feed))
  next =>
  split
  next line =>
    subst line
    exact .letter (by decide) rfl
  next =>
  split
  next carriage =>
    subst carriage
    exact .letter (by decide) rfl
  next =>
  split
  next tab =>
    subst tab
    exact .letter (by decide) rfl
  next =>
  split
  next control => exact .code control
  next printable => exact .itself notQuote notSlash printable

theorem unitOf?_control {n : Nat} (control : n < 0x20) :
    unitOf? '0' '0' (hexDigit (n / 16)) (hexDigit (n % 16)) = some n := by
  have zero : hexValue? '0' = some 0 := by rfl
  have high := hexValue?_hexDigit (show n / 16 < 16 by omega)
  have low := hexValue?_hexDigit (show n % 16 < 16 by omega)
  simp only [unitOf?, zero, high, low, Option.some.injEq]
  omega

/-! ## The end of a string -/

theorem takeInside?_escapeChar (c : Char) (rest : List Char) :
    takeInside? (escapeChar c ++ rest) =
      (takeInside? rest).map (Prod.map (escapeChar c ++ ·) id) := by
  have form := escapedAs_escapeChar c
  generalize escapeChar c = row at form ⊢
  cases form with
  | letter other meaning =>
      cases taken : takeInside? rest <;> simp [takeInside?, other, meaning, taken, Prod.map]
  | code control =>
      cases taken : takeInside? rest <;>
        simp [takeInside?, unitOf?_control control, taken, Prod.map]
  | itself notQuote notSlash printable =>
      simp [takeInside?, notSlash, printable]
      rfl

theorem takeInside?_escape (text rest : List Char) :
    takeInside? (escape text ++ '"' :: rest) = some (escape text, rest) := by
  induction text with
  | nil => rfl
  | cons c text induction =>
      have more : escape (c :: text) = escapeChar c ++ escape text := List.flatMap_cons
      rw [more, List.append_assoc, takeInside?_escapeChar, induction]
      rfl

/-! ## What a string denotes -/

theorem unescape?_of_no_unit {a b c d : Char} (noUnit : unitOf? a b c d = none)
    (rest : List Char) : unescape? ('\\' :: 'u' :: a :: b :: c :: d :: rest) = none := by
  by_cases pair : ∃ e f g h more, rest = '\\' :: 'u' :: e :: f :: g :: h :: more
  · rcases pair with ⟨e, f, g, h, more, rfl⟩
    simp [unescape?, noUnit]
  · rw [unescape?.eq_3 _ _ _ _ _ (by simpa using pair), noUnit]

theorem unescape?_of_unit {a b c d : Char} {unit : Nat} (known : unitOf? a b c d = some unit)
    (notHigh : isHighSurrogate unit = false) (notLow : isLowSurrogate unit = false)
    (rest : List Char) :
    unescape? ('\\' :: 'u' :: a :: b :: c :: d :: rest) =
      (unescape? rest).map (Char.ofNat unit :: ·) := by
  by_cases pair : ∃ e f g h more, rest = '\\' :: 'u' :: e :: f :: g :: h :: more
  · rcases pair with ⟨e, f, g, h, more, rfl⟩
    rw [unescape?.eq_2, known]
    cases second : unitOf? e f g h with
    | none => rw [unescape?_of_no_unit second, Option.map_none]
    | some other => simp [notHigh, notLow]
  · rw [unescape?.eq_3 _ _ _ _ _ (by simpa using pair), known]
    simp [notHigh, notLow]

theorem unescape?_escapeChar (c : Char) (rest : List Char) :
    unescape? (escapeChar c ++ rest) = (unescape? rest).map (c :: ·) := by
  have form := escapedAs_escapeChar c
  generalize escapeChar c = row at form ⊢
  cases form with
  | letter other meaning => simp [unescape?, other, meaning]
  | code control =>
      have notHigh : isHighSurrogate c.toNat = false := by
        simp only [isHighSurrogate, Bool.and_eq_false_iff, decide_eq_false_iff_not]
        omega
      have notLow : isLowSurrogate c.toNat = false := by
        simp only [isLowSurrogate, Bool.and_eq_false_iff, decide_eq_false_iff_not]
        omega
      have read := unescape?_of_unit (unitOf?_control control) notHigh notLow rest
      rwa [Char.ofNat_toNat] at read
  | itself notQuote notSlash printable => simp [unescape?, notSlash]

theorem unescape?_escape (text : List Char) : unescape? (escape text) = some text := by
  induction text with
  | nil => rfl
  | cons c text induction =>
      have more : escape (c :: text) = escapeChar c ++ escape text := List.flatMap_cons
      rw [more, unescape?_escapeChar, induction]
      rfl

@[simp] theorem unquote?_escape (text : String) : unquote? (escape text.toList) = some text := by
  simp [unquote?, unescape?_escape]

@[simp] theorem string?_ofString (text : String) : string? (ofString text) = some text :=
  unquote?_escape text

/-! ## Whole numbers -/

def EndsNumeral (rest : List Char) : Prop :=
  ∀ c ∈ rest.head?, c.isDigit = false ∧ c ≠ '.' ∧ c ≠ 'e' ∧ c ≠ 'E'

theorem endsNumeral_nil : EndsNumeral [] := by simp [EndsNumeral]

theorem endsNumeral_cons {c : Char} (other : c.isDigit = false ∧ c ≠ '.' ∧ c ≠ 'e' ∧ c ≠ 'E')
    (rest : List Char) : EndsNumeral (c :: rest) := by
  simpa [EndsNumeral] using other

theorem takeWhole?_digits (n : Nat) {rest : List Char}
    (ends : ∀ c ∈ rest.head?, c.isDigit = false) :
    takeWhole? (digits n ++ rest) = some (digits n, rest) := by
  rcases Nat.eq_zero_or_pos n with rfl | positive
  · rfl
  rcases exists_digits_cons positive with ⟨c, row, shape, notZero⟩
  have span := span_append (fun _ => isDigit_of_mem_digits (n := n)) ends
  have left : (digits n ++ rest).drop (digits n).length = rest := List.drop_left
  rw [takeWhole?.eq_def]
  split
  next equal =>
    rw [shape, List.cons_append, List.cons.injEq] at equal
    exact absurd equal.1 notZero
  next => simp [span.1, left, digits_ne_nil]

theorem takeFraction?_of_ends {rest : List Char} (ends : EndsNumeral rest) :
    takeFraction? rest = some ([], rest) := by
  rw [takeFraction?.eq_def]
  split
  next => simp [EndsNumeral] at ends
  next => rfl

theorem takeExponent?_of_ends {rest : List Char} (ends : EndsNumeral rest) :
    takeExponent? rest = some ([], rest) := by
  cases rest with
  | nil => rfl
  | cons c rest =>
      have other := ends c rfl
      simp [takeExponent?, other.2.2.1, other.2.2.2]

theorem takeNumeral?_signedDigits (n : Int) {rest : List Char} (ends : EndsNumeral rest) :
    takeNumeral? (signedDigits n ++ rest) = some (signedDigits n, rest) := by
  have whole := takeWhole?_digits n.natAbs fun c first => (ends c first).1
  have fraction := takeFraction?_of_ends ends
  have exponent := takeExponent?_of_ends ends
  unfold signedDigits
  split
  next => simp [takeNumeral?, whole, fraction, exponent]
  next =>
    cases shape : digits n.natAbs with
    | nil => exact absurd shape (digits_ne_nil _)
    | cons c row =>
        have digit : c.isDigit = true :=
          isDigit_of_mem_digits (shape ▸ List.mem_cons_self .. : c ∈ digits n.natAbs)
        rw [shape] at whole
        rw [List.cons_append] at whole ⊢
        simp [takeNumeral?, (ne_sign_of_isDigit digit).1, whole, fraction, exponent]

theorem mem_signedDigits {n : Int} {c : Char} (member : c ∈ signedDigits n) :
    c = '-' ∨ c.isDigit = true := by
  unfold signedDigits at member
  split at member
  next => exact (List.mem_cons.mp member).imp_right isDigit_of_mem_digits
  next => exact .inr (isDigit_of_mem_digits member)

theorem exists_signedDigits_cons (n : Int) :
    ∃ c row, signedDigits n = c :: row ∧ (c = '-' ∨ c.isDigit = true) := by
  cases shape : signedDigits n with
  | nil =>
      unfold signedDigits at shape
      split at shape
      next => contradiction
      next => exact absurd shape (digits_ne_nil _)
  | cons c row => exact ⟨c, row, rfl, mem_signedDigits (shape ▸ List.mem_cons_self ..)⟩

theorem integerOf?_signedDigits (n : Int) : integerOf? (signedDigits n) = some n := by
  have areDigits : (digits n.natAbs).all Char.isDigit = true :=
    List.all_eq_true.mpr fun _ => isDigit_of_mem_digits
  unfold signedDigits
  split
  next negative =>
    simp only [integerOf?, splitSign, List.isEmpty_eq_false_iff.mpr (digits_ne_nil _), areDigits,
      Bool.not_true, Bool.or_self, Bool.false_eq_true, if_false, if_true, valueOf_digits,
      Option.some.injEq]
    omega
  next whole =>
    have unsigned : splitSign (digits n.natAbs) = (false, digits n.natAbs) := by
      cases shape : digits n.natAbs with
      | nil => rfl
      | cons c row =>
          have digit : c.isDigit = true :=
            isDigit_of_mem_digits (shape ▸ List.mem_cons_self .. : c ∈ digits n.natAbs)
          exact splitSign_minus false digit row
    simp only [integerOf?, unsigned, List.isEmpty_eq_false_iff.mpr (digits_ne_nil _), areDigits,
      Bool.not_true, Bool.or_self, Bool.false_eq_true, if_false, valueOf_digits,
      Option.some.injEq]
    omega

theorem quantityOf?_signedDigits {n : Int} (low : Int64.minValue.toInt ≤ n)
    (high : n < UInt64.size) : quantityOf? (signedDigits n) = some (.integer n) := by
  have whole : isWhole (signedDigits n) = true := by
    rw [isWhole, List.all_eq_true]
    intro c member
    rcases mem_signedDigits member with rfl | digit
    · decide
    · have outside : ∀ d ∈ ['.', 'e', 'E'], c ≠ d := by
        rintro d among rfl
        simp only [List.mem_cons, List.not_mem_nil, or_false] at among
        rcases among with rfl | rfl | rfl <;> contradiction
      simp [outside]
  have notMinusZero : signedDigits n ≠ "-0".toList := by
    intro equal
    have zero := integerOf?_signedDigits n
    rw [equal] at zero
    rcases (Option.some.inj zero : 0 = n) with rfl
    contradiction
  have integral : (isWhole (signedDigits n) && signedDigits n != "-0".toList) = true := by
    rw [whole, Bool.true_and, bne_iff_ne]
    exact notMinusZero
  rw [quantityOf?, if_pos integral, integerOf?_signedDigits]
  exact if_pos (by rw [decide_eq_true low, decide_eq_true high]; rfl)

end BoundSql.Json
