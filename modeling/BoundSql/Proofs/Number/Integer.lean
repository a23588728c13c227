import Mathlib.Data.List.Induction
import Mathlib.Data.Nat.Digits.Defs
import BoundSql.Proofs.Number.Digits
import BoundSql.Text.Blank

/-!
Integers in texts. A text says an integer if it is an optional sign and decimal digits, with blanks
around them or not; the integer is the sum of the digits by their places.
-/

namespace BoundSql.Number

open Text

/-! ## Places -/

def placeValue (row : List Char) : Nat := Nat.ofDigits 10 (row.reverse.map digitValue)

theorem valueOf_eq_placeValue (row : List Char) : valueOf row = placeValue row := by
  induction row using List.reverseRecOn with
  | nil => rfl
  | append_singleton row c induction =>
      have last : valueOf [c] = digitValue c := Nat.zero_add _
      rw [valueOf_append, induction, last, placeValue, placeValue, List.reverse_append,
        List.reverse_singleton, List.singleton_append, List.map_cons, Nat.ofDigits_cons,
        List.length_singleton, pow_one, Nat.add_comm]

/-! ## Numerals -/

structure AreDigits (row : List Char) : Prop where
  nonempty : row ≠ []
  all : ∀ c ∈ row, c.isDigit = true

/-- Whether a text is an integer's: an optional sign, then digits, with as many zeros in front of
them as there may be. -/
inductive Denotes : List Char → Int → Prop
  | plain {row : List Char} (digits : AreDigits row) : Denotes row (placeValue row)
  | plus {row : List Char} (digits : AreDigits row) : Denotes ('+' :: row) (placeValue row)
  | minus {row : List Char} (digits : AreDigits row) : Denotes ('-' :: row) (-(placeValue row : Int))

theorem areDigits_iff {row : List Char} :
    (row.isEmpty || !row.all Char.isDigit) = false ↔ AreDigits row := by
  constructor
  · intro sound
    simp only [Bool.or_eq_false_iff, Bool.not_eq_false', List.isEmpty_eq_false_iff,
      List.all_eq_true] at sound
    exact ⟨sound.1, sound.2⟩
  · rintro ⟨nonempty, all⟩
    simpa using ⟨nonempty, all⟩

theorem splitSign_of_unsigned {c : Char} (minus : c ≠ '-') (plus : c ≠ '+') (rest : List Char) :
    splitSign (c :: rest) = (false, c :: rest) := by
  simp [splitSign, minus, plus]

theorem AreDigits.splitSign {row : List Char} (digits : AreDigits row) :
    splitSign row = (false, row) := by
  cases row with
  | nil => rfl
  | cons c rest =>
      have unsigned := ne_sign_of_isDigit (digits.all c (List.mem_cons_self ..))
      exact splitSign_of_unsigned unsigned.1 unsigned.2 rest

theorem integerOf?_eq_some_iff {text : List Char} {n : Int} :
    integerOf? text = some n ↔ Denotes text n := by
  constructor
  · intro read
    unfold integerOf? at read
    cases sign : splitSign text with
    | mk negative row =>
        simp only [sign] at read
        split at read
        next => contradiction
        next sound =>
            have digits := areDigits_iff.mp (Bool.eq_false_iff.mpr sound)
            rw [valueOf_eq_placeValue] at read
            unfold splitSign at sign
            split at sign
            next =>
                rcases Prod.mk.inj sign with ⟨rfl, rfl⟩
                rcases Option.some.inj read with rfl
                exact .minus digits
            next =>
                rcases Prod.mk.inj sign with ⟨rfl, rfl⟩
                rcases Option.some.inj read with rfl
                exact .plus digits
            next =>
                rcases Prod.mk.inj sign with ⟨rfl, rfl⟩
                rcases Option.some.inj read with rfl
                exact .plain digits
  · intro denotes
    cases denotes with
    | plain digits =>
        simp [integerOf?, digits.splitSign, areDigits_iff.mpr digits, valueOf_eq_placeValue]
    | plus digits =>
        simp only [integerOf?, splitSign, areDigits_iff.mpr digits, valueOf_eq_placeValue]
        rfl
    | minus digits =>
        simp only [integerOf?, splitSign, areDigits_iff.mpr digits, valueOf_eq_placeValue]
        rfl

theorem areDigits_digits (n : Nat) : AreDigits (digits n) :=
  ⟨digits_ne_nil n, fun _ => isDigit_of_mem_digits⟩

theorem denotes_signedDigits (n : Int) : Denotes (signedDigits n) n := by
  have value : placeValue (digits n.natAbs) = n.natAbs := by
    rw [← valueOf_eq_placeValue, valueOf_digits]
  unfold signedDigits
  split
  next negative =>
      have denotes := Denotes.minus (areDigits_digits n.natAbs)
      rwa [value, Int.ofNat_natAbs_of_nonpos (Int.le_of_lt negative), Int.neg_neg] at denotes
  next positive =>
      have denotes := Denotes.plain (areDigits_digits n.natAbs)
      rwa [value, Int.natAbs_of_nonneg (Int.not_lt.mp positive)] at denotes

/-! ## Blanks -/

theorem exists_trim (text : List Char) :
    ∃ before after, text = before ++ trim text ++ after ∧
      (∀ c ∈ before, isBlank c = true) ∧ (∀ c ∈ after, isBlank c = true) := by
  have start := List.takeWhile_append_dropWhile (p := isBlank) (l := text)
  have rest := List.takeWhile_append_dropWhile (p := isBlank) (l := (trimStart text).reverse)
  refine ⟨text.takeWhile isBlank, ((trimStart text).reverse.takeWhile isBlank).reverse, ?_, ?_, ?_⟩
  · have behind := congrArg List.reverse rest
    rw [List.reverse_append, List.reverse_reverse] at behind
    rw [List.append_assoc, trim, trimEnd, behind, trimStart, start]
  · exact fun c => List.mem_takeWhile_imp
  · intro c among
    exact List.mem_takeWhile_imp (List.mem_reverse.mp among)

theorem trimStart_append {row : List Char} (nonempty : row ≠ [])
    (solid : ∀ c ∈ row, isBlank c = false) (rest : List Char) :
    trimStart (row ++ rest) = row ++ rest := by
  cases row with
  | nil => contradiction
  | cons c row => exact trimStart_eq_self (solid c (List.mem_cons_self ..))

theorem trim_surrounded {before row after : List Char} (nonempty : row ≠ [])
    (solid : ∀ c ∈ row, isBlank c = false) (blanks : ∀ c ∈ before, isBlank c = true)
    (blanks' : ∀ c ∈ after, isBlank c = true) : trim (before ++ row ++ after) = row := by
  have start : trimStart (before ++ row ++ after) = row ++ after := by
    rw [trimStart, List.append_assoc, List.dropWhile_append_of_pos blanks]
    exact trimStart_append nonempty solid after
  have blanksBehind : ∀ c ∈ after.reverse, isBlank c = true := by
    intro c among
    exact blanks' c (List.mem_reverse.mp among)
  have behind : row.reverse.dropWhile isBlank = row.reverse := by
    have reversed := trimStart_append (List.reverse_ne_nil_iff.mpr nonempty)
      (fun c among => solid c (List.mem_reverse.mp among)) []
    rwa [List.append_nil] at reversed
  rw [trim, start, trimEnd, List.reverse_append, List.dropWhile_append_of_pos blanksBehind, behind,
    List.reverse_reverse]

def Says (text : List Char) (n : Int) : Prop :=
  ∃ before row after, text = before ++ row ++ after ∧ (∀ c ∈ before, isBlank c = true) ∧
    (∀ c ∈ after, isBlank c = true) ∧ Denotes row n

theorem Denotes.nonempty {text : List Char} {n : Int} (denotes : Denotes text n) : text ≠ [] := by
  cases denotes with
  | plain digits => exact digits.nonempty
  | plus => exact List.cons_ne_nil _ _
  | minus => exact List.cons_ne_nil _ _

theorem AreDigits.solid {row : List Char} (digits : AreDigits row) :
    ∀ c ∈ row, isBlank c = false := by
  intro c among
  apply isBlank_of_isAlphanum
  rw [Char.isAlphanum, digits.all c among, Bool.or_true]

theorem Denotes.solid {text : List Char} {n : Int} (denotes : Denotes text n) :
    ∀ c ∈ text, isBlank c = false := by
  cases denotes with
  | plain digits => exact digits.solid
  | plus digits => exact List.forall_mem_cons.mpr ⟨by decide, digits.solid⟩
  | minus digits => exact List.forall_mem_cons.mpr ⟨by decide, digits.solid⟩

theorem integerOf?_trim_eq_some_iff {text : List Char} {n : Int} :
    integerOf? (trim text) = some n ↔ Says text n := by
  rw [integerOf?_eq_some_iff]
  constructor
  · intro denotes
    rcases exists_trim text with ⟨before, after, split, blanks, blanks'⟩
    exact ⟨before, _, after, split, blanks, blanks', denotes⟩
  · rintro ⟨before, row, after, rfl, blanks, blanks', denotes⟩
    rwa [trim_surrounded denotes.nonempty denotes.solid blanks blanks']

theorem Says.unique {text : List Char} {n m : Int} (first : Says text n) (second : Says text m) :
    n = m := by
  have read := integerOf?_trim_eq_some_iff.mpr first
  rw [integerOf?_trim_eq_some_iff.mpr second] at read
  exact (Option.some.inj read).symm

theorem says_signedDigits (n : Int) : Says (signedDigits n) n :=
  ⟨[], _, [], by simp, by simp, by simp, denotes_signedDigits n⟩

end BoundSql.Number
