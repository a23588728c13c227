import Mathlib.Algebra.Group.Nat.Defs
import Mathlib.Data.List.Basic
import BoundSql.Uuid

/-!
Identifiers written and read. A row of hexadecimal digits denotes what its width keeps of the
number it was printed from, and hyphens are put in and taken out without loss.
-/

namespace BoundSql

open Number Text

/-! ## Hexadecimal digits -/

namespace Number

theorem exists_of_mem_hexDigits {width n : Nat} {c : Char} (member : c ∈ hexDigits width n) :
    ∃ digit < 16, c = hexDigit digit := by
  induction width generalizing n with
  | zero => contradiction
  | succ width induction =>
      rcases List.mem_append.mp member with front | last
      · exact induction front
      · exact ⟨n % 16, Nat.mod_lt n (by decide), List.mem_singleton.mp last⟩

theorem isAlphanum_of_mem_hexDigits {width n : Nat} {c : Char}
    (member : c ∈ hexDigits width n) : c.isAlphanum = true := by
  have all : ∀ digit < 16, (hexDigit digit).isAlphanum = true := by decide
  rcases exists_of_mem_hexDigits member with ⟨digit, small, rfl⟩
  exact all digit small

theorem hexNumber?_hexDigits (width n : Nat) :
    hexNumber? (hexDigits width n) = some (n % 16 ^ width) := by
  induction width generalizing n with
  | zero => simp [hexDigits, hexNumber?, Nat.mod_one]
  | succ width induction =>
      have last := hexValue?_hexDigit (Nat.mod_lt n (by decide : 0 < 16))
      have front := induction (n / 16)
      rw [hexNumber?] at front ⊢
      rw [hexDigits, List.foldlM_append, front]
      simp only [Option.bind_eq_bind, Option.bind_some, List.foldlM_cons, List.foldlM_nil, last]
      rw [Nat.pow_succ', Nat.mod_mul]
      simp [Nat.add_comm]

end Number

namespace Uuid

/-! ## Hyphens -/

theorem flatten_groups (row : List Char) :
    row.take 8 ++ ((row.drop 8).take 4 ++ ((row.drop 12).take 4 ++
      ((row.drop 16).take 4 ++ row.drop 20))) = row := by
  have first := List.take_append_drop 4 (row.drop 8)
  have second := List.take_append_drop 4 (row.drop 12)
  have third := List.take_append_drop 4 (row.drop 16)
  rw [List.drop_drop] at first second third
  rw [third, second, first, List.take_append_drop]

theorem length_hyphenate {row : List Char} (length : row.length = 32) :
    (hyphenate row).length = 36 := by
  simp [hyphenate, length]

theorem mem_hyphenate {row : List Char} {c : Char} (member : c ∈ hyphenate row) :
    c = '-' ∨ c ∈ row := by
  have parts := congrArg (c ∈ ·) (flatten_groups row)
  simp only [List.mem_append, eq_iff_iff] at parts
  simp only [hyphenate, List.append_assoc, List.cons_append, List.mem_append,
    List.mem_cons] at member
  rw [← parts]
  tauto

theorem filter_hyphenate {row : List Char} (plain : ∀ c ∈ row, c ≠ '-') :
    (hyphenate row).filter (· ≠ '-') = row := by
  have kept {part : List Char} (inside : part ⊆ row) : part.filter (· ≠ '-') = part := by
    rw [List.filter_eq_self]
    intro c member
    simpa using plain c (inside member)
  have taken (n m : Nat) : (row.drop n).take m ⊆ row :=
    List.Subset.trans (List.take_subset ..) (List.drop_subset ..)
  have hyphen (rest : List Char) :
      ('-' :: rest).filter (· ≠ '-') = rest.filter (· ≠ '-') := by simp
  rw [hyphenate]
  simp only [List.append_assoc, List.cons_append, List.filter_append, hyphen,
    kept (taken _ _), kept (List.take_subset ..), kept (List.drop_subset ..)]
  exact flatten_groups row

theorem unhyphenate?_hyphenate {row : List Char} (plain : ∀ c ∈ row, c ≠ '-')
    (length : row.length = 32) : unhyphenate? (hyphenate row) = some row := by
  rw [unhyphenate?, filter_hyphenate plain]
  simp [length]

/-! ## Identifiers -/

theorem unwrap_hexDigit {digit : Nat} (small : digit < 16) (rest : List Char) :
    unwrap (hexDigit digit :: rest) = hexDigit digit :: rest := by
  have bare : ∀ digit < 16, hexDigit digit ≠ '\x7b' ∧ (hexDigit digit).toLower ≠ 'u' := by
    decide
  rcases bare digit small with ⟨brace, letter⟩
  simp [unwrap, brace, letter]

theorem trim_toText (id : Uuid) : trim id.toText = id.toText := by
  have plain : ∀ c ∈ id.toText, isBlank c = false := by
    intro c member
    rcases mem_hyphenate member with rfl | digit
    · decide
    · exact isBlank_of_isAlphanum (isAlphanum_of_mem_hexDigits digit)
  exact trim_eq_self (fun c first => plain c (List.mem_of_mem_head? first))
    (fun c last => plain c (List.mem_of_mem_getLast? last))

theorem ofText?_toText (id : Uuid) : ofText? id.toText = some id := by
  have length := length_hexDigits 32 id.bits.toNat
  have plain : ∀ c ∈ hexDigits 32 id.bits.toNat, c ≠ '-' := by
    rintro c member rfl
    exact absurd (isAlphanum_of_mem_hexDigits member) (by decide)
  have bare : unwrap id.toText = id.toText := by
    cases shape : hexDigits 32 id.bits.toNat with
    | nil =>
        rw [shape] at length
        contradiction
    | cons c row =>
        have member : c ∈ hexDigits 32 id.bits.toNat := by
          rw [shape]
          exact List.mem_cons_self ..
        rcases exists_of_mem_hexDigits member with ⟨digit, small, rfl⟩
        rw [toText, shape, hyphenate, List.take_succ_cons]
        exact unwrap_hexDigit small _
  have long : id.toText.length ≠ 32 := by
    rw [toText, length_hyphenate length]
    decide
  have small : id.bits.toNat % 16 ^ 32 = id.bits.toNat := Nat.mod_eq_of_lt id.bits.isLt
  rw [ofText?, trim_toText, read?, if_neg long, bare, toText, unhyphenate?_hyphenate plain length,
    Option.bind_some, hexNumber?_hexDigits, small]
  simp

end Uuid

end BoundSql
