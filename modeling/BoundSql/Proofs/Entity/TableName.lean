import Mathlib.Computability.RegularExpressions
import BoundSql.Entity.Schema

/-!
Table names as a regular language. A name is that of a table if all of it is in the language of
`[A-Za-z_][A-Za-z0-9_$]*`, which `tableName` spells out.
-/

namespace BoundSql.Entity

open RegularExpression

/-! ## Character classes -/

def charsBetween (first last : Char) : List Char :=
  (List.range' first.toNat (last.toNat + 1 - first.toNat)).map Char.ofNat

def anyOf : List Char → RegularExpression Char
  | [] => 0
  | c :: rest => char c + anyOf rest

def letters : List Char := charsBetween 'A' 'Z' ++ charsBetween 'a' 'z'

def tableName : RegularExpression Char :=
  anyOf (letters ++ ['_']) *
    star (anyOf (letters ++ charsBetween '0' '9' ++ ['_', '$']))

theorem mem_anyOf {chars : List Char} {text : List Char} :
    text ∈ (anyOf chars).matches' ↔ ∃ c ∈ chars, text = [c] := by
  induction chars with
  | nil => simp [anyOf, Language.notMem_zero]
  | cons c chars induction =>
      rw [anyOf, matches'_add, Language.mem_add, induction, List.exists_mem_cons_iff,
        matches'_char]
      rfl

theorem mem_star_anyOf {chars : List Char} {text : List Char} :
    text ∈ (star (anyOf chars)).matches' ↔ ∀ c ∈ text, c ∈ chars := by
  rw [matches'_star, Language.mem_kstar]
  constructor
  · rintro ⟨parts, rfl, each⟩ c among
    rcases List.mem_flatten.mp among with ⟨part, member, inside⟩
    rcases mem_anyOf.mp (each part member) with ⟨d, known, rfl⟩
    rwa [List.mem_singleton.mp inside]
  · intro known
    refine ⟨text.map fun c => [c], by simp [← List.flatMap_def], ?_⟩
    intro part member
    rcases List.mem_map.mp member with ⟨c, among, rfl⟩
    exact mem_anyOf.mpr ⟨c, known c among, rfl⟩

theorem toNat_ofNat_of_lt {code : Nat} (low : code < 0xd800) : (Char.ofNat code).toNat = code := by
  have valid : code.isValidChar := .inl low
  unfold Char.ofNat
  rw [dif_pos valid]
  rfl

theorem mem_charsBetween {first last c : Char} (low : last.toNat < 0xd800) :
    c ∈ charsBetween first last ↔ first.toNat ≤ c.toNat ∧ c.toNat ≤ last.toNat := by
  rw [charsBetween, List.mem_map]
  constructor
  · rintro ⟨code, inside, rfl⟩
    rw [List.mem_range'_1] at inside
    rw [toNat_ofNat_of_lt (by omega)]
    omega
  · rintro ⟨least, most⟩
    exact ⟨c.toNat, List.mem_range'_1.mpr (by omega), Char.ofNat_toNat c⟩

theorem isAlpha_iff {c : Char} : c.isAlpha = true ↔ c ∈ letters := by
  rw [letters, List.mem_append, mem_charsBetween (by decide), mem_charsBetween (by decide)]
  delta Char.isAlpha Char.isUpper Char.isLower
  simp [UInt32.le_iff_toNat_le]

theorem isDigit_iff {c : Char} : c.isDigit = true ↔ c ∈ charsBetween '0' '9' := by
  rw [mem_charsBetween (by decide)]
  delta Char.isDigit
  simp [UInt32.le_iff_toNat_le]

theorem startsTableName_iff {c : Char} :
    startsTableName c = true ↔ c ∈ letters ++ ['_'] := by
  simp [startsTableName, isAlpha_iff]

theorem continuesTableName_iff {c : Char} :
    continuesTableName c = true ↔ c ∈ letters ++ charsBetween '0' '9' ++ ['_', '$'] := by
  simp [continuesTableName, Char.isAlphanum, isAlpha_iff, isDigit_iff, or_assoc]

/-- The check of a table name is the one pattern. -/
theorem isTableName_iff {name : String} :
    isTableName name = true ↔ name.toList ∈ tableName.matches' := by
  rw [tableName, matches'_mul, Language.mem_mul, isTableName]
  simp only [mem_anyOf, mem_star_anyOf]
  constructor
  · intro sound
    split at sound
    next => contradiction
    next first rest text =>
        rw [Bool.and_eq_true, List.all_eq_true] at sound
        exact ⟨[first], ⟨first, startsTableName_iff.mp sound.1, rfl⟩, rest,
          fun c among => continuesTableName_iff.mp (sound.2 c among), text.symm⟩
  · rintro ⟨_, ⟨first, starts, rfl⟩, rest, each, text⟩
    rw [← text, List.singleton_append]
    dsimp only
    rw [Bool.and_eq_true, List.all_eq_true]
    exact ⟨startsTableName_iff.mpr starts, fun c among => continuesTableName_iff.mpr (each c among)⟩

end BoundSql.Entity
