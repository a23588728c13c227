import BoundSql.Text.Ranges

/-!
Blank characters and trimming. The blank characters are those with the property
White_Space; trimming removes them from one end of a text or from both.
-/

namespace BoundSql.Text

def blankRanges : Ranges :=
  [(0x9, 0xD), (0x20, 0x20), (0x85, 0x85), (0xA0, 0xA0), (0x1680, 0x1680),
   (0x2000, 0x200A), (0x2028, 0x2029), (0x202F, 0x202F), (0x205F, 0x205F),
   (0x3000, 0x3000)]

def isBlank (c : Char) : Bool := blankRanges.holds c

theorem isBlank_of_isWhitespace {c : Char} (blank : c.isWhitespace = true) :
    isBlank c = true := by
  simp only [Char.isWhitespace, Bool.or_eq_true, decide_eq_true_eq] at blank
  rcases blank with ((rfl | rfl) | rfl) | rfl <;> rfl

/-! ## Trimming -/

def trimStart (text : List Char) : List Char := text.dropWhile isBlank

def trimEnd (text : List Char) : List Char := (text.reverse.dropWhile isBlank).reverse

def trim (text : List Char) : List Char := trimEnd (trimStart text)

example : trim " a b\t".toList = "a b".toList := by decide

theorem trimStart_eq_self {c : Char} {rest : List Char} (solid : isBlank c = false) :
    trimStart (c :: rest) = c :: rest := by
  simp [trimStart, solid]

theorem trim_eq_self {text : List Char} (first : ∀ c ∈ text.head?, isBlank c = false)
    (last : ∀ c ∈ text.getLast?, isBlank c = false) : trim text = text := by
  have kept {row : List Char} (solid : ∀ c ∈ row.head?, isBlank c = false) :
      row.dropWhile isBlank = row := by
    cases row with
    | nil => rfl
    | cons c rest => exact trimStart_eq_self (solid c rfl)
  rw [trim, trimStart, kept first, trimEnd, kept (by simpa using last), List.reverse_reverse]

theorem isBlank_of_isAlphanum {c : Char} (solid : c.isAlphanum = true) : isBlank c = false := by
  cases blank : isBlank c with
  | false => rfl
  | true =>
      rcases (Ranges.holds_iff _ _).mp blank with ⟨run, member, low, high⟩
      have outside : run.2 < 48 ∨ 122 < run.1 := by
        have all : ∀ run ∈ blankRanges, run.2 < 48 ∨ 122 < run.1 := by decide
        exact all run member
      delta Char.isAlphanum Char.isAlpha Char.isUpper Char.isLower Char.isDigit at solid
      simp only [ge_iff_le, UInt32.le_iff_toNat_le, Bool.or_eq_true, Bool.and_eq_true,
        decide_eq_true_eq] at solid
      have bounds : '0'.val.toNat = 48 ∧ '9'.val.toNat = 57 ∧ 'A'.val.toNat = 65 ∧
          'Z'.val.toNat = 90 ∧ 'a'.val.toNat = 97 ∧ 'z'.val.toNat = 122 :=
        ⟨rfl, rfl, rfl, rfl, rfl, rfl⟩
      rw [Char.toNat] at low high
      omega

end BoundSql.Text
