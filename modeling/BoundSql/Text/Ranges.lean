/-!
Sets of characters given as runs of code points. A property of the character
database is one such table; membership asks whether some run holds the code point.
-/

namespace BoundSql.Text

/-- Runs of code points, each with its first and its last member. -/
abbrev Ranges := List (Nat × Nat)

namespace Ranges

def holds (ranges : Ranges) (c : Char) : Bool :=
  ranges.any fun (first, last) => first ≤ c.toNat && c.toNat ≤ last

theorem holds_iff (ranges : Ranges) (c : Char) :
    ranges.holds c = true ↔
      ∃ run ∈ ranges, run.1 ≤ c.toNat ∧ c.toNat ≤ run.2 := by
  simp [holds]

end Ranges

end BoundSql.Text
