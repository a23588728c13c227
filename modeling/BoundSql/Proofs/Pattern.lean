import Mathlib.Data.List.Infix
import BoundSql.Proofs.Replacement
import BoundSql.Sql.Condition

/-!
Patterns of LIKE. `Matches` says which texts a pattern stands for, and `likes` is what a database
does to find out. An escaped text in a pattern matches itself only, so a pattern looks for exactly
the text it was made from; the main statement is `matches_escapePattern`.
-/

namespace BoundSql.Sql

/-- Whether a text matches a pattern as a whole. A percent sign stands for any characters,
an underscore for any one, and a backslash takes the next character literally. -/
def likes : (pattern text : List Char) → Bool
  | [], text => text.isEmpty
  | '%' :: pattern, text => text.tails.any (likes pattern)
  | '_' :: pattern, _ :: text => likes pattern text
  | '\\' :: c :: pattern, d :: text => c = d && likes pattern text
  | c :: pattern, d :: text => c = d && likes pattern text
  | _ :: _, [] => false

example : likes "%5\\%_".toList "a 5%!".toList = true := by decide

example : likes "%5\\%_".toList "a 55!".toList = false := by decide

/-- The texts that a pattern stands for. A backslash with nothing behind it is a character like
any other. -/
inductive Matches : (pattern text : List Char) → Prop
  | nil : Matches [] []
  | any (skipped : List Char) (rest : Matches pattern text) :
      Matches ('%' :: pattern) (skipped ++ text)
  | one (c : Char) (rest : Matches pattern text) : Matches ('_' :: pattern) (c :: text)
  | escaped (c : Char) (rest : Matches pattern text) : Matches ('\\' :: c :: pattern) (c :: text)
  | plain (notPercent : c ≠ '%') (notUnderscore : c ≠ '_') (last : c = '\\' → pattern = [])
      (rest : Matches pattern text) : Matches (c :: pattern) (c :: text)

theorem likes_nil_iff {text : List Char} : likes [] text = true ↔ text = [] := by
  simp [likes]

theorem likes_percent_iff {pattern text : List Char} :
    likes ('%' :: pattern) text = true ↔
      ∃ skipped rest, text = skipped ++ rest ∧ likes pattern rest = true := by
  rw [likes, List.any_eq_true]
  constructor
  · intro found
    rcases found with ⟨rest, member, matched⟩
    rcases (List.mem_tails _ _).mp member with ⟨skipped, rfl⟩
    exact ⟨skipped, rest, rfl, matched⟩
  · intro found
    rcases found with ⟨skipped, rest, rfl, matched⟩
    exact ⟨rest, (List.mem_tails _ _).mpr (List.suffix_append _ _), matched⟩

theorem likes_of_matches {pattern text : List Char} (found : Matches pattern text) :
    likes pattern text = true := by
  induction found with
  | nil => exact likes_nil_iff.mpr rfl
  | any skipped _ induction => exact likes_percent_iff.mpr ⟨skipped, _, rfl, induction⟩
  | one c _ induction => simp [likes, induction]
  | escaped c _ induction => simp [likes, induction]
  | plain notPercent notUnderscore last _ induction =>
      rw [likes]
      · simp [induction]
      · exact notPercent
      · exact notUnderscore
      · intro c pattern backslash more
        rw [last backslash] at more
        contradiction

theorem matches_of_likes {pattern text : List Char} :
    likes pattern text = true → Matches pattern text := by
  -- The search goes on with a shorter pattern behind every place a percent sign may end at.
  fun_cases likes pattern text with
  | case1 =>
      intro found
      rw [List.isEmpty_iff.mp found]
      exact .nil
  | case2 pattern =>
      intro found
      rcases List.any_eq_true.mp found with ⟨rest, member, matched⟩
      rcases (List.mem_tails _ _).mp member with ⟨skipped, rfl⟩
      exact .any skipped (matches_of_likes matched)
  | case3 pattern c text => exact fun found => .one c (matches_of_likes found)
  | case4 c pattern d text =>
      intro found
      rcases Bool.and_eq_true_iff.mp found with ⟨same, matched⟩
      rw [← of_decide_eq_true same]
      exact .escaped c (matches_of_likes matched)
  | case5 c pattern d text notPercent notUnderscore last =>
      intro found
      rcases Bool.and_eq_true_iff.mp found with ⟨same, matched⟩
      rw [← of_decide_eq_true same]
      refine .plain notPercent notUnderscore ?_ (matches_of_likes matched)
      intro backslash
      cases pattern with
      | nil => rfl
      | cons e pattern => exact absurd rfl (last e pattern backslash)
  | case6 =>
      intro found
      contradiction
termination_by pattern.length

theorem likes_iff_matches {pattern text : List Char} :
    likes pattern text = true ↔ Matches pattern text :=
  ⟨matches_of_likes, likes_of_matches⟩

instance (pattern text : List Char) : Decidable (Matches pattern text) :=
  decidable_of_iff _ likes_iff_matches

theorem likes_percent (text : List Char) : likes ['%'] text = true :=
  likes_percent_iff.mpr ⟨text, [], by simp, likes_nil_iff.mpr rfl⟩

theorem likes_escapePatternChar (c : Char) (pattern : List Char) {text : List Char} :
    likes (escapePatternChar c ++ pattern) text = true ↔
      ∃ rest, text = c :: rest ∧ likes pattern rest = true := by
  have reads : likes (escapePatternChar c ++ pattern) [] = false ∧
      ∀ d rest, likes (escapePatternChar c ++ pattern) (d :: rest) =
        (c = d && likes pattern rest) := by
    by_cases special : c = '\\' ∨ c = '%' ∨ c = '_'
    · rcases special with rfl | rfl | rfl <;> simp [escapePatternChar, likes]
    · simp only [not_or] at special
      rcases special with ⟨notBackslash, notPercent, notUnderscore⟩
      simp [escapePatternChar, likes, notBackslash, notPercent, notUnderscore]
  cases text with
  | nil => simp [reads.1]
  | cons d rest =>
      simp only [reads.2, Bool.and_eq_true, decide_eq_true_eq, List.cons.injEq]
      constructor
      · intro found
        rcases found with ⟨rfl, matched⟩
        exact ⟨rest, ⟨rfl, rfl⟩, matched⟩
      · intro found
        rcases found with ⟨_, ⟨rfl, rfl⟩, matched⟩
        exact ⟨rfl, matched⟩

theorem likes_escaped_iff (part pattern : List Char) {text : List Char} :
    likes (part.flatMap escapePatternChar ++ pattern) text = true ↔
      ∃ rest, text = part ++ rest ∧ likes pattern rest = true := by
  induction part generalizing text with
  | nil => simp
  | cons c part induction =>
      rw [List.flatMap_cons, List.append_assoc, likes_escapePatternChar]
      constructor
      · intro found
        rcases found with ⟨rest, rfl, matched⟩
        rcases induction.mp matched with ⟨others, rfl, ends⟩
        exact ⟨others, rfl, ends⟩
      · intro found
        rcases found with ⟨rest, rfl, matched⟩
        exact ⟨part ++ rest, rfl, induction.mpr ⟨rest, rfl, matched⟩⟩

/-! ## Patterns that look for a text -/

theorem likes_anywhere_iff {part text : List Char} :
    likes ('%' :: (part.flatMap escapePatternChar ++ ['%'])) text = true ↔ part <:+: text := by
  rw [likes_percent_iff]
  constructor
  · intro found
    rcases found with ⟨skipped, rest, rfl, matched⟩
    rcases (likes_escaped_iff part _).mp matched with ⟨others, rfl, -⟩
    exact ⟨skipped, others, by simp⟩
  · intro found
    rcases found with ⟨skipped, others, rfl⟩
    refine ⟨skipped, part ++ others, by simp, ?_⟩
    exact (likes_escaped_iff part _).mpr ⟨others, rfl, likes_percent others⟩

theorem likes_start_iff {part text : List Char} :
    likes (part.flatMap escapePatternChar ++ ['%']) text = true ↔ part <+: text := by
  rw [likes_escaped_iff]
  constructor
  · intro found
    rcases found with ⟨rest, rfl, -⟩
    exact List.prefix_append _ _
  · intro found
    rcases found with ⟨rest, rfl⟩
    exact ⟨rest, rfl, likes_percent rest⟩

theorem likes_whole_iff {part text : List Char} :
    likes (part.flatMap escapePatternChar) text = true ↔ text = part := by
  have ends := @likes_escaped_iff part [] text
  simpa [likes_nil_iff] using ends

theorem likes_end_iff {part text : List Char} :
    likes ('%' :: part.flatMap escapePatternChar) text = true ↔ part <:+ text := by
  rw [likes_percent_iff]
  constructor
  · intro found
    rcases found with ⟨skipped, rest, rfl, matched⟩
    exact ⟨skipped, by rw [likes_whole_iff.mp matched]⟩
  · intro found
    rcases found with ⟨skipped, rfl⟩
    exact ⟨skipped, part, rfl, likes_whole_iff.mpr rfl⟩

/-- Escaping replaces the backslashes and then the wildcards. Between percent signs, in front of
one, behind one and by itself an escaped text matches exactly the texts that have it somewhere, at
the start, at the end, and as a whole. -/
theorem matches_escapePattern (part text : String) :
    (escapePattern part).toList = Replacement.runAll patternPasses part.toList ∧
    (Matches ("%" ++ escapePattern part ++ "%").toList text.toList ↔
      part.toList <:+: text.toList) ∧
    (Matches (escapePattern part ++ "%").toList text.toList ↔ part.toList <+: text.toList) ∧
    (Matches ("%" ++ escapePattern part).toList text.toList ↔ part.toList <:+ text.toList) ∧
    (Matches (escapePattern part).toList text.toList ↔ text = part) := by
  have inside : (escapePattern part).toList = part.toList.flatMap escapePatternChar :=
    String.toList_ofList
  have percent : "%".toList = ['%'] := rfl
  simp only [← likes_iff_matches, String.toList_append, inside, percent,
    List.cons_append]
  refine ⟨?_, likes_anywhere_iff, likes_start_iff, likes_end_iff, ?_⟩
  · rw [← inside]
    exact escapePattern_eq_runAll part
  · rw [likes_whole_iff, String.toList_inj]

example : Matches ("%" ++ escapePattern "\\%" ++ "%").toList "a\\%b".toList := by decide

end BoundSql.Sql
