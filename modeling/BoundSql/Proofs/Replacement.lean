import BoundSql.Sql.Quote

/-!
Replacements. A pass over a text writes a row of characters wherever a certain character stands,
and the passes of an escape are made one after the other. Each escape of `Sql.Quote` is such a row
of passes, the one for the backslash first: later passes write backslashes of their own.
-/

namespace BoundSql.Sql

structure Replacement where
  target : Char
  written : List Char

namespace Replacement

def run (pass : Replacement) (text : List Char) : List Char :=
  text.flatMap fun c => if c = pass.target then pass.written else [c]

def runAll (passes : List Replacement) (text : List Char) : List Char :=
  passes.foldl (fun text pass => pass.run text) text

theorem runAll_cons (pass : Replacement) (passes : List Replacement) (text : List Char) :
    runAll (pass :: passes) text = runAll passes (pass.run text) := rfl

theorem run_singleton (pass : Replacement) (c : Char) :
    pass.run [c] = if c = pass.target then pass.written else [c] := by
  simp [run]

theorem runAll_eq_flatMap (passes : List Replacement) (text : List Char) :
    runAll passes text = text.flatMap fun c => runAll passes [c] := by
  induction passes generalizing text with
  | nil => simp [runAll]
  | cons pass passes induction =>
      simp only [runAll_cons, run_singleton]
      calc runAll passes (pass.run text)
        _ = (pass.run text).flatMap fun c => runAll passes [c] := induction _
        _ = text.flatMap fun c => (if c = pass.target then pass.written else [c]).flatMap fun d =>
              runAll passes [d] := List.flatMap_assoc
        _ = text.flatMap fun c => runAll passes (if c = pass.target then pass.written else [c]) := by
          simp only [← induction]

theorem runAll_of_not_mem {passes : List Replacement} {c : Char}
    (spared : c ∉ passes.map (·.target)) : runAll passes [c] = [c] := by
  induction passes with
  | nil => rfl
  | cons pass passes induction =>
      simp only [List.map_cons, List.mem_cons, not_or] at spared
      rw [runAll_cons, run_singleton, if_neg spared.1, induction spared.2]

/-- A rule for each character is a row of passes if both do the same to the targets and the rule
leaves all other characters alone. -/
theorem flatMap_eq_runAll {passes : List Replacement} {rule : Char → List Char}
    (targets : ∀ c ∈ passes.map (·.target), rule c = runAll passes [c])
    (others : ∀ c ∉ passes.map (·.target), rule c = [c]) (text : List Char) :
    text.flatMap rule = runAll passes text := by
  rw [runAll_eq_flatMap]
  congr 1
  funext c
  by_cases target : c ∈ passes.map (·.target)
  · exact targets c target
  · rw [others c target, runAll_of_not_mem target]

end Replacement

/-! ## Escapes -/

def identifierPasses : List Replacement := [⟨'\x60', ['\x60', '\x60']⟩]

def textPasses : List Replacement :=
  [⟨'\\', ['\\', '\\']⟩, ⟨'\'', ['\\', '\'']⟩, ⟨'\n', ['\\', 'n']⟩, ⟨'\r', ['\\', 'r']⟩,
   ⟨'\x00', ['\\', '0']⟩]

def patternPasses : List Replacement :=
  [⟨'\\', ['\\', '\\']⟩, ⟨'%', ['\\', '%']⟩, ⟨'_', ['\\', '_']⟩]

/-- With the backslash last, the one before a percent sign would be taken for a backslash. -/
example : Replacement.runAll patternPasses.reverse ['%'] = ['\\', '\\', '%'] := by decide

theorem quoteIdentifier_eq_runAll (name : String) :
    (quoteIdentifier name).toList =
      '\x60' :: Replacement.runAll identifierPasses name.toList ++ ['\x60'] := by
  have passes : name.toList.flatMap quoteIdentifierChar =
      Replacement.runAll identifierPasses name.toList := by
    apply Replacement.flatMap_eq_runAll
    · simp [identifierPasses, quoteIdentifierChar, Replacement.runAll, Replacement.run]
    · simp [identifierPasses, quoteIdentifierChar]
  rw [quoteIdentifier, String.toList_ofList, identifierChars, passes]

theorem mem_textPasses_iff {c : Char} :
    c ∈ textPasses.map (·.target) ↔ c = '\\' ∨ c = '\'' ∨ c = '\n' ∨ c = '\r' ∨ c = '\x00' := by
  simp [textPasses]

theorem escapeTextChar_of_not_mem {c : Char} (spared : c ∉ textPasses.map (·.target)) :
    escapeTextChar c = [c] := by
  simp only [mem_textPasses_iff, not_or] at spared
  rcases spared with ⟨notBackslash, notMark, notLine, notReturn, notZero⟩
  have solid : c.toNat ≠ 0 := fun equal => notZero (Char.toNat_inj.mp equal)
  simp [escapeTextChar, notBackslash, notMark, notLine, notReturn, solid]

theorem escapeText_eq_runAll (text : String) :
    (escapeText text).toList = Replacement.runAll textPasses text.toList := by
  rw [escapeText, String.toList_ofList]
  apply Replacement.flatMap_eq_runAll
  · simp [textPasses, escapeTextChar, Replacement.runAll, Replacement.run]
  · exact fun _ => escapeTextChar_of_not_mem

theorem escapePattern_eq_runAll (text : String) :
    (escapePattern text).toList = Replacement.runAll patternPasses text.toList := by
  rw [escapePattern, String.toList_ofList]
  apply Replacement.flatMap_eq_runAll
  · simp [patternPasses, escapePatternChar, Replacement.runAll, Replacement.run]
  · simp [patternPasses, escapePatternChar, and_assoc]

end BoundSql.Sql
