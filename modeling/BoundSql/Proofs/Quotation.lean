import BoundSql.Proofs.Replacement
import BoundSql.Proofs.Token

/-!
Quotations. `Quoted` says what a quotation at the start of a text holds and what follows it, given
what a backslash may stand for together with the next character. Quoted texts and quoted names are
read back whatever characters they have; the main statement is `quotations_read_back`.
-/

namespace BoundSql.Sql

/-- What is behind the opening mark of a quotation: the text it holds, then its end and the rest. A
mark written twice stands for one. -/
inductive Inside (mark : Char) (escapes : Char → Option Char) :
    (behind held rest : List Char) → Prop
  | close (ends : mark ∉ rest.head?) : Inside mark escapes (mark :: rest) [] rest
  | doubled (reads : Inside mark escapes behind held rest) :
      Inside mark escapes (mark :: mark :: behind) (mark :: held) rest
  | escaped (means : escapes c = some d) (reads : Inside mark escapes behind held rest) :
      Inside mark escapes ('\\' :: c :: behind) (d :: held) rest
  | plain (notMark : c ≠ mark) (alone : c = '\\' → ∀ d ∈ behind.head?, escapes d = none)
      (reads : Inside mark escapes behind held rest) :
      Inside mark escapes (c :: behind) (c :: held) rest

def Quoted (mark : Char) (escapes : Char → Option Char) (text held rest : String) : Prop :=
  ∃ behind, text.toList = mark :: behind ∧ Inside mark escapes behind held.toList rest.toList

def textEscape? : Char → Option Char
  | '\\' => some '\\'
  | '\'' => some '\''
  | 'n' => some '\n'
  | 'r' => some '\r'
  | '0' => some '\x00'
  | _ => none

/-! ## Reading -/

section

variable {mark : Char} {escapes : Char → Option Char} {behind held held' rest rest' : List Char}

theorem Inside.unique (notBackslash : mark ≠ '\\') (reads : Inside mark escapes behind held rest)
    (other : Inside mark escapes behind held' rest') : held' = held ∧ rest' = rest := by
  induction reads generalizing held' with
  | close ends =>
      cases other with
      | close => exact ⟨rfl, rfl⟩
      | doubled => simp at ends
      | escaped => contradiction
      | plain notMark => contradiction
  | doubled _ induction =>
      cases other with
      | close ends => simp at ends
      | doubled reads =>
          rcases induction reads with ⟨rfl, rfl⟩
          exact ⟨rfl, rfl⟩
      | escaped => contradiction
      | plain notMark => contradiction
  | escaped means _ induction =>
      cases other with
      | close => contradiction
      | doubled => contradiction
      | escaped means' reads =>
          rw [means, Option.some.injEq] at means'
          rcases induction reads with ⟨rfl, rfl⟩
          exact ⟨by rw [means'], rfl⟩
      | plain notMark alone =>
          rw [alone rfl _ rfl] at means
          contradiction
  | plain notMark alone _ induction =>
      cases other with
      | close => contradiction
      | doubled => contradiction
      | escaped means =>
          rw [alone rfl _ rfl] at means
          contradiction
      | plain _ _ reads =>
          rcases induction reads with ⟨rfl, rfl⟩
          exact ⟨rfl, rfl⟩

end

/-! ## Quoted texts and names -/

theorem Inside.escapeTextChar {escapes : Char → Option Char}
    (known : ∀ c d, textEscape? c = some d → escapes c = some d) (c : Char)
    {behind held rest : List Char} (reads : Inside '\'' escapes behind held rest) :
    Inside '\'' escapes (escapeTextChar c ++ behind) (c :: held) rest := by
  by_cases target : c ∈ textPasses.map (·.target)
  · rcases mem_textPasses_iff.mp target with rfl | rfl | rfl | rfl | rfl
    · exact .escaped (known '\\' _ rfl) reads
    · exact .escaped (known '\'' _ rfl) reads
    · exact .escaped (known 'n' _ rfl) reads
    · exact .escaped (known 'r' _ rfl) reads
    · exact .escaped (known '0' _ rfl) reads
  · rw [escapeTextChar_of_not_mem target]
    rw [mem_textPasses_iff, not_or, not_or] at target
    exact .plain target.2.1 (fun backslash => absurd backslash target.1) reads

theorem inside_text {escapes : Char → Option Char}
    (known : ∀ c d, textEscape? c = some d → escapes c = some d) (text : List Char)
    {rest : List Char} (ends : '\'' ∉ rest.head?) :
    Inside '\'' escapes (text.flatMap escapeTextChar ++ '\'' :: rest) text rest := by
  induction text with
  | nil => exact .close ends
  | cons c text induction =>
      rw [List.flatMap_cons, List.append_assoc]
      exact induction.escapeTextChar known c

theorem inside_identifier (name : List Char) {rest : List Char} (ends : '\x60' ∉ rest.head?) :
    Inside '\x60' (fun _ => none) (name.flatMap quoteIdentifierChar ++ '\x60' :: rest) name
      rest := by
  induction name with
  | nil => exact .close ends
  | cons c name induction =>
      rw [List.flatMap_cons, List.append_assoc, quoteIdentifierChar]
      by_cases mark : c = '\x60'
      · subst mark
        exact .doubled induction
      · rw [if_neg mark]
        exact .plain mark (fun _ _ _ => rfl) induction

/-! ## The reader of tokens -/

namespace Token

def escapesOf (escapes : Bool) (c : Char) : Option Char :=
  if escapes then some (unescaped c) else none

theorem escapesOf_true {c d : Char} (known : textEscape? c = some d) :
    escapesOf true c = some d := by
  unfold textEscape? at known
  split at known
  case h_6 => contradiction
  all_goals
    rcases Option.some.inj known with rfl
    rfl

theorem enclosed_of_inside {mark : Char} {escapes : Bool} (notBackslash : mark ≠ '\\')
    {behind held rest : List Char} (reads : Inside mark (escapesOf escapes) behind held rest) :
    enclosed mark escapes behind = some (held, rest) := by
  induction reads with
  | @close rest ends =>
      cases rest with
      | nil => simp [enclosed]
      | cons d rest =>
          have different : d ≠ mark := by simpa using ends
          simp [enclosed, different]
  | doubled _ induction => simp [enclosed, induction]
  | @escaped c d behind _ _ means _ induction =>
      cases escapes with
      | false => contradiction
      | true =>
          have stands : unescaped c = d := Option.some.inj means
          simp [enclosed, notBackslash.symm, induction, stands]
  | @plain c behind _ _ notMark alone reads induction =>
      cases behind with
      | nil => contradiction
      | cons d behind =>
          have bare : (escapes && decide (c = '\\')) = false := by
            cases escapes with
            | false => rfl
            | true =>
                have other : c ≠ '\\' := fun equal =>
                  absurd (alone equal d rfl) (by simp [escapesOf])
                simp [other]
          rw [enclosed, if_neg notMark, bare, if_neg Bool.false_ne_true, induction]
          rfl

theorem enclosed_text (text : List Char) {rest : List Char} (ends : '\'' ∉ rest.head?) :
    enclosed '\'' true (text.flatMap escapeTextChar ++ '\'' :: rest) = some (text, rest) :=
  enclosed_of_inside (by decide) (inside_text (fun _ _ => escapesOf_true) text ends)

theorem enclosed_identifier (name : List Char) {rest : List Char}
    (ends : '\x60' ∉ rest.head?) :
    enclosed '\x60' false (name.flatMap quoteIdentifierChar ++ '\x60' :: rest) =
      some (name, rest) :=
  enclosed_of_inside (by decide) (inside_identifier name ends)

end Token

/-! ## Reading back -/

theorem quoted_iff {mark : Char} {escapes : Char → Option Char} (notBackslash : mark ≠ '\\')
    {text : String} {behind : List Char} {held rest : String}
    (opens : text.toList = mark :: behind)
    (reads : Inside mark escapes behind held.toList rest.toList) (held' rest' : String) :
    Quoted mark escapes text held' rest' ↔ held' = held ∧ rest' = rest := by
  constructor
  · intro quoted
    rcases quoted with ⟨behind', opens', reads'⟩
    rw [opens] at opens'
    rcases List.cons.inj opens' with ⟨-, rfl⟩
    rcases reads.unique notBackslash reads' with ⟨sameHeld, sameRest⟩
    exact ⟨String.toList_inj.mp sameHeld, String.toList_inj.mp sameRest⟩
  · intro same
    rcases same with ⟨rfl, rfl⟩
    exact ⟨behind, opens, reads⟩

/-- Escaping a text or a name replaces character after character. Behind its opening mark a quoted
text ends where it was closed and holds what was quoted, if the next character is no mark; so does
a quoted name. More escapes than those of a quoted text make no difference. -/
theorem quotations_read_back (text rest : String) :
    (escapeText text).toList = Replacement.runAll textPasses text.toList ∧
    (quoteIdentifier text).toList =
      '\x60' :: Replacement.runAll identifierPasses text.toList ++ ['\x60'] ∧
    ('\'' ∉ rest.toList.head? → ∀ escapes : Char → Option Char,
      (∀ c d, textEscape? c = some d → escapes c = some d) → ∀ held left,
        Quoted '\'' escapes ("'" ++ escapeText text ++ "'" ++ rest) held left ↔
          held = text ∧ left = rest) ∧
    ('\x60' ∉ rest.toList.head? → ∀ held left,
      Quoted '\x60' (fun _ => none) (quoteIdentifier text ++ rest) held left ↔
        held = text ∧ left = rest) := by
  refine ⟨escapeText_eq_runAll text, quoteIdentifier_eq_runAll text, ?_, ?_⟩
  · intro ends escapes known held left
    apply quoted_iff (by decide) _ (inside_text known text.toList ends)
    simp [escapeText]
  · intro ends held left
    apply quoted_iff (by decide) _ (inside_identifier text.toList ends)
    simp [quoteIdentifier, identifierChars]

/-- A text that ends in a mark and a backslash, and a name with a mark, in front of others. -/
theorem quotations_read_back_motto :
    '\'' ∉ ", 'b'".toList.head? ∧
    (∀ held left, Quoted '\'' textEscape? "'it\\'s \\'\\\\', 'b'" held left ↔
      held = "it's '\\" ∧ left = ", 'b'") ∧
    '\x60' ∉ ".\x60b\x60".toList.head? ∧
    ∀ held left, Quoted '\x60' (fun _ => none) "\x60odd\x60\x60name\x60.\x60b\x60" held left ↔
      held = "odd\x60name" ∧ left = ".\x60b\x60" := by
  have ends : '\'' ∉ ", 'b'".toList.head? := by decide
  have ends' : '\x60' ∉ ".\x60b\x60".toList.head? := by decide
  have text := (quotations_read_back "it's '\\" ", 'b'").2.2.1 ends textEscape? fun _ _ same => same
  have name := (quotations_read_back "odd\x60name" ".\x60b\x60").2.2.2 ends'
  exact ⟨ends, text, ends', name⟩

end BoundSql.Sql
