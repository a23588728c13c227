import BoundSql.Proofs.Statement.Tokens

/-!
Reading arithmetic back. `Term.Reads` is the grammar of sums, products and parentheses that
databases go by, and `Term.readFrom` reads by it. No row of tokens can be read in two ways, and
the tokens of a term are read as the term.
-/

namespace BoundSql

namespace Arithmetic

def strength : Arithmetic → Nat
  | .add | .subtract => 0
  | .multiply | .divide => 1

theorem strength_le_one (op : Arithmetic) : op.strength ≤ 1 := by
  cases op <;> decide

def ofSymbol? (sign : String) : Option Arithmetic :=
  [.add, .subtract, .multiply, .divide].find? (·.symbol == sign)

theorem ofSymbol?_symbol (op : Arithmetic) : ofSymbol? op.symbol = some op := by
  cases op <;> decide

end Arithmetic

namespace Sql.Term

open Condition (after?)

/-! ## The grammar -/

/-- What tokens say. Sums have strength 0, products 1, names and parentheses 2, and each is also
one of those below it. An operator has on its left what is as strong as itself, on its right
only what is stronger, so operators of one strength hold together from the left. -/
inductive Reads : (strength : Nat) → List Token → Term → Prop
  | placeholder (name : String) : Reads 2 [.placeholder name] (.placeholder name)
  | column (name : String) : Reads 2 [.identifier name] (.column name)
  | parentheses (inside : Reads 0 row term) :
      Reads 2 (.symbol "(" :: (row ++ [.symbol ")"])) term
  | compute (op : Arithmetic) (left : Reads op.strength row a)
      (right : Reads (op.strength + 1) row' b) :
      Reads op.strength (row ++ .symbol op.symbol :: row') (.compute op a b)
  | weaken (stronger : Reads (strength + 1) row term) : Reads strength row term

theorem Reads.mono {weak strong : Nat} {row : List Token} {term : Term}
    (reads : Reads strong row term) (le : weak ≤ strong) : Reads weak row term := by
  induction strong with
  | zero =>
      rcases Nat.le_zero.mp le with rfl
      exact reads
  | succ strong induction =>
      rcases Nat.lt_or_eq_of_le le with less | rfl
      · exact induction reads.weaken (Nat.le_of_lt_succ less)
      · exact reads

theorem reads_tokensIn (term : Term) (nested : Bool) :
    Reads (if nested then 2 else 0) (term.tokensIn nested) term := by
  induction term generalizing nested with
  | placeholder name => exact (Reads.placeholder name).mono (by split <;> omega)
  | column name => exact (Reads.column name).mono (by split <;> omega)
  | compute op left right first second =>
      have weak := op.strength_le_one
      have operands := Reads.compute op ((first true).mono (by simp; omega))
        ((second true).mono (by simp; omega))
      cases nested with
      | false => exact operands.mono (Nat.zero_le _)
      | true => exact .parentheses (operands.mono (Nat.zero_le _))

/-! ## A reader -/

def operatorAt? (least : Nat) : List Token → Option (Arithmetic × List Token)
  | .symbol sign :: rest =>
      ((Arithmetic.ofSymbol? sign).filter (least ≤ ·.strength)).map (·, rest)
  | _ => none

def readName : List Token → Option (Term × List Token)
  | .placeholder name :: rest => some (.placeholder name, rest)
  | .identifier name :: rest => some (.column name, rest)
  | _ => none

mutual
def readFrom : (fuel least : Nat) → List Token → Option (Term × List Token)
  | 0, _, _ => none
  | fuel + 1, least, tokens => do
      let (left, rest) ← readAtom fuel tokens
      extend fuel least left rest

def extend : (fuel least : Nat) → Term → List Token → Option (Term × List Token)
  | 0, _, _, _ => none
  | fuel + 1, least, left, tokens =>
      match operatorAt? least tokens with
      | none => some (left, tokens)
      | some (op, rest) => do
          let (right, rest) ← readFrom fuel (op.strength + 1) rest
          extend fuel least (.compute op left right) rest

def readAtom : (fuel : Nat) → List Token → Option (Term × List Token)
  | 0, _ => none
  | fuel + 1, tokens =>
      match after? (.symbol "(") tokens with
      | none => readName tokens
      | some rest => do
          let (inside, rest) ← readFrom fuel 0 rest
          let rest ← after? (.symbol ")") rest
          return (inside, rest)
end

/-- The term that tokens make up as a whole. Each token is passed on at most twice. -/
def ofTokens? (tokens : List Token) : Option Term :=
  match readFrom (2 * tokens.length + 1) 0 tokens with
  | some (term, []) => some term
  | _ => none

def read? (sigil text : String) : Option Term := (Token.read? sigil text).bind ofTokens?

/-! ## The reader goes by the grammar -/

variable {least strong fuel : Nat} {row rest : List Token} {term : Term}

theorem operatorAt?_symbol (op : Arithmetic) (rest : List Token) :
    operatorAt? least (.symbol op.symbol :: rest) =
      if least ≤ op.strength then some (op, rest) else none := by
  rw [operatorAt?, Arithmetic.ofSymbol?_symbol]
  split
  next enough => simp [enough]
  next weak => simpa using Nat.lt_of_not_le weak

theorem operatorAt?_eq_none_of_le (weak : operatorAt? least rest = none) (le : least ≤ strong) :
    operatorAt? strong rest = none := by
  cases rest with
  | nil => rfl
  | cons token rest =>
      cases token with
      | symbol sign =>
          simp only [operatorAt?, Option.map_eq_none_iff, Option.filter_eq_none_iff,
            decide_eq_true_eq] at weak ⊢
          intro op found enough
          exact weak op found (Nat.le_trans le enough)
      | _ => rfl

theorem extend_stop (weak : operatorAt? least rest = none) (some : 0 < fuel) :
    extend fuel least term rest = .some (term, rest) := by
  obtain ⟨fuel, rfl⟩ : ∃ less, fuel = less + 1 := ⟨fuel - 1, by omega⟩
  rw [extend, weak]

/-- What a row of tokens says is read, and then the reader goes on behind it. No operator may
stand there that is stronger than what holds the row together. -/
theorem readFrom_of_reads (reads : Reads strong row term) (le : least ≤ strong)
    (weak : operatorAt? (strong + 1) rest = none) {result : Term × List Token}
    (goesOn : ∀ more, fuel ≤ more → extend more least term rest = some result) :
    ∀ more, fuel + 2 * row.length ≤ more →
      readFrom more least (row ++ rest) = some result := by
  induction reads generalizing least rest fuel result with
  | placeholder name =>
      intro more enough
      simp only [List.length_cons, List.length_nil] at enough
      obtain ⟨more, rfl⟩ : ∃ less, more = less + 1 + 1 := ⟨more - 2, by omega⟩
      simpa [readFrom, readAtom, after?, readName] using goesOn (more + 1) (by omega)
  | column name =>
      intro more enough
      simp only [List.length_cons, List.length_nil] at enough
      obtain ⟨more, rfl⟩ : ∃ less, more = less + 1 + 1 := ⟨more - 2, by omega⟩
      simpa [readFrom, readAtom, after?, readName] using goesOn (more + 1) (by omega)
  | @parentheses row term inside induction =>
      intro more enough
      simp only [List.length_cons, List.length_append, List.length_nil] at enough
      obtain ⟨more, rfl⟩ : ∃ less, more = less + 1 + 1 := ⟨more - 2, by omega⟩
      have closed : operatorAt? 0 (.symbol ")" :: rest) = none := rfl
      have read := induction (Nat.le_refl 0) (operatorAt?_eq_none_of_le closed (Nat.zero_le _))
        (fun more (some : 1 ≤ more) => extend_stop closed some) more (by omega)
      simpa [readFrom, readAtom, after?, read] using goesOn (more + 1) (by omega)
  | @compute row a row' b op left right first second =>
      intro more enough
      simp only [List.length_cons, List.length_append] at enough
      have symbol : operatorAt? (op.strength + 1) (.symbol op.symbol :: (row' ++ rest)) = none := by
        rw [operatorAt?_symbol, if_neg (Nat.not_succ_le_self _)]
      have behindLeft : ∀ more, fuel + 2 * row'.length + 2 ≤ more →
          extend more least a (.symbol op.symbol :: (row' ++ rest)) = some result := by
        intro more enough
        obtain ⟨more, rfl⟩ : ∃ less, more = less + 1 := ⟨more - 1, by omega⟩
        have read := second (Nat.le_refl _) (operatorAt?_eq_none_of_le weak (Nat.le_succ _))
          (fun more (some : 1 ≤ more) => extend_stop weak some) more (by omega)
        rw [extend, operatorAt?_symbol, if_pos le]
        simpa [read] using goesOn more (by omega)
      rw [List.append_assoc, List.cons_append]
      exact first le symbol behindLeft more (by omega)
  | weaken stronger induction =>
      exact induction (Nat.le_succ_of_le le) (operatorAt?_eq_none_of_le weak (Nat.le_succ _)) goesOn

theorem ofTokens?_of_reads (reads : Reads 0 row term) : ofTokens? row = some term := by
  have none : operatorAt? 0 [] = none := rfl
  have read : readFrom (2 * row.length + 1) 0 (row ++ []) = some (term, []) :=
    readFrom_of_reads reads (Nat.le_refl 0) rfl
      (fun more (some : 1 ≤ more) => extend_stop none some) _ (by omega)
  rw [List.append_nil] at read
  rw [ofTokens?, read]

example :
    ofTokens? [.identifier "a", .symbol "-", .identifier "b", .symbol "-", .identifier "c",
      .symbol "*", .placeholder "@p0"] =
      some (.compute .subtract (.compute .subtract (.column "a") (.column "b"))
        (.compute .multiply (.column "c") (.placeholder "@p0"))) := by
  rfl

theorem Reads.unique {other : Term} (reads : Reads 0 row term) (reads' : Reads 0 row other) :
    other = term := by
  have same := (ofTokens?_of_reads reads').symm.trans (ofTokens?_of_reads reads)
  exact Option.some.inj same

theorem reads_tokens_iff {other : Term} : Reads 0 term.tokens other ↔ other = term := by
  have reads := term.reads_tokensIn false
  constructor
  · exact reads.unique
  · rintro rfl
    exact reads

end Sql.Term

end BoundSql
