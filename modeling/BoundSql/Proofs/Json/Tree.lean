import BoundSql.Proofs.Json.Leaf

/-!
Reading JSON trees back. Every tree whose strings are escaped texts and whose numerals are
integers is read as it was written, whatever follows it that cannot belong to a numeral. The main
statement is `read?_write`.
-/

namespace BoundSql.Json

open Number

/-- A tree whose strings are escaped texts and whose numerals are integers. -/
inductive Legible : Json → Prop
  | null : Legible .null
  | bool (value : Bool) : Legible (.bool value)
  | numeral (n : Int) : Legible (.numeral (signedDigits n))
  | string (text : List Char) : Legible (.string (escape text))
  | array (each : ∀ item ∈ items, Legible item) : Legible (.array items)
  | object (named : ∀ member ∈ members, ∃ name, member.1 = escape name)
      (each : ∀ member ∈ members, Legible member.2) : Legible (.object members)

/-- A tree that is read from the front of any text that starts with it. -/
def ReadsBack (json : Json) : Prop :=
  ∀ (fuel : Nat) (rest : List Char), 2 * json.write.length ≤ fuel → EndsNumeral rest →
    takeTree? fuel (json.write ++ rest) = some (json, rest)

/-! ## First characters -/

def startsTree (c : Char) : Bool := c.isDigit || c ∈ ['-', '"', '[', '\x7b', 'n', 't', 'f']

theorem Legible.head {json : Json} (legible : json.Legible) :
    ∃ c rest, json.write = c :: rest ∧ startsTree c = true := by
  cases legible with
  | null => exact ⟨'n', _, rfl, by decide⟩
  | bool value =>
      cases value with
      | true => exact ⟨'t', _, rfl, by decide⟩
      | false => exact ⟨'f', _, rfl, by decide⟩
  | numeral n =>
      rcases exists_signedDigits_cons n with ⟨c, row, shape, rfl | digit⟩
      · exact ⟨'-', row, shape, by decide⟩
      · exact ⟨c, row, shape, by rw [startsTree, digit, Bool.true_or]⟩
  | string text => exact ⟨'"', _, rfl, by decide⟩
  | array each => exact ⟨'[', _, rfl, by decide⟩
  | object named each => exact ⟨'\x7b', _, rfl, by decide⟩

theorem ne_of_startsTree {c d : Char} (starts : startsTree c = true)
    (other : startsTree d = false) : c ≠ d := by
  rintro rfl
  rw [starts] at other
  contradiction

theorem skipBlanks_cons {c : Char} (solid : isBlank c = false) (rest : List Char) :
    skipBlanks (c :: rest) = c :: rest := by
  simp [skipBlanks, solid]

theorem isBlank_of_startsTree {c : Char} (starts : startsTree c = true) : isBlank c = false := by
  have blanks : ∀ d ∈ [' ', '\t', '\n', '\r'], c ≠ d := by
    intro d among
    refine ne_of_startsTree starts ?_
    simp only [List.mem_cons, List.not_mem_nil, or_false] at among
    rcases among with rfl | rfl | rfl | rfl <;> decide
  simp [isBlank, blanks]

/-! ## Leaves -/

theorem takeTree?_leaf {c : Char} (starts : startsTree c = true) (notArray : c ≠ '[')
    (notObject : c ≠ '\x7b') (fuel : Nat) (rest : List Char) :
    takeTree? (fuel + 1) (c :: rest) = takeLeaf? (c :: rest) := by
  rw [takeTree?, skipBlanks_cons (isBlank_of_startsTree starts)]
  simp [notArray, notObject]

theorem readsBack_of_leaf {json : Json} {c : Char} {row : List Char}
    (shape : json.write = c :: row) (starts : startsTree c = true) (notArray : c ≠ '[')
    (notObject : c ≠ '\x7b')
    (read : ∀ rest, EndsNumeral rest → takeLeaf? (json.write ++ rest) = some (json, rest)) :
    json.ReadsBack := by
  intro fuel rest enough ends
  have leaf := read rest ends
  rw [shape, List.length_cons] at enough
  obtain ⟨fuel, rfl⟩ : ∃ less, fuel = less + 1 := ⟨fuel - 1, by omega⟩
  rw [shape, List.cons_append] at leaf ⊢
  rw [takeTree?_leaf starts notArray notObject, leaf]

theorem readsBack_numeral (n : Int) : (Json.numeral (signedDigits n)).ReadsBack := by
  rcases exists_signedDigits_cons n with ⟨c, row, shape, sort⟩
  have starts : startsTree c = true := by
    rcases sort with rfl | digit
    · decide
    · rw [startsTree, digit, Bool.true_or]
  have other : ∀ d ∈ ['[', '\x7b', '"'], c ≠ d := by
    rintro d among rfl
    simp only [List.mem_cons, List.not_mem_nil, or_false] at among
    rcases among with rfl | rfl | rfl <;> simp at sort
  have written : (Json.numeral (signedDigits n)).write = c :: row := by rw [write, shape]
  refine readsBack_of_leaf written starts (other _ (by simp)) (other _ (by simp)) ?_
  intro rest ends
  have taken := takeNumeral?_signedDigits n ends
  have signed : (c = '-' || c.isDigit) = true := by simpa using sort
  rw [write, shape, List.cons_append] at *
  simp [takeLeaf?, other, signed, taken]

theorem readsBack_string (text : List Char) : (Json.string (escape text)).ReadsBack := by
  refine readsBack_of_leaf rfl (by decide) (by decide) (by decide) ?_
  intro rest _
  have taken := takeInside?_escape text rest
  simp [write, quoted, takeLeaf?, taken]

theorem readsBack_null : Json.null.ReadsBack :=
  readsBack_of_leaf rfl (by decide) (by decide) (by decide) fun _ _ => rfl

theorem readsBack_bool (value : Bool) : (Json.bool value).ReadsBack := by
  cases value with
  | true => exact readsBack_of_leaf rfl (by decide) (by decide) (by decide) fun _ _ => rfl
  | false => exact readsBack_of_leaf rfl (by decide) (by decide) (by decide) fun _ _ => rfl

/-! ## Arrays and objects

Every character that ends an item, or stands between two, is read by itself. -/

def endsTree (c : Char) : Bool := c ∈ [',', ']', '\x7d', ':']

theorem endsNumeral_of_endsTree {c : Char} (ends : endsTree c = true) (rest : List Char) :
    EndsNumeral (c :: rest) := by
  apply endsNumeral_cons
  simp only [endsTree, List.mem_cons, List.not_mem_nil, or_false, decide_eq_true_eq] at ends
  rcases ends with rfl | rfl | rfl | rfl <;> decide

theorem skipBlanks_endsTree {c : Char} (ends : endsTree c = true) (rest : List Char) :
    skipBlanks (c :: rest) = c :: rest := by
  apply skipBlanks_cons
  simp only [endsTree, List.mem_cons, List.not_mem_nil, or_false, decide_eq_true_eq] at ends
  rcases ends with rfl | rfl | rfl | rfl <;> decide

theorem takeMoreItems?_writeItems {items : List Json} (nonempty : items ≠ [])
    (each : ∀ item ∈ items, ReadsBack item) (fuel : Nat) (rest : List Char)
    (enough : 2 * (writeItems items).length + 1 ≤ fuel) :
    takeMoreItems? fuel (writeItems items ++ ']' :: rest) = some (items, rest) := by
  induction items generalizing fuel with
  | nil => contradiction
  | cons item items induction =>
      rw [List.forall_mem_cons] at each
      obtain ⟨fuel, rfl⟩ : ∃ less, fuel = less + 1 := ⟨fuel - 1, by omega⟩
      cases items with
      | nil =>
          rw [writeItems] at enough ⊢
          have read := each.1 fuel _ (by omega)
            (endsNumeral_of_endsTree (c := ']') rfl rest)
          have bracket := skipBlanks_endsTree (c := ']') rfl rest
          simp [takeMoreItems?, read, bracket]
      | cons next items =>
          rw [writeItems] at enough ⊢
          simp only [List.length_append, List.length_cons] at enough
          have read := each.1 fuel _ (by omega)
            (endsNumeral_of_endsTree (c := ',') rfl (writeItems (next :: items) ++ ']' :: rest))
          have others := induction (by simp) each.2 fuel (by omega)
          have comma := skipBlanks_endsTree (c := ',') rfl
            (writeItems (next :: items) ++ ']' :: rest)
          rw [List.append_assoc, List.cons_append, takeMoreItems?]
          simp [read, others, comma]

theorem readsBack_array {items : List Json} (legible : ∀ item ∈ items, Legible item)
    (each : ∀ item ∈ items, ReadsBack item) : (Json.array items).ReadsBack := by
  intro fuel rest enough _
  rw [write] at enough ⊢
  simp only [List.length_append, List.length_cons, List.length_nil] at enough
  obtain ⟨fuel, rfl⟩ : ∃ less, fuel = less + 1 + 1 := ⟨fuel - 2, by omega⟩
  have bracket : skipBlanks ('[' :: (writeItems items ++ ']' :: rest)) =
      '[' :: (writeItems items ++ ']' :: rest) := skipBlanks_cons (by decide) _
  rw [List.append_assoc, List.cons_append, List.singleton_append, takeTree?, bracket]
  cases items with
  | nil => simp [writeItems, takeItems?, skipBlanks_endsTree (c := ']') rfl]
  | cons item items =>
      have more := takeMoreItems?_writeItems (by simp) each fuel rest (by omega)
      rcases (legible item (by simp)).head with ⟨c, row, shape, starts⟩
      obtain ⟨tail, begins⟩ : ∃ tail, writeItems (item :: items) = c :: tail := by
        cases items <;> simp [writeItems, shape]
      have different : c ≠ ']' := ne_of_startsTree starts (by decide)
      rw [begins, List.cons_append] at more ⊢
      simp [takeItems?, skipBlanks_cons (isBlank_of_startsTree starts), different, more]

theorem takeName?_quoted (name : List Char) (rest : List Char) :
    takeName? (quoted (escape name) ++ ':' :: rest) = some (escape name, rest) := by
  have quote : skipBlanks ('"' :: (escape name ++ '"' :: ':' :: rest)) =
      '"' :: (escape name ++ '"' :: ':' :: rest) := skipBlanks_cons (by decide) _
  have shape : quoted (escape name) ++ ':' :: rest =
      '"' :: (escape name ++ '"' :: ':' :: rest) := by simp [quoted]
  have inside := takeInside?_escape name (':' :: rest)
  have colon := skipBlanks_endsTree (c := ':') rfl rest
  rw [shape, takeName?, quote]
  simp [inside, colon]

theorem takeMoreMembers?_writeMembers {members : List (List Char × Json)}
    (nonempty : members ≠ []) (named : ∀ member ∈ members, ∃ name, member.1 = escape name)
    (each : ∀ member ∈ members, ReadsBack member.2) (fuel : Nat) (rest : List Char)
    (enough : 2 * (writeMembers members).length + 1 ≤ fuel) :
    takeMoreMembers? fuel (writeMembers members ++ '\x7d' :: rest) = some (members, rest) := by
  induction members generalizing fuel with
  | nil => contradiction
  | cons member members induction =>
      rw [List.forall_mem_cons] at each named
      obtain ⟨fuel, rfl⟩ : ∃ less, fuel = less + 1 := ⟨fuel - 1, by omega⟩
      rcases member with ⟨name, value⟩
      rcases named.1 with ⟨name, rfl⟩
      cases members with
      | nil =>
          rw [writeMembers] at enough ⊢
          simp only [List.length_append, List.length_cons] at enough
          have read := each.1 fuel _ (by dsimp only; omega)
            (endsNumeral_of_endsTree (c := '\x7d') rfl rest)
          have brace := skipBlanks_endsTree (c := '\x7d') rfl rest
          rw [List.append_assoc, List.cons_append, takeMoreMembers?, takeName?_quoted]
          simp [read, brace]
      | cons next members =>
          rw [writeMembers] at enough ⊢
          simp only [List.length_append, List.length_cons] at enough
          have read := each.1 fuel _ (by dsimp only; omega) (endsNumeral_of_endsTree (c := ',') rfl
            (writeMembers (next :: members) ++ '\x7d' :: rest))
          have others := induction (by simp) named.2 each.2 fuel (by omega)
          have comma := skipBlanks_endsTree (c := ',') rfl
            (writeMembers (next :: members) ++ '\x7d' :: rest)
          rw [List.append_assoc, List.append_assoc, List.cons_append, List.cons_append,
            takeMoreMembers?, takeName?_quoted]
          simp [read, others, comma]

theorem readsBack_object {members : List (List Char × Json)}
    (named : ∀ member ∈ members, ∃ name, member.1 = escape name)
    (each : ∀ member ∈ members, ReadsBack member.2) : (Json.object members).ReadsBack := by
  intro fuel rest enough _
  rw [write] at enough ⊢
  simp only [List.length_append, List.length_cons, List.length_nil] at enough
  obtain ⟨fuel, rfl⟩ : ∃ less, fuel = less + 1 + 1 := ⟨fuel - 2, by omega⟩
  have brace : skipBlanks ('\x7b' :: (writeMembers members ++ '\x7d' :: rest)) =
      '\x7b' :: (writeMembers members ++ '\x7d' :: rest) := skipBlanks_cons (by decide) _
  rw [List.append_assoc, List.cons_append, List.singleton_append, takeTree?, brace]
  cases members with
  | nil => simp [writeMembers, takeMembers?, skipBlanks_endsTree (c := '\x7d') rfl]
  | cons member members =>
      have more := takeMoreMembers?_writeMembers (by simp) named each fuel rest (by omega)
      obtain ⟨tail, begins⟩ : ∃ tail, writeMembers (member :: members) = '"' :: tail := by
        cases members <;> simp [writeMembers, quoted]
      have quote : ∀ rest, skipBlanks ('"' :: rest) = '"' :: rest :=
        fun _ => skipBlanks_cons (by decide) _
      rw [begins, List.cons_append] at more ⊢
      simp [takeMembers?, quote, more]

/-! ## Whole texts -/

theorem readsBack_of_legible {json : Json} (legible : json.Legible) : json.ReadsBack := by
  induction legible with
  | null => exact readsBack_null
  | bool value => exact readsBack_bool value
  | numeral n => exact readsBack_numeral n
  | string text => exact readsBack_string text
  | array each induction => exact readsBack_array each induction
  | object named each induction => exact readsBack_object named induction

theorem read?_write {json : Json} (legible : json.Legible) : read? json.write = some json := by
  have read := readsBack_of_legible legible (2 * json.write.length + 2) [] (by omega)
    endsNumeral_nil
  rw [List.append_nil] at read
  rw [read?, read]
  rfl

end BoundSql.Json
