import Mathlib.Data.List.Forall2
import BoundSql.Proofs.Number.Digits
import BoundSql.Proofs.Quotation
import BoundSql.Sql.Statement

/-!
Spelling: texts whose tokens are known whatever follows them. A text that ends in a name
spells its tokens only if the next character cannot go on with the name; a text that ends
in a blank or in a single symbol leads into anything.
-/

namespace BoundSql.Sql

open Token

/-! ## Sigils -/

def startsToken (c : Char) : Bool :=
  isBlank c || c.isAlphanum ||
    c ∈ ['\x60', '\'', '"', '#', '(', ')', ',', '=', '<', '>', '*', '+', '-', '/']

/-- A sigil that no other token can be taken for. -/
def Distinctive (sigil : String) : Prop :=
  ∃ mark rest, sigil.toList = mark :: rest ∧ startsToken mark = false

theorem distinctive_at : Distinctive "@" := ⟨'@', [], by decide, by decide⟩

theorem Distinctive.not_isPrefixOf {sigil : String} (distinctive : Distinctive sigil)
    {c : Char} (starts : startsToken c = true) (rest : List Char) :
    sigil.toList.isPrefixOf (c :: rest) = false := by
  rcases distinctive with ⟨mark, others, equal, silent⟩
  have different : mark ≠ c := by
    intro equal
    subst equal
    rw [starts] at silent
    contradiction
  rw [equal, List.isPrefixOf_cons_cons, beq_false_of_ne different, Bool.false_and]

/-! ## Reading on -/

namespace Token

theorem readAll_nil (sigil : List Char) : readAll sigil [] = some [] := by
  rw [readAll]

theorem readAll_blank (sigil : List Char) {c : Char} (blank : isBlank c = true)
    (rest : List Char) : readAll sigil (c :: rest) = readAll sigil rest := by
  rw [readAll, if_pos blank]

theorem readAll_cons {sigil : List Char} {c : Char} {rest others : List Char} {token : Token}
    (solid : isBlank c = false) (one : readOne sigil (c :: rest) = some (token, others))
    (shorter : others.length ≤ rest.length) :
    readAll sigil (c :: rest) = (readAll sigil others).map (token :: ·) := by
  rw [readAll, if_neg (by simp [solid]), one]
  simp [shorter]

end Token

def loneSymbols : List Char := ['(', ')', ',', '=', '*', '+']

/-- What follows cannot belong to a name or a quotation before it. -/
def Breaks (rest : List Char) : Prop := ∀ c ∈ rest.head?, c ∈ ' ' :: loneSymbols

theorem breaks_nil : Breaks [] := by simp [Breaks]

/-- A text with the given tokens, if what follows breaks. -/
def Spells (sigil text : String) (tokens : List Token) : Prop :=
  ∀ rest, Breaks rest →
    readAll sigil.toList (text.toList ++ rest) = (readAll sigil.toList rest).map (tokens ++ ·)

/-- A text with the given tokens, whatever follows. -/
def Leads (sigil text : String) (tokens : List Token) : Prop :=
  ∀ rest,
    readAll sigil.toList (text.toList ++ rest) = (readAll sigil.toList rest).map (tokens ++ ·)

/-- A text that breaks what stands before it. -/
def Opens (text : String) : Prop := text.toList.head?.any (· ∈ ' ' :: loneSymbols) = true

instance (text : String) : Decidable (Opens text) := inferInstanceAs (Decidable (_ = true))

section

variable {sigil left right : String} {leftTokens rightTokens : List Token}

theorem Leads.spells (leads : Leads sigil left leftTokens) : Spells sigil left leftTokens :=
  fun rest _ => leads rest

theorem Opens.head {text : String} (opens : Opens text) :
    ∃ c rest, text.toList = c :: rest ∧ c ∈ ' ' :: loneSymbols := by
  rw [Opens] at opens
  cases shape : text.toList with
  | nil => simp [shape] at opens
  | cons c rest => exact ⟨c, rest, rfl, by simpa [shape] using opens⟩

theorem Opens.breaks {text : String} (opens : Opens text) (rest : List Char) :
    Breaks (text.toList ++ rest) := by
  rcases opens.head with ⟨c, others, equal, breaks⟩
  simpa [equal, Breaks] using breaks

theorem Opens.append {text : String} (opens : Opens text) (more : String) :
    Opens (text ++ more) := by
  rcases opens.head with ⟨c, rest, equal, breaks⟩
  simpa [Opens, equal] using breaks

theorem Leads.append (first : Leads sigil left leftTokens)
    (second : Leads sigil right rightTokens) :
    Leads sigil (left ++ right) (leftTokens ++ rightTokens) := by
  intro rest
  rw [String.toList_append, List.append_assoc, first, second]
  simp [Function.comp_def]

theorem Leads.spells_append (first : Leads sigil left leftTokens)
    (second : Spells sigil right rightTokens) :
    Spells sigil (left ++ right) (leftTokens ++ rightTokens) := by
  intro rest breaks
  rw [String.toList_append, List.append_assoc, first, second rest breaks]
  simp [Function.comp_def]

theorem Spells.leads_append (first : Spells sigil left leftTokens)
    (second : Leads sigil right rightTokens) (opens : Opens right) :
    Leads sigil (left ++ right) (leftTokens ++ rightTokens) := by
  intro rest
  rw [String.toList_append, List.append_assoc, first _ (opens.breaks rest), second]
  simp [Function.comp_def]

theorem Spells.append (first : Spells sigil left leftTokens)
    (second : Spells sigil right rightTokens) (opens : Opens right) :
    Spells sigil (left ++ right) (leftTokens ++ rightTokens) := by
  intro rest breaks
  rw [String.toList_append, List.append_assoc, first _ (opens.breaks rest), second rest breaks]
  simp [Function.comp_def]

theorem Spells.read? (spells : Spells sigil left leftTokens) :
    Token.read? sigil left = some leftTokens := by
  have read := spells [] breaks_nil
  rw [List.append_nil, readAll_nil] at read
  simpa [Token.read?] using read

end

/-! ## Pieces -/

section

variable {sigil : String}

theorem isBlank_of_isNameChar {c : Char} (inName : isNameChar c = true) :
    isBlank c = false := by
  have outside : ∀ d ∈ [' ', '\t', '\n', '\x0b', '\x0c', '\r'], isNameChar d = false := by
    simp [isNameChar]
  cases blank : isBlank c with
  | false => rfl
  | true =>
      rw [outside c (by simpa [isBlank] using blank)] at inName
      contradiction

theorem Breaks.ends {rest : List Char} (breaks : Breaks rest) {p : Char → Bool}
    (outside : ∀ c ∈ ' ' :: loneSymbols, p c = false) : ∀ c ∈ rest.head?, p c = false :=
  fun c first => outside c (breaks c first)

theorem Breaks.endsName {rest : List Char} (breaks : Breaks rest) :
    ∀ c ∈ rest.head?, isNameChar c = false :=
  breaks.ends (by simp [loneSymbols, isNameChar])

theorem spells_identifier (distinctive : Distinctive sigil) (name : String) :
    Spells sigil (quoteIdentifier name) [.identifier name] := by
  intro rest breaks
  have ends : '\x60' ∉ rest.head? := by
    intro member
    have outside : '\x60' ∉ ' ' :: loneSymbols := by decide
    exact outside (breaks _ member)
  have one : readOne sigil.toList ((quoteIdentifier name).toList ++ rest) =
      some (.identifier name, rest) := by
    have silent := distinctive.not_isPrefixOf (c := '\x60') (by decide)
    have dashes : ∀ text, startsLineComment ('\x60' :: text) = false := by
      intro text
      simp [startsLineComment]
    simp [readOne, quoteIdentifier, identifierChars, silent, dashes,
      enclosed_identifier _ ends]
  have shape : (quoteIdentifier name).toList ++ rest =
      '\x60' :: (name.toList.flatMap quoteIdentifierChar ++ '\x60' :: rest) := by
    simp [quoteIdentifier, identifierChars]
  rw [shape] at one ⊢
  exact readAll_cons (by decide) one (by simp; omega)

theorem spells_placeholder (distinctive : Distinctive sigil) (number : Nat) :
    Spells sigil (Bindings.nameOf sigil number)
      [.placeholder (Bindings.nameOf sigil number)] := by
  intro rest breaks
  have inside : ∀ c ∈ 'p' :: Number.digits number, isVariableChar c = true := by
    intro c member
    rcases List.mem_cons.mp member with rfl | digit
    · decide
    · simp [isVariableChar, Char.isAlphanum, Number.isDigit_of_mem_digits digit]
  have ends := breaks.ends (p := isVariableChar) (by simp [loneSymbols, isVariableChar])
  rcases Number.span_append inside ends with ⟨taken, left⟩
  have shape : (Bindings.nameOf sigil number).toList =
      sigil.toList ++ 'p' :: Number.digits number := by
    simp [Bindings.nameOf]
  have one : readOne sigil.toList ((Bindings.nameOf sigil number).toList ++ rest) =
      some (.placeholder (Bindings.nameOf sigil number), rest) := by
    have starts : sigil.toList.isPrefixOf
        (sigil.toList ++ (('p' :: Number.digits number) ++ rest)) = true := by
      rw [List.isPrefixOf_iff_prefix]
      exact List.prefix_append _ _
    rw [shape, List.append_assoc, readOne.eq_def, if_pos starts, List.drop_left]
    simp only [taken, left]
    rw [← shape, String.ofList_toList]
  rcases distinctive with ⟨mark, others, equal, silent⟩
  have solid : isBlank mark = false := by
    simp only [startsToken, Bool.or_eq_false_iff] at silent
    exact silent.1.1
  rw [shape, equal] at one ⊢
  exact readAll_cons solid one (by simp; omega)

def IsNumbered (sigil name : String) : Prop := ∃ number, name = Bindings.nameOf sigil number

theorem IsNumbered.spells (distinctive : Distinctive sigil) {name : String}
    (numbered : IsNumbered sigil name) : Spells sigil name [.placeholder name] := by
  rcases numbered with ⟨number, rfl⟩
  exact spells_placeholder distinctive number

def isWord (text : String) : Bool :=
  match text.toList with
  | [] => false
  | c :: rest => !c.isDigit && (c :: rest).all Char.isAlphanum

theorem readAll_name (distinctive : Distinctive sigil) {c : Char} {name rest : List Char}
    (inside : ∀ d ∈ c :: name, d.isAlphanum = true)
    (ends : ∀ d ∈ rest.head?, isNameChar d = false) :
    readAll sigil.toList (c :: name ++ rest) =
      (readAll sigil.toList rest).map
        ((if c.isDigit then .number (String.ofList (c :: name))
          else .word (String.ofList (c :: name))) :: ·) := by
  have named : ∀ d ∈ c :: name, isNameChar d = true := by
    intro d member
    simp [isNameChar, inside d member]
  have first : isNameChar c = true := named c (List.mem_cons_self ..)
  have others : ∀ d ∈ name, isNameChar d = true := fun d member =>
    named d (List.mem_cons_of_mem c member)
  have starts : startsToken c = true := by
    simp [startsToken, inside c (List.mem_cons_self ..)]
  rcases Number.span_append others ends with ⟨taken, left⟩
  have silent := distinctive.not_isPrefixOf starts (name ++ rest)
  have different : ∀ mark, isNameChar mark = false → c ≠ mark := by
    intro mark outside equal
    subst equal
    rw [first] at outside
    contradiction
  apply readAll_cons (isBlank_of_isNameChar first)
  · simp [readOne, silent, startsLineComment, first, taken, left, different '#' (by decide),
      different '-' (by decide), different '\x60' (by decide), different '\'' (by decide),
      different '"' (by decide), different '/' (by decide)]
  · simp

theorem spells_word (distinctive : Distinctive sigil) {text : String}
    (word : isWord text = true) : Spells sigil text [.word text] := by
  intro rest breaks
  rw [isWord] at word
  cases shape : text.toList with
  | nil => simp [shape] at word
  | cons c name =>
      simp only [shape, Bool.and_eq_true, Bool.not_eq_true', List.all_eq_true] at word
      rw [readAll_name distinctive word.2 breaks.endsName, ← shape, String.ofList_toList, word.1]
      simp

theorem readAll_digits (distinctive : Distinctive sigil) {row rest : List Char}
    (digits : ∀ c ∈ row, c.isDigit = true) (nonempty : row ≠ [])
    (ends : ∀ c ∈ rest.head?, isNameChar c = false) :
    readAll sigil.toList (row ++ rest) =
      (readAll sigil.toList rest).map (.number (String.ofList row) :: ·) := by
  cases row with
  | nil => exact absurd rfl nonempty
  | cons c row =>
      have inside : ∀ d ∈ c :: row, d.isAlphanum = true := by
        intro d member
        rw [Char.isAlphanum, digits d member, Bool.or_true]
      rw [readAll_name distinctive inside ends, if_pos (digits c (List.mem_cons_self ..))]

theorem spells_number (distinctive : Distinctive sigil) (n : Nat) :
    Spells sigil (String.ofList (Number.digits n)) [.number (String.ofList (Number.digits n))] := by
  intro rest breaks
  rw [String.toList_ofList, readAll_digits distinctive (fun _ => Number.isDigit_of_mem_digits)
    (Number.digits_ne_nil n) breaks.endsName]
  rfl

/-! ## Blanks and symbols -/

theorem leads_blank : Leads sigil " " [] := by
  intro rest
  simp [readAll_blank _ (show isBlank ' ' = true by decide)]

theorem leads_symbol (distinctive : Distinctive sigil) {c : Char} (alone : c ∈ loneSymbols) :
    Leads sigil (String.singleton c) [.symbol (String.singleton c)] := by
  have solid : ∀ d ∈ loneSymbols, isBlank d = false := by simp [loneSymbols, isBlank]
  have starts : ∀ d ∈ loneSymbols, startsToken d = true := by simp [loneSymbols, startsToken]
  intro rest
  have silent := distinctive.not_isPrefixOf (starts c alone) rest
  have one : readOne sigil.toList (c :: rest) = some (.symbol (String.singleton c), rest) := by
    simp only [loneSymbols, List.mem_cons, List.not_mem_nil, or_false] at alone
    rcases alone with rfl | rfl | rfl | rfl | rfl | rfl <;>
      simp [readOne, silent, startsLineComment, isNameChar, symbolAt, longSymbols]
  rw [String.toList_singleton, List.singleton_append,
    readAll_cons (solid c alone) one (Nat.le_refl _)]
  simp

def operators : List String := ["=", "<>", ">", ">=", "<", "<=", "+", "-", "*", "/"]

theorem readOne_operator (distinctive : Distinctive sigil) {operator : String}
    (known : operator ∈ operators) (rest : List Char) :
    readOne sigil.toList (operator.toList ++ ' ' :: rest) =
      some (.symbol operator, ' ' :: rest) := by
  have silent : ∀ c text, startsToken c = true → sigil.toList.isPrefixOf (c :: text) = false :=
    fun c text starts => distinctive.not_isPrefixOf starts text
  simp only [operators, List.mem_cons, List.not_mem_nil, or_false] at known
  rcases known with rfl | rfl | rfl | rfl | rfl | rfl | rfl | rfl | rfl | rfl <;>
    simp [readOne, silent, startsToken, startsLineComment, isBlank, isNameChar, symbolAt,
      longSymbols]

theorem leads_operator (distinctive : Distinctive sigil) {operator : String}
    (known : operator ∈ operators) :
    Leads sigil (" " ++ operator ++ " ") [.symbol operator] := by
  have solid : ∀ o ∈ operators, ∃ c more, o.toList = c :: more ∧ isBlank c = false := by
    simp [operators, isBlank]
  intro rest
  have one := readOne_operator distinctive known rest
  rcases solid operator known with ⟨c, more, shape, solid⟩
  rw [shape, List.cons_append] at one
  have blank : isBlank ' ' = true := by decide
  simp [shape, readAll_blank _ blank, readAll_cons solid one]

/-! ## Phrases

The fixed parts of statements consist of keywords, blanks and symbols that stand alone,
and none ends in a keyword. Their tokens can be computed. -/

def isPhrase : List Char → Bool
  | [] => true
  | c :: rest =>
      (c ∈ ' ' :: loneSymbols || (c.isAlpha && !rest.isEmpty)) && isPhrase rest

def wordOf (letters : List Char) : List Token :=
  if letters.isEmpty then [] else [.word (String.ofList letters)]

def phraseTokens (letters : List Char) : List Char → List Token
  | [] => wordOf letters
  | c :: rest =>
      if c.isAlpha then phraseTokens (letters ++ [c]) rest
      else if c = ' ' then wordOf letters ++ phraseTokens [] rest
      else wordOf letters ++ .symbol (String.singleton c) :: phraseTokens [] rest

theorem not_isDigit_of_isAlpha {c : Char} (letter : c.isAlpha = true) : c.isDigit = false := by
  delta Char.isAlpha Char.isUpper Char.isLower at letter
  delta Char.isDigit
  simp only [ge_iff_le, UInt32.le_iff_toNat_le, Bool.or_eq_true, Bool.and_eq_true,
    decide_eq_true_eq, Bool.and_eq_false_iff, decide_eq_false_iff_not] at letter ⊢
  have bounds : 'A'.val.toNat = 65 ∧ 'a'.val.toNat = 97 ∧ '9'.val.toNat = 57 :=
    ⟨rfl, rfl, rfl⟩
  omega

theorem readAll_wordOf (distinctive : Distinctive sigil) {letters rest : List Char}
    (inside : ∀ c ∈ letters, c.isAlpha = true) (breaks : Breaks rest) :
    readAll sigil.toList (letters ++ rest) =
      (readAll sigil.toList rest).map (wordOf letters ++ ·) := by
  cases letters with
  | nil => simp [wordOf]
  | cons c letters =>
      have names : ∀ d ∈ c :: letters, d.isAlphanum = true := by
        intro d member
        simp [Char.isAlphanum, inside d member]
      have first := not_isDigit_of_isAlpha (inside c (List.mem_cons_self ..))
      rw [readAll_name distinctive names breaks.endsName, first]
      simp [wordOf]

theorem readAll_phrase (distinctive : Distinctive sigil) (rest : List Char) {text : List Char}
    (phrase : isPhrase text = true) {letters : List Char}
    (inside : ∀ c ∈ letters, c.isAlpha = true) (ended : text = [] → letters = []) :
    readAll sigil.toList (letters ++ (text ++ rest)) =
      (readAll sigil.toList rest).map (phraseTokens letters text ++ ·) := by
  induction text generalizing letters with
  | nil => simp [ended rfl, phraseTokens, wordOf]
  | cons c text induction =>
      simp only [isPhrase, Bool.and_eq_true, Bool.or_eq_true, decide_eq_true_eq] at phrase
      rcases phrase with ⟨kind, phrase⟩
      cases letter : c.isAlpha with
      | true =>
          have further : text ≠ [] := by
            intro equal
            subst equal
            have outside : ∀ d ∈ ' ' :: loneSymbols, d.isAlpha = false := by
              simp [loneSymbols]
            rcases kind with lone | ⟨-, nonempty⟩
            · rw [outside c lone] at letter
              contradiction
            · simp at nonempty
          have extended : ∀ d ∈ letters ++ [c], d.isAlpha = true := by
            intro d member
            rcases List.mem_append.mp member with old | new
            · exact inside d old
            · rw [List.mem_singleton.mp new, letter]
          have read := induction phrase extended fun empty => absurd empty further
          rw [phraseTokens, if_pos letter, ← read]
          simp
      | false =>
          have lone : c ∈ ' ' :: loneSymbols := by simpa [letter] using kind
          have breaks : Breaks (c :: text ++ rest) := by simpa [Breaks] using lone
          have read := @induction phrase [] (by simp) (by simp)
          rw [List.nil_append] at read
          rw [readAll_wordOf distinctive inside breaks, phraseTokens, if_neg (by simp [letter])]
          rcases List.mem_cons.mp lone with rfl | alone
          · rw [List.cons_append, readAll_blank _ (by decide), read]
            simp [Function.comp_def]
          · have different : c ≠ ' ' := by
              intro equal
              subst equal
              exact absurd alone (by decide)
            have symbol := leads_symbol distinctive alone (text ++ rest)
            rw [String.toList_singleton, List.singleton_append] at symbol
            rw [List.cons_append, symbol, read]
            simp [different, Function.comp_def]

def Phrase (text : String) (tokens : List Token) : Prop :=
  isPhrase text.toList = true ∧ phraseTokens [] text.toList = tokens

instance (text : String) (tokens : List Token) : Decidable (Phrase text tokens) :=
  inferInstanceAs (Decidable (_ ∧ _))

theorem leads_phrase (distinctive : Distinctive sigil) {text : String} {tokens : List Token}
    (phrase : Phrase text tokens) : Leads sigil text tokens := by
  rcases phrase with ⟨isPhrase, rfl⟩
  intro rest
  exact @readAll_phrase _ distinctive rest _ isPhrase [] (by simp) (fun _ => rfl)

example (distinctive : Distinctive sigil) :
    Leads sigil "SELECT COUNT(*) FROM "
      [.word "SELECT", .word "COUNT", .symbol "(", .symbol "*", .symbol ")", .word "FROM"] :=
  leads_phrase distinctive (by decide)

theorem Leads.closed (distinctive : Distinctive sigil) {phrase text : String}
    {before tokens : List Token} (opening : Leads sigil phrase before)
    (inside : Spells sigil text tokens) :
    Leads sigil (phrase ++ text ++ ")") (before ++ tokens ++ [.symbol ")"]) := by
  have closing : Leads sigil ")" [.symbol ")"] := leads_phrase distinctive (by decide)
  exact (opening.spells_append inside).leads_append closing (by decide)

/-! ## Rows -/

theorem leads_comma (distinctive : Distinctive sigil) : Leads sigil "," [.symbol ","] :=
  leads_phrase distinctive (by decide)

def commaTokens (items : List (List Token)) : List Token := [.symbol ","].intercalate items

@[simp] theorem commaTokens_nil : commaTokens [] = [] := rfl

@[simp] theorem commaTokens_singleton (item : List Token) : commaTokens [item] = item := by
  simp [commaTokens]

@[simp] theorem commaTokens_cons_cons (item next : List Token) (items : List (List Token)) :
    commaTokens (item :: next :: items) =
      item ++ .symbol "," :: commaTokens (next :: items) := by
  simp [commaTokens]

theorem mem_commaTokens {token : Token} {items : List (List Token)}
    (member : token ∈ commaTokens items) :
    token = .symbol "," ∨ ∃ item ∈ items, token ∈ item := by
  induction items with
  | nil => simp at member
  | cons item items induction =>
      cases items with
      | nil => exact .inr ⟨item, List.mem_cons_self .., by simpa using member⟩
      | cons next items =>
          rw [commaTokens_cons_cons, List.mem_append, List.mem_cons] at member
          rcases member with inside | comma | behind
          · exact .inr ⟨item, List.mem_cons_self .., inside⟩
          · exact .inl comma
          · rcases induction behind with comma | ⟨other, among, inside⟩
            · exact .inl comma
            · exact .inr ⟨other, List.mem_cons_of_mem _ among, inside⟩

theorem spells_separated {separator : String} {between : List Token}
    (leads : Leads sigil separator between) (opens : Opens separator) {texts : List String}
    {rows : List (List Token)} (spelled : List.Forall₂ (Spells sigil) texts rows) :
    Spells sigil (separator.intercalate texts) (between.intercalate rows) := by
  induction spelled with
  | nil =>
      intro rest _
      simp
  | cons first others induction =>
      cases others with
      | nil => simpa using first
      | cons second others =>
          have joined := (first.leads_append leads opens).spells_append induction
          simpa using joined

theorem spells_row (distinctive : Distinctive sigil) {texts : List String}
    {rows : List (List Token)} (spelled : List.Forall₂ (Spells sigil) texts rows) :
    Spells sigil (",".intercalate texts) (commaTokens rows) :=
  spells_separated (leads_comma distinctive) (by decide) spelled

theorem spells_commas (distinctive : Distinctive sigil) {items : List α} {text : α → String}
    {tokens : α → List Token} (spelled : ∀ item ∈ items, Spells sigil (text item) (tokens item)) :
    Spells sigil (",".intercalate (items.map text)) (commaTokens (items.map tokens)) := by
  apply spells_row distinctive
  rw [List.forall₂_map_left_iff, List.forall₂_map_right_iff, List.forall₂_same]
  exact spelled

end

end BoundSql.Sql
