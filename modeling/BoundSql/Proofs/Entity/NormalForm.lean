import Mathlib.Data.List.Basic
import Mathlib.Data.List.Chain
import BoundSql.Proofs.Entity.ColumnName

/-!
Column names in normal form. Inside a word no letter stands beside a digit, and small letters bring
no other end of a word, so the words of a column name are those that it was made of. The names in
normal form are therefore exactly those that are mapped to themselves.

The main statement is `columnName_stable`.
-/

namespace BoundSql.Entity

open Text

/-! ## ASCII, character by character -/

def singles (text : List Char) : List (List Char) := text.map fun c => [c]

theorem singles_cons (c : Char) (text : List Char) : singles (c :: text) = [c] :: singles text :=
  rfl

theorem startsWord_congr {previous : Option (List Char)} {cluster : List Char}
    {next next' : Option (List Char)} (same : next.any isSmall = next'.any isSmall) :
    startsWord previous cluster next = startsWord previous cluster next' := by
  cases previous with
  | none => rfl
  | some before => rw [startsWord, startsWord, same]

structure IsNeutral (cluster : List Char) : Prop where
  capital : isCapital cluster = false
  small : isSmall cluster = false
  numeral : isNumeral cluster = false
  separator : isSeparator cluster = false

variable {previous : Option (List Char)} {cluster word : List Char} {parts : List (List Char)}

theorem wordsFrom_neutral (neutral : IsNeutral cluster) :
    wordsFrom previous word (cluster :: parts) = wordsFrom none (word ++ cluster) parts := by
  have before (next : Option (List Char)) : startsWord previous cluster next = false := by
    cases previous with
    | none => rfl
    | some other => simp [startsWord, neutral.capital, neutral.small, neutral.numeral]
  have behind (other : List Char) (next : Option (List Char)) :
      startsWord (some cluster) other next = startsWord none other next := by
    simp [startsWord, neutral.capital, neutral.small, neutral.numeral]
  rw [wordsFrom, neutral.separator, before]
  cases parts with
  | nil => rfl
  | cons other parts => simp only [wordsFrom, behind]; rfl

theorem wordsFrom_singles_flatten (each : ∀ part ∈ parts, IsAsciiCluster part) :
    wordsFrom previous word (singles parts.flatten) = wordsFrom previous word parts := by
  induction parts generalizing previous word with
  | nil => rfl
  | cons part parts induction =>
      rcases List.forall_mem_cons.mp each with ⟨first, others⟩
      rcases first with rfl | ⟨c, rfl⟩
      · have carriage : IsNeutral ['\r'] := ⟨by decide, by decide, by decide, by decide⟩
        have feed : IsNeutral ['\n'] := ⟨by decide, by decide, by decide, by decide⟩
        have both : IsNeutral ['\r', '\n'] := ⟨by decide, by decide, by decide, by decide⟩
        have front : (['\r', '\n'] :: parts).flatten = '\r' :: '\n' :: parts.flatten := rfl
        rw [front, singles_cons, singles_cons, wordsFrom_neutral carriage, wordsFrom_neutral feed,
          wordsFrom_neutral both, induction others, List.append_assoc]
        rfl
      · have next : (singles parts.flatten).head?.any isSmall = parts.head?.any isSmall := by
          cases parts with
          | nil => rfl
          | cons part parts =>
              rcases others part (List.mem_cons_self ..) with rfl | ⟨d, rfl⟩ <;> rfl
        have front : ([c] :: parts).flatten = c :: parts.flatten := rfl
        rw [front, singles_cons, wordsFrom, wordsFrom, startsWord_congr next]
        simp only [induction others]

theorem words_ascii {text : List Char} (ascii : IsAscii text) :
    words text = (wordsFrom none [] (singles text)).filter (!·.isEmpty) := by
  have same : wordsFrom none [] (singles (clusters text).flatten) =
      wordsFrom none [] (clusters text) :=
    wordsFrom_singles_flatten (isAsciiCluster_clusters ascii)
  rw [flatten_clusters] at same
  rw [words, same]

/-! ## Kinds of characters -/

theorem isCapital_singleton {c : Char} (ascii : c.toNat < 0x80) : isCapital [c] = c.isUpper :=
  forall_ascii (p := fun c => isCapital [c] = c.isUpper) (by decide +kernel) ascii

theorem isSmall_singleton {c : Char} (ascii : c.toNat < 0x80) : isSmall [c] = c.isLower :=
  forall_ascii (p := fun c => isSmall [c] = c.isLower) (by decide +kernel) ascii

theorem isAlpha_eq (c : Char) : c.isAlpha = (c.isUpper || c.isLower) := rfl

theorem isNumeral_singleton (c : Char) : isNumeral [c] = c.isDigit := by
  simp [isNumeral]

theorem isSeparator_eq_false_iff {c : Char} :
    isSeparator [c] = false ↔ c ≠ '_' ∧ c ≠ '-' ∧ c ≠ ' ' := by
  simp [isSeparator, and_assoc]

theorem toLower_ascii {c : Char} (ascii : c.toNat < 0x80) :
    c.toLower.toNat < 0x80 ∧ c.toLower.isUpper = false ∧ c.toLower.isAlpha = c.isAlpha ∧
      c.toLower.isDigit = c.isDigit ∧ isSeparator [c.toLower] = isSeparator [c] :=
  forall_ascii (p := fun c => c.toLower.toNat < 0x80 ∧ c.toLower.isUpper = false ∧
    c.toLower.isAlpha = c.isAlpha ∧ c.toLower.isDigit = c.isDigit ∧
    isSeparator [c.toLower] = isSeparator [c]) (by decide +kernel) ascii

theorem toLower_eq_self {c : Char} (ascii : c.toNat < 0x80) :
    c.isUpper = false → c.toLower = c :=
  forall_ascii (p := fun c => c.isUpper = false → c.toLower = c) (by decide +kernel) ascii

/-! ## Names in normal form -/

/-- Whether two characters may stand side by side in a column name. -/
structure MayMeet (a b : Char) : Prop where
  underscores : ¬(a = '_' ∧ b = '_')
  letter_digit : ¬(a.isAlpha = true ∧ b.isDigit = true)
  digit_letter : ¬(a.isDigit = true ∧ b.isAlpha = true)

/-- The normal form of column names: small letters without blanks and hyphens, single underscores
inside only, and no letter beside a digit. -/
structure IsColumnName (name : List Char) : Prop where
  ascii : IsAscii name
  plain : ∀ c ∈ name, c.isUpper = false ∧ c ≠ '-' ∧ c ≠ ' '
  starts : name.head? ≠ some '_'
  ends : name.getLast? ≠ some '_'
  chain : name.IsChain MayMeet

/-! ## Where words end -/

section

variable {a b : Char} {next : Option (List Char)} (ascii : a.toNat < 0x80)
  (ascii' : b.toNat < 0x80)

include ascii ascii'

theorem mayMeet_of_startsWord (solid : isSeparator [b] = false)
    (goesOn : startsWord (some [a]) [b] next = false) : MayMeet a b := by
  simp only [startsWord, isCapital_singleton ascii, isCapital_singleton ascii',
    isSmall_singleton ascii, isSmall_singleton ascii', isNumeral_singleton,
    Bool.or_eq_false_iff, Bool.and_eq_false_iff] at goesOn
  constructor
  · intro both
    exact (isSeparator_eq_false_iff.mp solid).1 both.2
  · rw [isAlpha_eq, Bool.or_eq_true]
    grind
  · rw [isAlpha_eq, Bool.or_eq_true]
    grind

theorem startsWord_of_mayMeet (small : b.isUpper = false) (meet : MayMeet a b) :
    startsWord (some [a]) [b] next = false := by
  rcases meet with ⟨-, letter_digit, digit_letter⟩
  rw [isAlpha_eq] at letter_digit digit_letter
  simp only [startsWord, isCapital_singleton ascii, isCapital_singleton ascii',
    isSmall_singleton ascii, isSmall_singleton ascii', isNumeral_singleton, small]
  grind

end

theorem MayMeet.toLower {a b : Char} (meet : MayMeet a b)
    (solid : a.toNat < 0x80 ∧ isSeparator [a] = false)
    (solid' : b.toNat < 0x80 ∧ isSeparator [b] = false) : MayMeet a.toLower b.toLower := by
  rcases toLower_ascii solid.1 with ⟨-, -, letter, digit, same⟩
  rcases toLower_ascii solid'.1 with ⟨-, -, letter', digit', -⟩
  constructor
  · intro both
    exact (isSeparator_eq_false_iff.mp (same.trans solid.2)).1 both.1
  · rw [letter, digit']
    exact meet.letter_digit
  · rw [digit, letter']
    exact meet.digit_letter

/-! ## Words of an ASCII text -/

theorem mem_of_mem_words {text word : List Char} (among : word ∈ words text) {c : Char}
    (member : c ∈ word) : c ∈ text := by
  have each : ∀ part ∈ clusters text, isSeparator part = false → ∀ c ∈ part, c ∈ text := by
    intro part inside _ c member
    rw [← flatten_clusters text]
    exact List.mem_flatten_of_mem inside member
  exact (forall_mem_words each word among).2 c member

theorem lower_of_mem_words {text word : List Char} (ascii : IsAscii text)
    (among : word ∈ words text) : lower word = word.map Char.toLower :=
  lowerFrom_ascii (fun c member => ascii c (mem_of_mem_words among member)) []

/-! ## Into normal form -/

structure IsColumnWord (word : List Char) : Prop where
  nonempty : word ≠ []
  ascii : IsAscii word
  plain : ∀ c ∈ word, c.isUpper = false ∧ isSeparator [c] = false
  chain : word.IsChain MayMeet

theorem chain_wordsFrom {text begun : List Char} (ascii : IsAscii text)
    (before : ∀ a ∈ begun.getLast?, a.toNat < 0x80 ∧ previous = some [a])
    (chain : begun.IsChain MayMeet) :
    ∀ word ∈ wordsFrom previous begun (singles text), word.IsChain MayMeet := by
  induction text generalizing previous begun with
  | nil => simpa [singles, wordsFrom] using chain
  | cons c text induction =>
      rcases List.forall_mem_cons.mp ascii with ⟨first, others⟩
      rw [singles_cons, wordsFrom]
      split
      next => exact List.forall_mem_cons.mpr ⟨chain, induction others (by simp) .nil⟩
      next solid =>
          split
          next =>
              refine List.forall_mem_cons.mpr ⟨chain, induction others ?_ (.singleton c)⟩
              simp [first]
          next goesOn =>
              apply induction others
              · simp [first]
              · refine List.isChain_append.mpr ⟨chain, .singleton c, ?_⟩
                intro a last b head
                rcases before a last with ⟨ascii', rfl⟩
                rcases Option.some.inj head with rfl
                exact mayMeet_of_startsWord ascii' first (by simpa using solid)
                  (by simpa using goesOn)

theorem solid_wordsFrom {text : List Char} (ascii : IsAscii text) :
    ∀ word ∈ wordsFrom none [] (singles text),
      ∀ c ∈ word, c.toNat < 0x80 ∧ isSeparator [c] = false := by
  refine forall_mem_wordsFrom ?_ (by simp)
  intro part among solid c inside
  rcases List.mem_map.mp among with ⟨d, member, rfl⟩
  rcases List.mem_singleton.mp inside with rfl
  exact ⟨ascii c member, solid⟩

theorem isColumnWord_of_mem_smallWords {member : String} (ascii : IsAscii member.toList) :
    ∀ word ∈ smallWords member, IsColumnWord word := by
  intro small among
  rcases List.mem_map.mp among with ⟨word, inside, rfl⟩
  rw [lower_of_mem_words ascii inside]
  rw [words_ascii ascii] at inside
  rcases List.mem_filter.mp inside with ⟨inside, nonempty⟩
  have solid := solid_wordsFrom ascii word inside
  have chain := chain_wordsFrom ascii (by simp) .nil word inside
  constructor
  · simpa using nonempty
  · intro small among
    rcases List.mem_map.mp among with ⟨c, member, rfl⟩
    exact (toLower_ascii (solid c member).1).1
  · intro small among
    rcases List.mem_map.mp among with ⟨c, member, rfl⟩
    rcases toLower_ascii (solid c member).1 with ⟨-, small, -, -, same⟩
    exact ⟨small, same.trans (solid c member).2⟩
  · refine (List.isChain_map _).mpr (chain.imp_of_mem_imp ?_)
    intro a b member member' meet
    exact meet.toLower (solid a member) (solid b member')

theorem IsColumnWord.underscore_not_mem {word : List Char} (isWord : IsColumnWord word) :
    '_' ∉ word := by
  intro member
  exact absurd (isWord.plain '_' member).2 (by decide)

theorem IsColumnWord.isColumnName {word : List Char} (isWord : IsColumnWord word) :
    IsColumnName word where
  ascii := isWord.ascii
  plain c member := by
    rcases isWord.plain c member with ⟨small, solid⟩
    exact ⟨small, (isSeparator_eq_false_iff.mp solid).2⟩
  starts first := isWord.underscore_not_mem (List.mem_of_head? first)
  ends last := isWord.underscore_not_mem (List.mem_of_getLast? last)
  chain := isWord.chain

theorem mayMeet_underscore {c : Char} (other : c ≠ '_') : MayMeet c '_' ∧ MayMeet '_' c := by
  constructor <;> constructor <;> simp [other]

theorem IsColumnWord.join {word name : List Char} (isWord : IsColumnWord word)
    (isName : IsColumnName name) (nonempty : name ≠ []) : IsColumnName (word ++ '_' :: name) where
  ascii := List.forall_mem_append.mpr
    ⟨isWord.ascii, List.forall_mem_cons.mpr ⟨by decide, isName.ascii⟩⟩
  plain := List.forall_mem_append.mpr
    ⟨isWord.isColumnName.plain, List.forall_mem_cons.mpr ⟨by decide, isName.plain⟩⟩
  starts := by
    rw [List.head?_append_of_ne_nil _ isWord.nonempty]
    exact isWord.isColumnName.starts
  ends := by
    rw [List.getLast?_append_cons, List.getLast?_cons_of_ne_nil nonempty]
    exact isName.ends
  chain := by
    have front (c : Char) (first : c ∈ name.head?) : MayMeet '_' c := by
      refine (mayMeet_underscore ?_).2
      intro same
      exact isName.starts (same ▸ first)
    refine List.isChain_append.mpr
      ⟨isWord.chain, List.isChain_cons.mpr ⟨front, isName.chain⟩, ?_⟩
    intro c last d head
    rcases Option.some.inj head with rfl
    refine (mayMeet_underscore ?_).1
    intro same
    exact isWord.isColumnName.ends (same ▸ last)

theorem isColumnName_intercalate {row : List (List Char)}
    (each : ∀ word ∈ row, IsColumnWord word) : IsColumnName (['_'].intercalate row) := by
  induction row with
  | nil => exact ⟨by simp [IsAscii], by simp, by simp, by simp, by simp⟩
  | cons word row induction =>
      rcases List.forall_mem_cons.mp each with ⟨first, others⟩
      cases row with
      | nil =>
          rw [List.intercalate_singleton]
          exact first.isColumnName
      | cons next row =>
          have nonempty : ['_'].intercalate (next :: row) ≠ [] := by
            have start := (others next (List.mem_cons_self ..)).nonempty
            cases row <;> simp [start]
          rw [List.intercalate_cons_cons, List.append_assoc]
          exact first.join (induction others) nonempty

theorem isColumnName_columnName {member : String} (ascii : IsAscii member.toList) :
    IsColumnName (columnName member).toList := by
  rw [columnName, String.toList_ofList]
  exact isColumnName_intercalate (isColumnWord_of_mem_smallWords ascii)

/-! ## In normal form nothing changes -/

theorem wordsFrom_ne_nil (previous : Option (List Char)) (word : List Char)
    (parts : List (List Char)) : wordsFrom previous word parts ≠ [] := by
  induction parts generalizing previous word with
  | nil => simp [wordsFrom]
  | cons part parts induction =>
      rw [wordsFrom]
      split
      · exact List.cons_ne_nil _ _
      split
      · exact List.cons_ne_nil _ _
      · exact induction _ _

theorem wordsFrom_of_mayMeet {a c : Char} (ascii : a.toNat < 0x80) (ascii' : c.toNat < 0x80)
    (small : c.isUpper = false) (solid : isSeparator [c] = false) (meet : MayMeet a c) :
    wordsFrom (some [a]) word ([c] :: parts) = wordsFrom (some [c]) (word ++ [c]) parts := by
  rw [wordsFrom, solid, startsWord_of_mayMeet ascii ascii' small meet]
  rfl

/-- From the character `a` on, a name in normal form is cut at its underscores and nowhere else,
and no word is empty: only behind an underscore is nothing read of the next one. -/
theorem wordsFrom_normal {a : Char} {begun text : List Char} (ascii : IsAscii (a :: text))
    (plain : ∀ c ∈ text, c.isUpper = false ∧ c ≠ '-' ∧ c ≠ ' ')
    (chain : (a :: text).IsChain MayMeet) (ends : (a :: text).getLast? ≠ some '_')
    (begins : begun = [] → a = '_') :
    ['_'].intercalate (wordsFrom (some [a]) begun (singles text)) = begun ++ text ∧
      [] ∉ wordsFrom (some [a]) begun (singles text) := by
  induction text generalizing a begun with
  | nil =>
      have nonempty : begun ≠ [] := by
        intro nothing
        rw [begins nothing] at ends
        exact ends rfl
      simp [singles, wordsFrom, nonempty.symm]
  | cons c text induction =>
      rcases List.forall_mem_cons.mp ascii with ⟨first, ascii'⟩
      rcases List.forall_mem_cons.mp plain with ⟨⟨small, marks⟩, plain'⟩
      rcases List.isChain_cons_cons.mp chain with ⟨meet, chain'⟩
      rw [List.getLast?_cons_cons] at ends
      rw [singles_cons]
      by_cases underscore : c = '_'
      · rcases underscore with rfl
        have nonempty : begun ≠ [] := fun nothing => meet.underscores ⟨begins nothing, rfl⟩
        have cut : wordsFrom (some [a]) begun (['_'] :: singles text) =
            begun :: wordsFrom (some ['_']) [] (singles text) := rfl
        rcases @induction '_' [] ascii' plain' chain' ends fun _ => rfl with ⟨joined, filled⟩
        rw [cut, List.intercalate_cons_of_ne_nil (wordsFrom_ne_nil _ _ _), joined]
        constructor
        · simp
        · simp [nonempty.symm, filled]
      · have solid := isSeparator_eq_false_iff.mpr ⟨underscore, marks⟩
        have second := ascii' c (List.mem_cons_self ..)
        rcases @induction c (begun ++ [c]) ascii' plain' chain' ends (by simp) with
          ⟨joined, filled⟩
        rw [wordsFrom_of_mayMeet first second small solid meet, joined]
        exact ⟨by simp, filled⟩

theorem intercalate_words {text : List Char} (isName : IsColumnName text) :
    ['_'].intercalate (words text) = text := by
  rw [words_ascii isName.ascii]
  cases text with
  | nil => rfl
  | cons c text =>
      have solid : isSeparator [c] = false := by
        refine isSeparator_eq_false_iff.mpr ⟨?_, (isName.plain c (List.mem_cons_self ..)).2⟩
        intro same
        exact isName.starts (congrArg some same)
      have start : wordsFrom none [] (singles (c :: text)) =
          wordsFrom (some [c]) [c] (singles text) := by
        rw [singles_cons, wordsFrom, solid]
        rfl
      have plain := (List.forall_mem_cons.mp isName.plain).2
      rcases @wordsFrom_normal c [c] text isName.ascii plain isName.chain isName.ends (by simp)
        with ⟨joined, filled⟩
      have kept : (wordsFrom (some [c]) [c] (singles text)).filter (!·.isEmpty) =
          wordsFrom (some [c]) [c] (singles text) := by
        refine List.filter_eq_self.mpr fun word among => ?_
        cases word with
        | nil => contradiction
        | cons => rfl
      rw [start, kept, joined]
      rfl

theorem columnName_of_isColumnName {name : String} (isName : IsColumnName name.toList) :
    columnName name = name := by
  have still : ∀ word ∈ words name.toList, lower word = id word := by
    intro word among
    rw [lower_of_mem_words isName.ascii among]
    refine (List.map_congr_left fun c member => ?_).trans (List.map_id word)
    have inside := mem_of_mem_words among member
    exact toLower_eq_self (isName.ascii c inside) (isName.plain c inside).1
  rw [columnName, List.map_congr_left still, List.map_id, intercalate_words isName,
    String.ofList_toList]

/-! ## What is kept -/

theorem flatten_wordsFrom (previous : Option (List Char)) (word : List Char)
    (parts : List (List Char)) :
    (wordsFrom previous word parts).flatten =
      word ++ (parts.filter (!isSeparator ·)).flatten := by
  induction parts generalizing previous word with
  | nil => simp [wordsFrom]
  | cons part parts induction =>
      rw [wordsFrom, List.filter_cons]
      split
      next separates => simp [separates, induction]
      next solid =>
          split <;> simp [solid, induction]

theorem flatten_words_ascii {text : List Char} (ascii : IsAscii text) :
    (words text).flatten = text.filter fun c => c ∉ ['_', '-', ' '] := by
  rw [words_ascii ascii, List.flatten_filter_not_isEmpty, flatten_wordsFrom, List.nil_append]
  clear ascii
  induction text with
  | nil => rfl
  | cons c text induction =>
      have same : (!isSeparator [c]) = decide (c ∉ ['_', '-', ' ']) := by
        rw [Bool.eq_iff_iff, Bool.not_eq_true', isSeparator_eq_false_iff]
        simp
      rw [singles_cons, List.filter_cons, List.filter_cons, same]
      split <;> simp [induction]

theorem filter_intercalate {row : List (List Char)} (clear : ∀ word ∈ row, '_' ∉ word) :
    (['_'].intercalate row).filter (· ≠ '_') = row.flatten := by
  have whole {word : List Char} (none : '_' ∉ word) : word.filter (· ≠ '_') = word := by
    refine List.filter_eq_self.mpr fun c member => ?_
    rw [decide_eq_true_eq]
    intro same
    exact none (same ▸ member)
  induction row with
  | nil => rfl
  | cons word row induction =>
      rcases List.forall_mem_cons.mp clear with ⟨first, others⟩
      cases row with
      | nil => rw [List.intercalate_singleton, whole first, List.flatten_singleton]
      | cons next row =>
          rw [List.intercalate_cons_cons, List.filter_append, List.filter_append, whole first,
            induction others]
          simp

theorem filter_columnName {member : String} (ascii : IsAscii member.toList) :
    (columnName member).toList.filter (· ≠ '_') =
      (member.toList.filter fun c => c ∉ ['_', '-', ' ']).map Char.toLower := by
  have lowered : (words member.toList).map lower =
      (words member.toList).map (List.map Char.toLower) :=
    List.map_congr_left fun word among => lower_of_mem_words ascii among
  rw [columnName, String.toList_ofList, filter_intercalate, lowered, ← List.map_flatten,
    flatten_words_ascii ascii]
  exact fun word among => (isColumnWord_of_mem_smallWords ascii word among).underscore_not_mem

/-! ## Stability -/

/-- The column name of a member in ASCII is in normal form, and normal form is what the mapping
leaves as it is. On the way nothing of the member is lost but separators and capitals. -/
theorem columnName_stable (member : String) (ascii : IsAscii member.toList) :
    columnName (columnName member) = columnName member ∧
      IsColumnName (columnName member).toList ∧
      (columnName member = member ↔ IsColumnName member.toList) ∧
      (columnName member).toList.filter (· ≠ '_') =
        (member.toList.filter fun c => c ∉ ['_', '-', ' ']).map Char.toLower := by
  have isName := isColumnName_columnName ascii
  refine ⟨columnName_of_isColumnName isName, isName, ?_, filter_columnName ascii⟩
  constructor
  · intro same
    rwa [same] at isName
  · exact columnName_of_isColumnName

/-- Acronyms, digits, repeated separators and a line break. -/
theorem columnName_stable_line2 :
    columnName "__HTTPLine2-\r\n oldID_" = "http_line_2_\r\n_old_id" ∧
      columnName "http_line_2_\r\n_old_id" = "http_line_2_\r\n_old_id" ∧
      IsColumnName "http_line_2_\r\n_old_id".toList := by
  have ascii : IsAscii "__HTTPLine2-\r\n oldID_".toList := by
    have all : "__HTTPLine2-\r\n oldID_".toList.all (·.toNat < 0x80) = true := by rfl
    exact fun c member => of_decide_eq_true (List.all_eq_true.mp all c member)
  have mapped : columnName "__HTTPLine2-\r\n oldID_" = "http_line_2_\r\n_old_id" := by
    decide +kernel
  have stable := columnName_stable "__HTTPLine2-\r\n oldID_" ascii
  rw [mapped] at stable
  exact ⟨mapped, stable.1, stable.2.1⟩

end BoundSql.Entity
