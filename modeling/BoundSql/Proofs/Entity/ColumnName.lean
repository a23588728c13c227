import Mathlib.Data.List.Basic
import BoundSql.Entity.ColumnName

/-!
When two members share a column. Underscores stand between the words of a column name and nowhere
else in it, so names in ASCII are mapped to one column exactly if their words, in small letters, are
the same.
-/

namespace BoundSql.Entity

open Text

def smallWords (member : String) : List (List Char) := (words member.toList).map lower

def IsAscii (text : List Char) : Prop := ∀ c ∈ text, c.toNat < 0x80

theorem forall_ascii {p : Char → Prop} (each : ∀ code < 0x80, p (Char.ofNat code)) {c : Char}
    (ascii : c.toNat < 0x80) : p c := by
  rw [← Char.ofNat_toNat c]
  exact each c.toNat ascii

/-! ## Clusters -/

def asciiClasses : List ClusterClass := [.carriageReturn, .lineFeed, .control, .other]

theorem ofChar_mem_asciiClasses {c : Char} (ascii : c.toNat < 0x80) :
    ClusterClass.ofChar c ∈ asciiClasses := by
  rw [ClusterClass.ofChar, if_pos ascii, ClusterClass.ofAscii]
  split
  · simp [asciiClasses]
  split
  · simp [asciiClasses]
  split <;> simp [asciiClasses]

theorem joins_ascii {state : ClusterState} {next : ClusterClass}
    (sort : state.last ∈ asciiClasses) (sort' : next ∈ asciiClasses)
    (joins : state.joins next = true) : state.last = .carriageReturn ∧ next = .lineFeed := by
  rcases state with ⟨last, _, _, _⟩
  simp only [asciiClasses, List.mem_cons, List.not_mem_nil, or_false] at sort sort'
  rcases sort with rfl | rfl | rfl | rfl <;> rcases sort' with rfl | rfl | rfl | rfl <;>
    first | exact ⟨rfl, rfl⟩ | contradiction

theorem eq_of_ofChar_carriageReturn {c : Char} (ascii : c.toNat < 0x80) :
    ClusterClass.ofChar c = .carriageReturn → c = '\r' :=
  forall_ascii (p := fun c => ClusterClass.ofChar c = .carriageReturn → c = '\r')
    (by decide +kernel) ascii

theorem eq_of_ofChar_lineFeed {c : Char} (ascii : c.toNat < 0x80) :
    ClusterClass.ofChar c = .lineFeed → c = '\n' :=
  forall_ascii (p := fun c => ClusterClass.ofChar c = .lineFeed → c = '\n')
    (by decide +kernel) ascii

def IsAsciiCluster (cluster : List Char) : Prop := cluster = ['\r', '\n'] ∨ ∃ c, cluster = [c]

theorem isAsciiCluster_clustersFrom {text : List Char} (ascii : IsAscii text)
    {state : ClusterState} {cluster : List Char} (sort : state.last ∈ asciiClasses)
    (begun : IsAsciiCluster cluster) (carriage : state.last = .carriageReturn → cluster = ['\r']) :
    ∀ part ∈ clustersFrom state cluster text, IsAsciiCluster part := by
  induction text generalizing state cluster with
  | nil => simpa [clustersFrom] using begun
  | cons c text induction =>
      rcases List.forall_mem_cons.mp ascii with ⟨first, others⟩
      rw [clustersFrom]
      split
      next joins =>
          rcases joins_ascii sort (ofChar_mem_asciiClasses first) joins with ⟨last, feed⟩
          rcases eq_of_ofChar_lineFeed first feed with rfl
          rw [carriage last]
          apply induction others (ofChar_mem_asciiClasses first) (.inl rfl)
          intro again
          exact absurd (feed.symm.trans again) (by decide)
      next =>
          refine List.forall_mem_cons.mpr ⟨begun, ?_⟩
          apply induction others (ofChar_mem_asciiClasses first) (.inr ⟨c, rfl⟩)
          intro last
          rw [eq_of_ofChar_carriageReturn first last]

theorem isAsciiCluster_clusters {text : List Char} (ascii : IsAscii text) :
    ∀ part ∈ clusters text, IsAsciiCluster part := by
  cases text with
  | nil => simp [clusters]
  | cons c text =>
      rcases List.forall_mem_cons.mp ascii with ⟨first, others⟩
      apply isAsciiCluster_clustersFrom others (ofChar_mem_asciiClasses first) (.inr ⟨c, rfl⟩)
      intro last
      rw [eq_of_ofChar_carriageReturn first last]

def KeepsUnderscore (cluster : List Char) : Prop := '_' ∈ cluster → cluster = ['_']

theorem keepsUnderscore_clusters {text : List Char} (ascii : IsAscii text) :
    ∀ part ∈ clusters text, KeepsUnderscore part := by
  intro part among inside
  rcases isAsciiCluster_clusters ascii part among with rfl | ⟨c, rfl⟩
  · exact absurd inside (by decide)
  · rw [List.mem_singleton.mp inside]

/-! ## Words -/

theorem forall_mem_wordsFrom {p : Char → Prop} {parts : List (List Char)}
    (each : ∀ part ∈ parts, isSeparator part = false → ∀ c ∈ part, p c)
    {previous : Option (List Char)} {word : List Char} (begun : ∀ c ∈ word, p c) :
    ∀ other ∈ wordsFrom previous word parts, ∀ c ∈ other, p c := by
  induction parts generalizing previous word with
  | nil => simpa [wordsFrom] using begun
  | cons part parts induction =>
      rcases List.forall_mem_cons.mp each with ⟨first, others⟩
      rw [wordsFrom]
      split
      next => exact List.forall_mem_cons.mpr ⟨begun, induction others (by simp)⟩
      next solid =>
          have inside := first (by simpa using solid)
          split
          next => exact List.forall_mem_cons.mpr ⟨begun, induction others inside⟩
          next => exact induction others (List.forall_mem_append.mpr ⟨begun, inside⟩)

theorem forall_mem_words {p : Char → Prop} {text : List Char}
    (each : ∀ part ∈ clusters text, isSeparator part = false → ∀ c ∈ part, p c) :
    ∀ word ∈ words text, word ≠ [] ∧ ∀ c ∈ word, p c := by
  intro word among
  rcases List.mem_filter.mp among with ⟨inside, nonempty⟩
  exact ⟨by simpa using nonempty, forall_mem_wordsFrom each (by simp) word inside⟩

theorem word_ascii {text : List Char} (ascii : IsAscii text) :
    ∀ word ∈ words text, word ≠ [] ∧ ∀ c ∈ word, c.toNat < 0x80 ∧ c ≠ '_' := by
  apply forall_mem_words
  intro part among solid c inside
  have within : c ∈ text := by
    rw [← flatten_clusters text]
    exact List.mem_flatten_of_mem among inside
  refine ⟨ascii c within, ?_⟩
  rintro rfl
  rw [keepsUnderscore_clusters ascii part among inside] at solid
  contradiction

theorem toLower_ne_underscore {c : Char} (other : c ≠ '_') : c.toLower ≠ '_' := by
  unfold Char.toLower
  split
  next capital =>
      intro same
      have code := congrArg (fun d : Char => d.val.toNat) same
      simp only [ge_iff_le, UInt32.le_iff_toNat_le, UInt32.toNat_add] at capital code
      have codes : 'A'.val.toNat = 65 ∧ 'Z'.val.toNat = 90 ∧ '_'.val.toNat = 95 ∧
          ('a'.val - 'A'.val).toNat = 32 := ⟨rfl, rfl, rfl, rfl⟩
      omega
  next => exact other

theorem lowerFrom_ascii {word : List Char} (ascii : IsAscii word) (before : List Char) :
    lowerFrom before word = word.map Char.toLower := by
  induction word generalizing before with
  | nil => rfl
  | cons c word induction =>
      rcases List.forall_mem_cons.mp ascii with ⟨first, others⟩
      have notSigma : c ≠ capitalSigma := by
        rintro rfl
        exact absurd first (by decide)
      rw [lowerFrom, if_neg notSigma, lowerChar, if_pos first, induction others]
      rfl

/-! ## Column names -/

theorem smallWord_ascii {member : String} (ascii : IsAscii member.toList) :
    ∀ word ∈ smallWords member, word ≠ [] ∧ '_' ∉ word := by
  intro small among
  rcases List.mem_map.mp among with ⟨word, inside, rfl⟩
  rcases word_ascii ascii word inside with ⟨nonempty, plain⟩
  rw [lower, lowerFrom_ascii fun c member => (plain c member).1]
  refine ⟨by simpa using nonempty, ?_⟩
  intro underscore
  rcases List.mem_map.mp underscore with ⟨c, inside, same⟩
  exact toLower_ne_underscore (plain c inside).2 same

theorem intercalate_injective {left right : List (List Char)}
    (clear : ∀ word ∈ left, word ≠ [] ∧ '_' ∉ word)
    (clear' : ∀ word ∈ right, word ≠ [] ∧ '_' ∉ word)
    (equal : ['_'].intercalate left = ['_'].intercalate right) : left = right := by
  have empty {row : List (List Char)} (clear : ∀ word ∈ row, word ≠ [] ∧ '_' ∉ word)
      (nothing : ['_'].intercalate row = []) : row = [] := by
    cases row with
    | nil => rfl
    | cons word row =>
        have first := (List.forall_mem_cons.mp clear).1.1
        cases row <;> simp [first] at nothing
  rcases eq_or_ne left [] with rfl | someLeft
  · exact (empty clear' equal.symm).symm
  rcases eq_or_ne right [] with rfl | someRight
  · exact empty clear equal
  have first := List.splitOn_intercalate '_' (fun word among => (clear word among).2) someLeft
  have second := List.splitOn_intercalate '_' (fun word among => (clear' word among).2) someRight
  rw [← first, equal, second]

/-- Members named in ASCII share a column exactly if they have the same words in small letters. -/
theorem columnName_eq_iff {left right : String} (ascii : IsAscii left.toList)
    (ascii' : IsAscii right.toList) :
    columnName left = columnName right ↔ smallWords left = smallWords right := by
  rw [columnName, columnName, String.ofList_inj]
  constructor
  · exact intercalate_injective (smallWord_ascii ascii) (smallWord_ascii ascii')
  · intro same
    rw [smallWords, smallWords] at same
    rw [same]

end BoundSql.Entity
