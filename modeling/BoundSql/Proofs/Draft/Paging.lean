import BoundSql.Proofs.Draft.Editing
import BoundSql.Proofs.Statement.Meaning

/-!
Pages. A page is set exactly if it is numbered from 1, has room for rows, and its offset fits 64
bits; its window then starts where the window of the page before it ends. So the windows of the
first pages are the first rows, none twice and none left out. The main statement is `pages_tile`.
-/

namespace BoundSql.Sql.Draft

open Edit

variable {α : Type u} {draft : Draft} {page size : UInt64}

/-! ## One page -/

/-- Sets a page in place. Gives the outcome and the draft that is left behind. -/
def turn (draft : Draft) (page size : UInt64) : Except CompileError Unit × Draft :=
  let (outcome, desk) := (perform (.range page size)).on (.of draft)
  (outcome, desk.draft)

def rowsBefore (page size : UInt64) : Nat := (page.toNat - 1) * size.toNat

def PageFits (page size : UInt64) : Prop :=
  1 ≤ page.toNat ∧ 1 ≤ size.toNat ∧ rowsBefore page size < UInt64.size

def pageFlaw (page size : UInt64) : String :=
  "page " ++ wordText page ++ " of size " ++ wordText size ++
    if page = 0 ∨ size = 0 then " (both start at 1)" else " overflows the row offset"

theorem one_le_toNat_iff {n : UInt64} : 1 ≤ n.toNat ↔ n ≠ 0 := by
  have zero : n = 0 ↔ n.toNat = 0 := UInt64.toNat_inj.symm
  rw [Ne, zero, Nat.one_le_iff_ne_zero]

theorem setRange_of_fits (fits : PageFits page size) :
    draft.setRange page size =
      .ok { draft with paging := some (.page (.ofNat (rowsBefore page size)) size) } := by
  rcases fits with ⟨page_pos, size_pos, fits⟩
  rw [one_le_toNat_iff] at page_pos size_pos
  rw [setRange, if_neg (by simp [page_pos, size_pos])]
  exact if_pos fits

theorem setRange_of_not_fits (unfit : ¬ PageFits page size) :
    draft.setRange page size = .error (.invalidPaging (pageFlaw page size)) := by
  rw [PageFits, one_le_toNat_iff, one_le_toNat_iff] at unfit
  rw [setRange, pageFlaw]
  by_cases starts : page = 0 ∨ size = 0
  · rw [if_pos starts, if_pos (by simpa using starts)]
  · have beyond : ¬ rowsBefore page size < UInt64.size := fun fits =>
      unfit ⟨fun zero => starts (.inl zero), fun zero => starts (.inr zero), fits⟩
    rw [if_neg starts, if_neg (by simpa using starts)]
    exact if_neg beyond

theorem turn_eq (draft : Draft) (page size : UInt64) :
    draft.turn page size =
      match draft.setRange page size with
      | .ok next => (.ok (), next)
      | .error error => (.error error, draft) := by
  rw [turn, on_perform, apply]
  cases draft.setRange page size <;> simp only [settle, draft_of]

theorem turn_of_fits (fits : PageFits page size) :
    draft.turn page size =
      (.ok (), { draft with paging := some (.page (.ofNat (rowsBefore page size)) size) }) := by
  rw [turn_eq, setRange_of_fits fits]

theorem turn_of_not_fits (unfit : ¬ PageFits page size) :
    draft.turn page size = (.error (.invalidPaging (pageFlaw page size)), draft) := by
  rw [turn_eq, setRange_of_not_fits unfit]

theorem turn_eq_ok_iff : (draft.turn page size).1 = .ok () ↔ PageFits page size := by
  by_cases fits : PageFits page size
  · simp [turn_of_fits fits, fits]
  · simp [turn_of_not_fits fits, fits]

/-! ## Windows -/

theorem window_turn {earlier : Nat} (fits : PageFits page size) (number : page.toNat = earlier + 1)
    (rows : List α) :
    Paging.window (draft.turn page size).2.paging rows =
      (rows.drop (earlier * size.toNat)).take size.toNat := by
  have before : (UInt64.ofNat (rowsBefore page size)).toNat = earlier * size.toNat := by
    rw [UInt64.toNat_ofNat_of_lt' fits.2.2, rowsBefore, number, Nat.add_sub_cancel]
  rw [turn_of_fits fits, Paging.window, before]

theorem windows_tile (rows : List α) (size count : Nat) :
    ((List.range count).flatMap fun earlier => (rows.drop (earlier * size)).take size) =
      rows.take (count * size) := by
  induction count with
  | zero => simp
  | succ count induction =>
      calc (List.range (count + 1)).flatMap fun earlier => (rows.drop (earlier * size)).take size
        _ = rows.take (count * size) ++ (rows.drop (count * size)).take size := by
          rw [List.range_succ, List.flatMap_append, induction, List.flatMap_singleton]
        _ = rows.take (count * size + size) := List.take_add.symm
        _ = rows.take ((count + 1) * size) := by rw [Nat.succ_mul]

theorem windows_turn {last : UInt64}
    (fits : ∀ page, 1 ≤ page → page ≤ last → PageFits page size) (rows : List α) :
    ((List.range last.toNat).flatMap fun earlier =>
        Paging.window (draft.turn (.ofNat (earlier + 1)) size).2.paging rows) =
      rows.take (last.toNat * size.toNat) := by
  rw [← windows_tile]
  apply List.flatMap_congr
  intro earlier before
  rw [List.mem_range] at before
  have number : (UInt64.ofNat (earlier + 1)).toNat = earlier + 1 :=
    UInt64.toNat_ofNat_of_lt' (Nat.lt_of_le_of_lt before last.toNat_lt)
  have first : 1 ≤ UInt64.ofNat (earlier + 1) := by
    rw [UInt64.le_iff_toNat_le, number]
    exact Nat.le_add_left 1 earlier
  have among : UInt64.ofNat (earlier + 1) ≤ last := by
    rw [UInt64.le_iff_toNat_le, number]
    exact before
  exact window_turn (fits _ first among) number rows

/-- The rows that the statement of a draft finds. -/
def found (draft : Draft) (engine : Engine) (bound : String → Value) (table : List Cells) :
    List Cells :=
  match draft.statement with
  | .ok statement => statement.rows engine bound table
  | .error _ => []

theorem window_nil (paging : Option Paging) : Paging.window paging ([] : List α) = [] := by
  cases paging with
  | none => rfl
  | some paging => cases paging <;> simp [Paging.window]

theorem found_eq_window (draft : Draft) (engine : Engine) (bound : String → Value)
    (table : List Cells) :
    draft.found engine bound table =
      Paging.window draft.paging ({ draft with paging := none }.found engine bound table) := by
  rw [found, found, statement.eq_def, statement.eq_def]
  cases draft.kind with
  | select =>
      cases draft.selection with
      | aggregate => exact (window_nil _).symm
      | _ => rfl
  | count => exact (window_nil _).symm
  | delete => exact (window_nil _).symm
  | insert => cases draft.inserts <;> exact (window_nil _).symm
  | update => cases draft.updates <;> exact (window_nil _).symm

theorem unpaged_turn (draft : Draft) (page size : UInt64) :
    { (draft.turn page size).2 with paging := none } = { draft with paging := none } := by
  by_cases fits : PageFits page size
  · rw [turn_of_fits fits]
  · rw [turn_of_not_fits fits]

/-! ## Texts -/

theorem sql_with_paging (selects : draft.kind = .select) (paging : Paging) :
    { draft with paging := some paging }.sql =
      { draft with paging := none }.sql.map (· ++ paging.render) := by
  have windowed : { draft with paging := some paging }.statement =
      .ok (.select draft.selection draft.table draft.conditions draft.ordering (some paging)) := by
    simp only [statement, selects]
    rfl
  have whole : { draft with paging := none }.statement =
      .ok (.select draft.selection draft.table draft.conditions draft.ordering none) := by
    simp only [statement, selects]
    rfl
  rw [sql, sql, windowed, whole]
  simp only [Except.map, Statement.render.eq_def, String.append_empty, Statement.renderPaging]

/-! ## All pages -/

/-- A page is set exactly if it is numbered from 1, has room for rows and the number of rows before
it fits 64 bits. Then a selection ends in this number and the size; otherwise the draft is left as
it was. Side by side the windows of the first pages are the first rows, and so are the rows that
the selections find. -/
theorem pages_tile (draft : Draft) (size : UInt64) :
    (∀ page, (draft.turn page size).1 = .ok () ↔
      1 ≤ page.toNat ∧ 1 ≤ size.toNat ∧ (page.toNat - 1) * size.toNat < UInt64.size) ∧
    (∀ page, (draft.turn page size).1 = .ok () → ∃ offset : UInt64,
      offset.toNat = (page.toNat - 1) * size.toNat ∧
        (draft.turn page size).2 = { draft with paging := some (.page offset size) } ∧
        (draft.kind = .select → (draft.turn page size).2.sql =
          { draft with paging := none }.sql.map
            (· ++ (" LIMIT " ++ String.ofList (Number.digits ((page.toNat - 1) * size.toNat)) ++
              "," ++ String.ofList (Number.digits size.toNat))))) ∧
    (∀ page, (draft.turn page size).1 ≠ .ok () →
      draft.turn page size = (.error (.invalidPaging (pageFlaw page size)), draft)) ∧
    ∀ last, (∀ page, 1 ≤ page → page ≤ last → (draft.turn page size).1 = .ok ()) →
      (∀ rows : List α, ((List.range last.toNat).flatMap fun earlier =>
          Paging.window (draft.turn (.ofNat (earlier + 1)) size).2.paging rows) =
        rows.take (last.toNat * size.toNat)) ∧
      ∀ engine bound table, ((List.range last.toNat).flatMap fun earlier =>
          (draft.turn (.ofNat (earlier + 1)) size).2.found engine bound table) =
        ({ draft with paging := none }.found engine bound table).take
          (last.toNat * size.toNat) := by
  refine ⟨fun page => turn_eq_ok_iff, ?_, ?_, ?_⟩
  · intro page set
    have fits := turn_eq_ok_iff.mp set
    have offset : (UInt64.ofNat (rowsBefore page size)).toNat = rowsBefore page size :=
      UInt64.toNat_ofNat_of_lt' fits.2.2
    rw [turn_of_fits fits]
    refine ⟨_, offset, rfl, ?_⟩
    intro selects
    rw [sql_with_paging selects, Paging.render, wordText, offset]
    rfl
  · intro page refused
    exact turn_of_not_fits fun fits => refused (turn_eq_ok_iff.mpr fits)
  · intro last set
    have fits (page : UInt64) (first : 1 ≤ page) (among : page ≤ last) : PageFits page size :=
      turn_eq_ok_iff.mp (set page first among)
    refine ⟨windows_turn fits, ?_⟩
    intro engine bound table
    rw [← @windows_turn _ draft _ _ fits]
    apply List.flatMap_congr
    intro earlier _
    rw [found_eq_window, unpaged_turn]

theorem pages_tile_guests :
    (((empty guests .default).turn 3 2).1 = .ok () ∧ (empty guests .default).kind = .select ∧
      ((empty guests .default).turn 3 2).2.sql = .ok "SELECT * FROM \x60guests\x60 LIMIT 4,2") ∧
    (((empty guests .default).turn 9223372036854775809 2).1 ≠ .ok () ∧
      (empty guests .default).turn 9223372036854775809 2 = (.error (.invalidPaging
        "page 9223372036854775809 of size 2 overflows the row offset"), empty guests .default)) ∧
    (∀ page : UInt64, 1 ≤ page → page ≤ 2 →
      ((empty guests .default).turn page 2).1 = .ok ()) ∧
    ((List.range (2 : UInt64).toNat).flatMap fun earlier =>
      Paging.window ((empty guests .default).turn (.ofNat (earlier + 1)) 2).2.paging
        [1, 2, 3, 4, 5]) = [1, 2, 3, 4] := by
  rcases @pages_tile Nat (empty guests .default) 2 with ⟨sets, texts, refuses, tiles⟩
  have third : ((empty guests .default).turn 3 2).1 = .ok () := (sets 3).mpr (by decide)
  have beyond : ((empty guests .default).turn 9223372036854775809 2).1 ≠ .ok () := fun set =>
    absurd ((sets _).mp set) (by decide)
  have pages : ∀ page : UInt64, 1 ≤ page → page ≤ 2 →
      ((empty guests .default).turn page 2).1 = .ok () := by
    intro page first among
    rw [UInt64.le_iff_toNat_le] at first among
    have few : page.toNat - 1 ≤ 1 := Nat.sub_le_of_le_add among
    have fits : (page.toNat - 1) * 2 < UInt64.size :=
      Nat.lt_of_le_of_lt (Nat.mul_le_mul_right 2 few) (by decide)
    exact (sets page).mpr ⟨first, by decide, fits⟩
  rcases texts 3 third with ⟨_, -, -, text⟩
  exact ⟨⟨third, rfl, (text rfl).trans (by rfl)⟩, ⟨beyond, refuses _ beyond⟩, pages,
    (tiles 2 pages).1 [1, 2, 3, 4, 5]⟩

end BoundSql.Sql.Draft
