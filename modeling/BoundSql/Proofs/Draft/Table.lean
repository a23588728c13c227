import BoundSql.Proofs.Draft.Editing
import BoundSql.Proofs.Entity.Columns
import BoundSql.Proofs.Entity.TableName

/-!
The table of a draft. Which table it is depends only on the steps that succeed: the last name
that was given, else the last number that was chosen, else number 0.
-/

namespace BoundSql.Sql.Draft

open Entity

def Step.tableName? : Step → Option String
  | .setTable name => some name
  | _ => none

def Step.tableNumber? : Step → Option Nat
  | .setTableIndex index => some index
  | _ => none

def lastName? (steps : List Step) : Option String := (steps.filterMap Step.tableName?).getLast?

def lastNumber? (steps : List Step) : Option Nat := (steps.filterMap Step.tableNumber?).getLast?

/-- The table after steps that succeed, unless there is no table with the number chosen. -/
def tableAfter? (schema : Schema) (steps : List Step) : Option String :=
  (lastName? steps).or schema.tables[(lastNumber? steps).getD 0]?

/-! ## What a run preserves -/

/-- What has come of the choices of a table among some steps. -/
structure Chosen (schema : Schema) (steps : List Step) (draft : Draft) : Prop where
  keeps : draft.schema = schema
  named : draft.explicitTable = lastName? steps
  numbered : (lastNumber? steps).map (schema.tables[·]?) = draft.chosenTable.map some
  sound : ∀ name ∈ draft.explicitTable, isTableName name = true

variable {schema : Schema} {draft next : Draft} {before steps : List Step}

theorem lastName?_concat (step : Step) :
    lastName? (before ++ [step]) = step.tableName?.or (lastName? before) := by
  rw [lastName?, List.filterMap_append, List.getLast?_append, lastName?]
  cases step <;> rfl

theorem lastNumber?_concat (step : Step) :
    lastNumber? (before ++ [step]) = step.tableNumber?.or (lastNumber? before) := by
  rw [lastNumber?, List.filterMap_append, List.getLast?_append, lastNumber?]
  cases step <;> rfl

theorem table?_eq_ok_iff {index : Nat} {name : String} :
    schema.table? index = .ok name ↔ schema.tables[index]? = some name := by
  rw [Schema.table?]
  cases schema.tables[index]? <;> simp

theorem Chosen.keep (chosen : Chosen schema before draft) {step : Step}
    (same : next.schema = draft.schema) (unnamed : step.tableName? = none)
    (unnumbered : step.tableNumber? = none) (explicit : next.explicitTable = draft.explicitTable)
    (picked : next.chosenTable = draft.chosenTable) : Chosen schema (before ++ [step]) next := by
  refine ⟨same.trans chosen.keeps, ?_, ?_, ?_⟩
  · rw [lastName?_concat, unnamed, explicit, chosen.named]
    rfl
  · rw [lastNumber?_concat, unnumbered, picked, ← chosen.numbered]
    rfl
  · rw [explicit]
    exact chosen.sound

theorem Chosen.step (chosen : Chosen schema before draft) {step : Step}
    (takes : draft.Takes step next) : Chosen schema (before ++ [step]) next := by
  cases takes with
  | @setTable name sound =>
      refine ⟨chosen.keeps, ?_, ?_, ?_⟩
      · rw [lastName?_concat]
        rfl
      · rw [lastNumber?_concat]
        exact chosen.numbered
      · rintro _ ⟨⟩
        exact checkTableName_eq_ok_iff.mp sound
  | @setTableIndex index name found =>
      refine ⟨chosen.keeps, ?_, ?_, chosen.sound⟩
      · rw [lastName?_concat]
        exact chosen.named
      · rw [lastNumber?_concat]
        rw [chosen.keeps, table?_eq_ok_iff] at found
        exact congrArg some found
  | _ => exact chosen.keep rfl rfl rfl rfl rfl

theorem Chosen.run (chosen : Chosen schema before draft) :
    Chosen schema (before ++ Edit.succeeding draft steps) (Edit.performAll draft steps).2 := by
  induction steps generalizing before draft with
  | nil =>
      rw [Edit.succeeding, Edit.performAll_nil, List.zip_nil_left, List.filter_nil, List.map_nil,
        List.append_nil]
      exact chosen
  | cons step steps induction =>
      rw [Edit.succeeding_cons, Edit.performAll_cons]
      cases applied : (draft.apply step).1 with
      | error e => exact induction chosen
      | ok next =>
          have later := induction (chosen.step (takes_of_apply applied))
          rwa [List.append_assoc] at later

theorem chosen_empty (schema : Schema) (settings : Settings) :
    Chosen schema [] (empty schema settings) :=
  ⟨rfl, rfl, rfl, fun _ => nofun⟩

theorem Chosen.tableAfter? (chosen : Chosen schema steps draft) :
    tableAfter? schema steps = some draft.table := by
  rw [Draft.tableAfter?, table, chosen.named, chosen.keeps]
  cases lastName? steps with
  | some name => rfl
  | none =>
      have numbered := chosen.numbered
      cases number : lastNumber? steps with
      | none =>
          cases picked : draft.chosenTable with
          | none => rfl
          | some name => rw [number, picked] at numbered; contradiction
      | some index =>
          cases picked : draft.chosenTable with
          | none => rw [number, picked] at numbered; contradiction
          | some name =>
              rw [number, picked] at numbered
              exact Option.some.inj numbered

theorem Chosen.isTableName (chosen : Chosen schema steps draft)
    (sound : ∀ name ∈ schema.tables, isTableName name = true) :
    isTableName draft.table = true := by
  have final := chosen.tableAfter?
  rw [Draft.tableAfter?, ← chosen.named] at final
  cases named : draft.explicitTable with
  | some name =>
      rw [named] at final
      rcases Option.some.inj final with same
      exact same ▸ chosen.sound name named
  | none =>
      rw [named] at final
      exact sound _ (List.mem_of_getElem? final)

/-! ## Which choices succeed -/

theorem perform_setTable_eq_ok_iff {notices : List Notice} {name : String} :
    ((Edit.perform (.setTable name)).on (.of draft notices)).1 = .ok () ↔
      name.toList ∈ tableName.matches' := by
  rw [← isTableName_iff, ← checkTableName_eq_ok_iff, Edit.on_perform, apply, setTable]
  cases checkTableName name <;> simp [Edit.settle]

theorem perform_setTableIndex_eq_ok_iff {notices : List Notice} {index : Nat} :
    ((Edit.perform (.setTableIndex index)).on (.of draft notices)).1 = .ok () ↔
      index < draft.schema.tables.length := by
  rw [Edit.on_perform, apply, setTableIndex, Schema.table?]
  cases found : draft.schema.tables[index]? with
  | none => simpa [Edit.settle] using found
  | some name => simpa [Edit.settle] using (List.getElem?_eq_some_iff.mp found).1

/-- The table of a draft is the last name that was given with success, else the last number that
was, else number 0; it is always there and always in the language of table names. A name is
accepted exactly if it is in that language, a number exactly if there is a table with it. -/
theorem table_of_performAll {declaration : Declaration} (settings : Settings) (steps : List Step)
    (resolved : Schema.resolve declaration = .ok schema) :
    tableAfter? schema (Edit.succeeding (empty schema settings) steps) =
        some (Edit.performAll (empty schema settings) steps).2.table ∧
      (Edit.performAll (empty schema settings) steps).2.table.toList ∈ tableName.matches' ∧
      (∀ name notices, ((Edit.perform (.setTable name)).on
          (.of (Edit.performAll (empty schema settings) steps).2 notices)).1 = .ok () ↔
        name.toList ∈ tableName.matches') ∧
      ∀ index notices, ((Edit.perform (.setTableIndex index)).on
          (.of (Edit.performAll (empty schema settings) steps).2 notices)).1 = .ok () ↔
        index < declaration.candidates.length := by
  have chosen := @Chosen.run _ _ _ steps (chosen_empty schema settings)
  rw [List.nil_append] at chosen
  rcases resolve_eq_ok_iff.mp resolved with ⟨candidates, sound, -, -⟩
  refine ⟨chosen.tableAfter?, isTableName_iff.mp (chosen.isTableName sound), ?_, ?_⟩
  · intro name notices
    exact perform_setTable_eq_ok_iff
  · intro index notices
    rw [perform_setTableIndex_eq_ok_iff, chosen.keeps, candidates]

def yearlyGuests : Declaration where
  name := "Guest"
  tableSet := ["guests", "guests_2023"]
  members := [{ name := "Age", kind := .int }]

def yearlyGuestsSchema : Schema where
  entity := "Guest"
  defaultTable := "guests"
  otherTables := ["guests_2023"]
  columns := [{ member := "Age", name := "age", kind := .int, isIdentity := false, isKey := false
                isComputed := false, isWritable := true }]

/-- The second table is chosen, and then one that is not there and one with a blank in it. -/
def yearlyChoices : List Step :=
  [.setTableIndex 1, .top 1, .setTableIndex 2, .setTable "guests 2024"]

theorem table_of_performAll_guests :
    Schema.resolve yearlyGuests = .ok yearlyGuestsSchema ∧
      (Edit.performAll (empty yearlyGuestsSchema .default) yearlyChoices).2.table =
        "guests_2023" ∧
      "guests_2023".toList ∈ tableName.matches' ∧
      "guests 2024".toList ∉ tableName.matches' := by
  have resolved : Schema.resolve yearlyGuests = .ok yearlyGuestsSchema := by rfl
  rcases table_of_performAll .default yearlyChoices resolved with ⟨last, sound, named, -⟩
  have kept : Edit.succeeding (empty yearlyGuestsSchema .default) yearlyChoices =
      [.setTableIndex 1, .top 1] := by
    rfl
  rw [kept] at last
  rcases Option.some.inj last with same
  rw [← same] at sound
  refine ⟨resolved, same.symm, sound, ?_⟩
  rw [← named "guests 2024" []]
  exact nofun

end BoundSql.Sql.Draft
