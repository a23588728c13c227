import BoundSql.Proofs.Draft.Run

/-!
The filters of a draft. The text after WHERE is read as the conjunction of what the filters
say, in the order in which they were added, since no filter has an OR in the open.
-/

namespace BoundSql.Sql

open Entity

/-! ## Parentheses -/

namespace Token

def outside : (depth : Nat) → List Token → Option (List Token)
  | depth, [] => if depth = 0 then some [] else none
  | depth, token :: rest =>
      if token = .symbol "(" then outside (depth + 1) rest
      else if token = .symbol ")" then
        if depth = 0 then none else outside (depth - 1) rest
      else (outside depth rest).map ((if depth = 0 then [token] else []) ++ ·)

/-- Tokens with balanced parentheses that show no OR at some depth. -/
def Hides (depth : Nat) (tokens : List Token) : Prop :=
  ∃ shown, .word "OR" ∉ shown ∧
    ∀ rest, outside depth (tokens ++ rest) = (outside depth rest).map (shown ++ ·)

def Quiet (depth : Nat) (token : Token) : Prop :=
  token ≠ .symbol "(" ∧ token ≠ .symbol ")" ∧ (depth = 0 → token ≠ .word "OR")

variable {depth : Nat} {tokens others : List Token}

theorem hides_nil : Hides depth [] := ⟨[], by simp, by simp⟩

theorem Hides.append (first : Hides depth tokens) (second : Hides depth others) :
    Hides depth (tokens ++ others) := by
  rcases first with ⟨shown, quiet, reads⟩
  rcases second with ⟨more, silent, follows⟩
  refine ⟨shown ++ more, by simp [quiet, silent], ?_⟩
  intro rest
  rw [List.append_assoc, reads, follows, Option.map_map]
  simp [Function.comp_def]

theorem hides_cons {token : Token} (quiet : Quiet depth token) (hides : Hides depth tokens) :
    Hides depth (token :: tokens) := by
  rcases quiet with ⟨notOpening, notClosing, notOr⟩
  have alone : Hides depth [token] := by
    refine ⟨if depth = 0 then [token] else [], ?_, ?_⟩
    · split
      next top => simpa using (notOr top).symm
      next => simp
    · intro rest
      rw [List.singleton_append, outside, if_neg notOpening, if_neg notClosing]
  exact alone.append hides

theorem hides_quiet (quiet : ∀ token ∈ tokens, Quiet depth token) : Hides depth tokens := by
  induction tokens with
  | nil => exact hides_nil
  | cons token tokens induction =>
      rw [List.forall_mem_cons] at quiet
      exact hides_cons quiet.1 (induction quiet.2)

theorem Hides.parentheses (inside : Hides (depth + 1) tokens) :
    Hides depth (.symbol "(" :: (tokens ++ [.symbol ")"])) := by
  rcases inside with ⟨shown, quiet, reads⟩
  refine ⟨shown, quiet, ?_⟩
  intro rest
  rw [List.cons_append, List.append_assoc, outside, if_pos rfl, reads, List.singleton_append,
    outside, if_neg (by decide), if_pos rfl, if_neg (by omega), Nat.add_sub_cancel]

end Token

namespace Condition

open Token

theorem hides_test {test : Condition} (isTest : test.IsTest) (depth : Nat) :
    Hides depth test.tokens := by
  cases test with
  | always truth => cases truth <;> exact hides_quiet (by simp [tokens, Quiet])
  | compare column op name =>
      cases op <;> exact hides_quiet (by simp [tokens, Quiet, Comparison.symbol])
  | isNull column negated name => cases negated <;> exact hides_quiet (by simp [tokens, Quiet])
  | like column name => exact hides_quiet (by simp [tokens, Quiet])
  | among column names =>
      have row : ∀ token ∈ commaTokens (names.map fun name => [.placeholder name]),
          Quiet (depth + 1) token := by
        intro token member
        rcases mem_commaTokens member with rfl | ⟨item, among, inside⟩
        · simp [Quiet]
        · rcases List.mem_map.mp among with ⟨name, -, rfl⟩
          rcases List.mem_singleton.mp inside with rfl
          simp [Quiet]
      exact hides_cons (by simp [Quiet])
        (hides_cons (by simp [Quiet]) (hides_quiet row).parentheses)
  | and _ _ => contradiction
  | or _ _ => contradiction
  | not _ => contradiction

theorem hides_tokens (condition : Condition) (depth : Nat) : Hides depth condition.tokens := by
  induction condition generalizing depth with
  | and left right first second =>
      exact (first depth).append (hides_cons (by simp [Quiet]) (second depth))
  | or left right first second =>
      have inside := (first (depth + 1)).append
        (hides_cons (by simp [Quiet] : Quiet (depth + 1) (.word "OR")) (second (depth + 1)))
      exact inside.parentheses
  | not operand inner => exact hides_cons (by simp [Quiet]) (inner (depth + 1)).parentheses
  | always _ => exact hides_test (by trivial) depth
  | compare _ _ _ => exact hides_test (by trivial) depth
  | isNull _ _ _ => exact hides_test (by trivial) depth
  | like _ _ => exact hides_test (by trivial) depth
  | among _ _ => exact hides_test (by trivial) depth

/-- A text that is read to the end, has balanced parentheses and no OR outside of them. -/
def Guarded (sigil text : String) : Prop :=
  ∃ tokens shown, Token.read? sigil text = some tokens ∧ outside 0 tokens = some shown ∧
    .word "OR" ∉ shown

theorem guarded_render {sigil : String} (distinctive : Distinctive sigil) {condition : Condition}
    (uses : condition.Over (fun _ => True) (IsNumbered sigil)) :
    Guarded sigil condition.render := by
  rcases condition.hides_tokens 0 with ⟨shown, silent, reads⟩
  have whole := reads []
  rw [List.append_nil] at whole
  exact ⟨condition.tokens, shown, (spells_render distinctive uses).read?,
    by simpa [outside] using whole, silent⟩

end Condition

/-! ## Runs -/

namespace Draft

open Condition

variable {draft next : Draft}

theorem Takes.filters {step : Step} (takes : draft.Takes step next) {filters : List Expr}
    (stand : List.Forall₂ (StandsFor draft.schema draft.bindings) filters draft.conditions) :
    List.Forall₂ (StandsFor next.schema next.bindings) (filters ++ step.filters)
      next.conditions := by
  rcases takes.grows with ⟨schema, grows⟩
  have kept : List.Forall₂ (StandsFor next.schema next.bindings) filters draft.conditions := by
    rw [schema]
    exact stand.imp fun _ _ stands => stands.grows grows
  cases takes with
  | filter yields =>
      rcases yields_compile yields with ⟨_, stands⟩
      exact List.rel_append kept (.cons stands .nil)
  | _ => simpa [Step.filters, addUpdates, addInserts, withBindings] using kept

theorem attempt_filters (steps : List Step) {filters : List Expr}
    (stand : List.Forall₂ (StandsFor draft.schema draft.bindings) filters draft.conditions) :
    List.Forall₂ (StandsFor (draft.attempt steps).schema (draft.attempt steps).bindings)
      (filters ++ draft.accepted steps) (draft.attempt steps).conditions := by
  induction steps generalizing draft filters with
  | nil => simpa [attempt, accepted] using stand
  | cons step steps induction =>
      rw [attempt, accepted]
      cases applied : (draft.apply step).1 with
      | error e => exact induction stand
      | ok next =>
          have taken := induction ((takes_of_apply applied).filters stand)
          rwa [List.append_assoc] at taken

/-- What a database reads after WHERE is the conjunction of the filters of a run. -/
theorem filters_read_as_conjunction {schema : Schema} {settings : Settings}
    (distinctive : Distinctive settings.sigil) {steps : List Step}
    (filtered : (empty schema settings).accepted steps ≠ []) :
    ∃ first rest text read,
      ((empty schema settings).attempt steps).conditions = first :: rest ∧
      List.Forall₂ (StandsFor schema ((empty schema settings).attempt steps).bindings)
        ((empty schema settings).accepted steps) (first :: rest) ∧
      Statement.renderWhere (first :: rest) = " WHERE " ++ text ∧
      Condition.read? settings.sigil text = some read ∧
      read.Regroups (conjunction first rest) ∧
      Guarded settings.sigil text ∧
      ∀ condition ∈ first :: rest, Guarded settings.sigil condition.render := by
  rcases (empty schema settings).attempt_grows steps with ⟨sameSchema, grows⟩
  have stand := attempt_filters steps (@List.Forall₂.nil _ _
    (StandsFor (empty schema settings).schema (empty schema settings).bindings))
  rw [sameSchema, List.nil_append] at stand
  cases conditions : ((empty schema settings).attempt steps).conditions with
  | nil =>
      rw [conditions] at stand
      exact absurd (List.forall₂_nil_right_iff.mp stand) filtered
  | cons first rest =>
      rw [conditions] at stand
      have uses : ∀ condition ∈ first :: rest,
          condition.Over (fun _ => True) (IsNumbered settings.sigil) := by
        intro condition member
        rcases forall₂_right stand condition member with ⟨filter, -, stands⟩
        exact stands.uses.imp (fun _ _ => trivial) fun _ => grows.isNumbered
      have whole := over_conjunction uses
      refine ⟨first, rest, _, _, rfl, stand, rfl, ?_, (conjunction first rest).grouped_regroups,
        ?_, ?_⟩
      · rw [renderAll_cons]
        exact read?_render distinctive whole
      · rw [renderAll_cons]
        exact guarded_render distinctive whole
      · intro condition member
        exact guarded_render distinctive (uses condition member)

/-- Three filters, the second of which is no condition. -/
def guestSteps : List Step :=
  [.filter guestFilter, .filter (.member "Name"),
   .filter (.unary .not (.binary (.compare .equal) (.member "Age") (.constant .null)))]

theorem filters_read_as_conjunction_guests :
    (empty guests .default).accepted guestSteps ≠ [] ∧
      ∃ first rest text read,
        ((empty guests .default).attempt guestSteps).conditions = first :: rest ∧
        Statement.renderWhere (first :: rest) = " WHERE " ++ text ∧
        Condition.read? "@" text = some read ∧ read.Regroups (conjunction first rest) := by
  have filtered : (empty guests .default).accepted guestSteps ≠ [] := by
    rw [show (empty guests .default).accepted guestSteps = [guestFilter, _] from rfl]
    exact List.cons_ne_nil _ _
  rcases filters_read_as_conjunction distinctive_at filtered with
    ⟨first, rest, text, read, conditions, -, whole, reads, regroups, -⟩
  exact ⟨filtered, first, rest, text, read, conditions, whole, reads, regroups⟩

end Draft

end BoundSql.Sql
