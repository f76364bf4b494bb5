import ExpandContract.Ledger.Calls
import ExpandContract.Ledger.Entry
import ExpandContract.Proofs.Session.Orderly

/-!
# Calls to the ledger are orderly

Every call to the ledger is orderly: the calls are single queries and what is read from their
answers, and nothing that is read is mistaken for a refused lock.
-/

set_option autoImplicit false

namespace ExpandContract

open Session Procedure

/-! ## Reading rows -/

theorem Session.Row.faultless_value {α : Type} (row : Row) (place : Nat) (column : ColumnRef)
    (read : Json → Option α) : Faultless (fun _ => True) (row.value place column read) := by
  unfold Row.value
  split
  · trivial
  · rfl

theorem Session.Row.faultless_value? {α : Type} (row : Row) (place : Nat) (column : ColumnRef)
    (read : Json → Option α) : Faultless (fun _ => True) (row.value? place column read) := by
  unfold Row.value?
  split
  · trivial
  · split
    · trivial
    · rfl

namespace Ledger

variable {l : Ledger} {schema name : String} {m : Migration}

theorem faultless_readMigration (value : Json) :
    Faultless (fun _ => True) (readMigration value) := by
  unfold readMigration
  split
  · trivial
  · rfl

theorem faultless_readSnapshot (value : Json) :
    Faultless (fun _ => True) (readSnapshot value) := by
  unfold readSnapshot
  split
  · trivial
  · rfl

theorem faultless_migrationOfRow (row : Row) : Faultless (fun _ => True) (migrationOfRow row) :=
  .bind (row.faultless_value ..) faultless_readMigration

theorem faultless_readKind (word : String) : Faultless (fun _ => True) (EntryKind.read word) := by
  unfold EntryKind.read
  split
  · trivial
  · rfl

theorem faultless_entryOfRow (row : Row) : Faultless (fun _ => True) (entryOfRow row) :=
  .bind (row.faultless_value ..) fun _ => .bind (row.faultless_value ..) fun _ =>
    .bind (row.faultless_value ..) fun _ => .bind (row.faultless_value ..) fun _ =>
      .bind (faultless_readMigration _) fun _ => .bind (row.faultless_value? ..) fun _ =>
        .bind (row.faultless_value ..) fun _ => .bind (faultless_readKind _) fun _ =>
          .bind (row.faultless_value ..) fun _ => .bind (row.faultless_value ..) fun _ => trivial

theorem faultless_compare (localMigrations : List Migration) (history : List Entry) :
    Faultless (fun _ => True) (compare localMigrations history) := by
  unfold compare
  dsimp only
  split
  · rfl
  · trivial

/-! ## Asking -/

theorem orderly_init : l.init.Orderly :=
  .inTransaction (.bind (.call rfl) fun _ => .bind (.call rfl) fun _ => trivial)

theorem orderly_isActive : (l.isActive schema).Orderly := by
  refine OrderlyWith.bind (.fetch? rfl) fun answer _ => ?_
  cases answer with
  | none => exact .done trivial
  | some row => exact .bind (.ofExcept (row.faultless_value? ..)) fun _ _ => .done trivial

theorem orderly_activeMigration : (l.activeMigration schema).Orderly := by
  refine OrderlyWith.bind (.fetch? rfl) fun answer _ => ?_
  cases answer with
  | none => exact .fail rfl
  | some row => exact .ofExcept (faultless_migrationOfRow row)

theorem orderly_migrationNamed : (l.migrationNamed schema name).Orderly := by
  refine OrderlyWith.bind (.fetch? rfl) fun answer _ => ?_
  cases answer with
  | none => exact .fail rfl
  | some row => exact .ofExcept (faultless_migrationOfRow row)

theorem orderly_askName {query : Query} : (l.askName query).Orderly := by
  refine OrderlyWith.bind (.fetch? rfl) fun answer _ => ?_
  cases answer with
  | none => exact .done trivial
  | some row => exact .ofExcept (row.faultless_value? ..)

theorem orderly_readSchema : (l.readSchema schema).Orderly := by
  refine OrderlyWith.bind (.fetch? rfl) fun answer _ => ?_
  cases answer with
  | none => exact .fail rfl
  | some row => exact .ofExcept (.bind (row.faultless_value ..) faultless_readSnapshot)

theorem orderly_recordedSnapshot : (l.recordedSnapshot schema name).Orderly := by
  refine OrderlyWith.bind (.fetch? rfl) fun answer _ => ?_
  cases answer with
  | none => exact .done trivial
  | some row =>
      refine .bind (.ofExcept (row.faultless_value? ..)) fun held _ => ?_
      cases held with
      | none => exact .done trivial
      | some value =>
          exact .bind (.ofExcept (faultless_readSnapshot value)) fun _ _ => .done trivial

theorem orderly_status : (l.status schema).Orderly :=
  .bind orderly_askName fun _ _ => .bind orderly_isActive fun _ _ => .done trivial

theorem orderly_history : (l.history schema).Orderly :=
  .bind (.call rfl) fun _ _ => .ofExcept (.mapM faultless_entryOfRow _)

/-! ## Recording -/

/-- The error for a key that is taken is not a refused lock either. -/
theorem orderlyWith_conflictOf :
    (l.conflictOf schema name).OrderlyWith fun error => error.mentionsRefusedLock = false := by
  refine OrderlyWith.bind (OrderlyWith.attempt orderly_activeMigration) fun outcome faultless => ?_
  split
  · exact .done rfl
  · exact .done rfl
  · exact .done faultless

theorem orderly_insertMigration : (l.insertMigration schema m).Orderly := by
  refine OrderlyWith.bind (OrderlyWith.attempt (.fetch? rfl)) fun outcome faultless => ?_
  rcases outcome with error | _ | row
  · by_cases taken : error.isTakenKey = true
    · simp only [if_pos taken]
      exact OrderlyWith.bind orderlyWith_conflictOf fun _ granted => .fail granted
    · simp only [if_neg taken]
      exact .fail faultless
  · exact .fail rfl
  · exact .done trivial

theorem orderly_start : (l.start schema m).Orderly := by
  refine OrderlyWith.bind orderly_insertMigration fun row _ => ?_
  refine OrderlyWith.bind (.ofExcept (row.faultless_value? ..)) fun parent _ => ?_
  have without : (Procedure.done (none : Option Schema)).Orderly := .done trivial
  cases parent
  case' none => refine OrderlyWith.bind without fun snapshot _ => ?_
  case' some => refine OrderlyWith.bind orderly_recordedSnapshot fun snapshot _ => ?_
  all_goals
    cases snapshot with
    | none => exact orderly_readSchema
    | some snapshot => exact .done trivial

theorem orderly_complete : (l.complete schema name).Orderly := by
  refine OrderlyWith.bind (.fetch? rfl) fun answer _ => ?_
  cases answer with
  | none => exact .fail rfl
  | some row => exact .done trivial

theorem orderly_rollback : (l.rollback schema name).Orderly := by
  refine OrderlyWith.bind (.fetch? rfl) fun answer _ => ?_
  cases answer with
  | none => exact .fail rfl
  | some row => exact .done trivial

theorem orderly_recordBaseline : (l.recordBaseline schema name).Orderly := by
  refine OrderlyWith.bind orderly_isActive fun active _ => ?_
  cases active with
  | true => exact OrderlyWith.bind orderly_activeMigration fun _ _ => .fail rfl
  | false =>
      refine OrderlyWith.bind (OrderlyWith.attempt (.call rfl)) fun outcome faultless => ?_
      cases outcome with
      | ok _ => exact .done trivial
      | error error =>
          by_cases taken : error.isTakenKey = true
          · simp only [if_pos taken]
            exact .fail rfl
          · simp only [if_neg taken]
            exact .fail faultless

end Ledger

end ExpandContract
