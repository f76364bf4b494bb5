import ExpandContract.Proofs.Backfill.Orderly
import ExpandContract.Proofs.Lifecycle.Requests
import ExpandContract.Proofs.Migration.Orderly

/-!
# The lifecycle is orderly

Every call of the lifecycle is orderly, as long as no hook runs SQL of its own, reports what became
of it or cancels the session.
-/

set_option autoImplicit false

namespace ExpandContract.MigrationSession

open Session Procedure

variable {s : MigrationSession} {m : Migration}

theorem orderly_runPhaseHooks (unhooked : s.config.hooks = []) (phase : HookPhase) :
    (s.runPhaseHooks phase).Orderly := by
  rw [runPhaseHooks_eq unhooked]
  exact .done trivial

theorem orderly_makeVersionSchema (snapshot : Schema) (name : String) :
    (s.makeVersionSchema snapshot name).Orderly :=
  .change _

/-! ## Rolling back -/

theorem orderly_hasSchema (name : String) : (hasSchema name).Orderly :=
  .bind (.fetchOne rfl) fun row _ => .ofExcept (row.faultless_value ..)

theorem orderly_restorePreviousVersion : s.restorePreviousVersion.Orderly := by
  unfold restorePreviousVersion
  split
  · exact .done trivial
  · refine .bind Ledger.orderly_askName fun version _ => ?_
    cases version with
    | none => exact .done trivial
    | some name =>
        refine .bind Ledger.orderly_migrationNamed fun previous _ => ?_
        dsimp only
        split
        · exact .done trivial
        · refine .bind (orderly_hasSchema _) fun isThere _ => ?_
          cases isThere with
          | true => exact .done trivial
          | false =>
              exact .bind Ledger.orderly_readSchema fun _ _ => orderly_makeVersionSchema _ _

theorem orderly_rollbackOperations (ctx : PhaseContext) (operations : List Operation) :
    (rollbackOperations ctx operations).Orderly := by
  induction operations with
  | nil => exact .done trivial
  | cons op rest ih => exact .bind op.orderly_rollback fun _ _ => ih

theorem orderly_rollback : s.rollback.Orderly := by
  have ending (m : Migration) : ((rollbackOperations (s.phaseContext m) m.operations).bind fun _ =>
      s.restorePreviousVersion.bind fun _ => s.ledger.rollback s.schema m.name).Orderly :=
    .bind (orderly_rollbackOperations _ _) fun _ _ =>
      .bind orderly_restorePreviousVersion fun _ _ => Ledger.orderly_rollback
  exact .bind Ledger.orderly_activeMigration fun m _ => .guarded (.change _) (ending m)

/-! ## Starting -/

/-- The error of a start that was undone tells its cause, and that is not a refused lock. -/
theorem orderly_undoStart {α : Type} {cause : Error} (granted : cause.mentionsRefusedLock = false) :
    (s.undoStart cause : Procedure α).Orderly := by
  refine OrderlyWith.bind (OrderlyWith.attempt orderly_rollback) fun outcome faultless => ?_
  cases outcome with
  | ok _ => exact .fail granted
  | error rollback =>
      refine .fail ?_
      rw [Error.mentionsRefusedLock, granted]
      exact faultless

theorem orderly_startOperations (ctx : PhaseContext) (operations : List Operation)
    (snapshot : Schema) : (s.startOperations ctx operations snapshot).Orderly := by
  induction operations generalizing snapshot with
  | nil => exact .done trivial
  | cons op rest ih =>
      refine .bind op.orderly_start fun started _ => ?_
      split
      · exact .bind Ledger.orderly_readSchema fun snapshot _ =>
          .bind (ih snapshot) fun _ _ => .done trivial
      · have kept : (Procedure.done started.schema).Orderly := .done trivial
        exact OrderlyWith.bind kept fun snapshot _ => .bind (ih snapshot) fun _ _ => .done trivial

theorem orderly_expand (unhooked : s.config.hooks = []) (snapshot : Schema) :
    (s.expand m snapshot).Orderly := by
  refine .bind (orderly_runPhaseHooks unhooked _) fun _ _ => ?_
  refine .bind (orderly_startOperations _ _ _) fun (tables, final) _ => ?_
  refine .bind (orderly_runPhaseHooks unhooked _) fun _ _ => ?_
  exact .guarded (orderly_makeVersionSchema _ _) (.done trivial)

theorem orderly_rejectMigration {α : Type} (cause : ValidationError) :
    (s.rejectMigration m cause : Procedure α).Orderly := by
  refine OrderlyWith.bind (OrderlyWith.attempt Ledger.orderly_rollback) fun outcome faultless => ?_
  cases outcome with
  | ok _ => exact .fail rfl
  | error rollback => exact .fail faultless

theorem orderly_startChanges (unhooked : s.config.hooks = []) : (s.startChanges m).Orderly := by
  refine .bind Ledger.orderly_isActive fun active _ => ?_
  cases active with
  | true => exact .bind Ledger.orderly_activeMigration fun _ _ => .fail rfl
  | false =>
      refine .bind Ledger.orderly_start fun snapshot _ => ?_
      dsimp only
      split
      · exact orderly_rejectMigration _
      · refine OrderlyWith.bind (OrderlyWith.attempt (orderly_expand unhooked snapshot))
          fun outcome faultless => ?_
        cases outcome with
        | ok tables => exact .done trivial
        | error cause => exact orderly_undoStart faultless

theorem orderly_fillTables (tables : List Table) : (s.fillTables tables).Orderly := by
  induction tables with
  | nil => exact .done trivial
  | cons table rest ih =>
      refine OrderlyWith.bind (OrderlyWith.attempt (Backfill.orderly_run _ _ table))
        fun outcome faultless => ?_
      cases outcome with
      | ok progress => exact .bind ih fun _ _ => .done trivial
      | error cause => exact orderly_undoStart faultless

theorem orderly_start (unhooked : s.config.hooks = []) : (s.start m).Orderly :=
  .bind (orderly_startChanges unhooked) fun _ _ => orderly_fillTables _

/-! ## Completing -/

theorem orderly_prepareOperations (ctx : PhaseContext) (operations : List Operation) :
    (prepareOperations ctx operations).Orderly := by
  induction operations with
  | nil => exact .done trivial
  | cons op rest ih => exact .bind op.orderly_prepare fun _ _ => ih

theorem orderly_completeOperations (ctx : PhaseContext) (operations : List Operation) :
    (completeOperations ctx operations).Orderly := by
  induction operations with
  | nil => exact .done trivial
  | cons op rest ih => exact .bind op.orderly_complete fun _ _ => ih

theorem orderly_dropPreviousVersionSchema : s.dropPreviousVersionSchema.Orderly := by
  refine .bind Ledger.orderly_askName fun version _ => ?_
  cases version with
  | none => exact .done trivial
  | some name => exact .bind Ledger.orderly_migrationNamed fun _ _ => .change _

theorem orderly_complete (unhooked : s.config.hooks = []) : s.complete.Orderly := by
  refine .bind Ledger.orderly_activeMigration fun m _ => ?_
  refine .bind (orderly_prepareOperations _ _) fun _ _ => ?_
  refine .guarded orderly_dropPreviousVersionSchema ?_
  refine .bind Ledger.orderly_readSchema fun _ _ => ?_
  refine .bind (orderly_runPhaseHooks unhooked _) fun _ _ => ?_
  refine .bind (orderly_completeOperations _ _) fun _ _ => ?_
  have ending : ((s.runPhaseHooks .afterComplete).bind fun _ =>
      s.ledger.complete s.schema m.name).Orderly :=
    .bind (orderly_runPhaseHooks unhooked _) fun _ _ => Ledger.orderly_complete
  split
  · exact .bind Ledger.orderly_readSchema fun refreshed _ =>
      .bind (orderly_makeVersionSchema _ _) fun _ _ => ending
  · exact ending

/-! ## The history -/

theorem orderly_pendingMigrations (localMigrations : List Migration) :
    (s.pendingMigrations localMigrations).Orderly :=
  .bind Ledger.orderly_history fun _ _ =>
    .bind (.ofExcept (Ledger.faultless_compare _ _)) fun _ _ => .done trivial

theorem orderly_entriesMissingLocally (localMigrations : List Migration) :
    (s.entriesMissingLocally localMigrations).Orderly :=
  .bind Ledger.orderly_history fun _ _ =>
    .bind (.ofExcept (Ledger.faultless_compare _ _)) fun _ _ => .done trivial

end ExpandContract.MigrationSession
