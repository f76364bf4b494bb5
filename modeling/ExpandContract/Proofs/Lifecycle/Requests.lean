import ExpandContract.Proofs.Backfill.Requests
import ExpandContract.Proofs.Ledger.Requests
import ExpandContract.Proofs.Migration.Requests
import ExpandContract.Session.Lifecycle

/-!
# What the parts of the lifecycle ask for

Once a migration is recorded, a start asks for the changes of its operations and for little else
(`ExpandRequest`). A rollback works through the changes that undo the operations of the active
migration (`undoPlan`), and then restores the version schema before and erases the entry
(`RollbackRequest`). Neither of them ever records a migration.
-/

set_option autoImplicit false

namespace ExpandContract.MigrationSession

open Session Procedure Sql

variable {s : MigrationSession} {m : Migration} {allowed : Request → Prop}

/-! ## Hooks -/

/-- A request of some hook of the session. -/
def HookRequest (s : MigrationSession) (request : Request) : Prop :=
  ∃ hook ∈ s.config.hooks, ∃ sql, .execute sql ∈ hook.actions ∧ request = .change (.raw sql)

theorem asksOnly_performActions {phase : HookPhase} {actions : List HookAction}
    (runs : ∀ sql, .execute sql ∈ actions → allowed (.change (.raw sql))) :
    (performActions phase actions).AsksOnly allowed := by
  induction actions with
  | nil => exact .done _
  | cons action rest ih =>
      have performed : action.perform.AsksOnly allowed := by
        cases action with
        | execute sql =>
            refine .bind (AsksOnly.change (runs sql List.mem_cons_self)).attempt fun outcome => ?_
            cases outcome <;> exact .done _
        | cancel => exact .bind .cancelSession fun _ => .done _
        | refuse reason => exact .done _
      refine .bind performed fun failure => ?_
      cases failure with
      | none => exact ih fun sql member => runs sql (List.mem_cons_of_mem _ member)
      | some reason => exact .fail _

theorem asksOnly_runHooks {hooks : List Hook}
    (runs : ∀ hook ∈ hooks, ∀ sql, .execute sql ∈ hook.actions → allowed (.change (.raw sql))) :
    (runHooks hooks).AsksOnly allowed := by
  induction hooks with
  | nil => exact .done _
  | cons hook rest ih =>
      refine .bind (.bind (.emit _) fun _ => ?_) fun _ => ?_
      · exact asksOnly_performActions (runs hook List.mem_cons_self)
      · exact ih fun other member => runs other (List.mem_cons_of_mem _ member)

theorem asksOnly_runPhaseHooks {phase : HookPhase} :
    (s.runPhaseHooks phase).AsksOnly s.HookRequest :=
  asksOnly_runHooks fun hook member sql runs =>
    ⟨hook, (List.mem_filter.mp member).1, sql, runs, rfl⟩

theorem runPhaseHooks_eq (unhooked : s.config.hooks = []) (phase : HookPhase) :
    s.runPhaseHooks phase = pure () := by
  unfold runPhaseHooks hooksOf
  rw [unhooked]
  rfl

/-! ## Expanding -/

/-- The requests of a start, once the migration is recorded and its snapshot is known. -/
inductive ExpandRequest (s : MigrationSession) (m : Migration) : Request → Prop where
  | starts {op : Operation} {statement : Change} (member : op ∈ m.operations)
      (starts : op.Starts (s.phaseContext m) statement) : ExpandRequest s m (.change statement)
  | snapshot {request : Request} (reads : s.ledger.ReadsSnapshot s.schema request) :
      ExpandRequest s m request
  | hook {request : Request} (hook : s.HookRequest request) : ExpandRequest s m request
  | version {version : VersionSchema} : ExpandRequest s m (.change (.makeVersionSchema version))
  | backfill {table : String} {request : Request} (fills : Backfill.Asks table request) :
      ExpandRequest s m request

/-- The snapshot on which the operation after a started one works. -/
def snapshotAfter (s : MigrationSession) (op : Operation) (started : Started) : Procedure Schema :=
  if op.effectUnknown && op.standsAlone then s.ledger.readSchema s.schema
  else .done started.schema

theorem startOperations_cons {ctx : PhaseContext} {op : Operation} {rest : List Operation}
    {snapshot : Schema} :
    s.startOperations ctx (op :: rest) snapshot =
      (op.start ctx snapshot).bind fun started => (s.snapshotAfter op started).bind fun between =>
        (s.startOperations ctx rest between).bind fun result =>
          .done (started.backfill.toList ++ result.1, result.2) := by
  refine congrArg _ (funext fun started => ?_)
  unfold snapshotAfter
  cases op.effectUnknown && op.standsAlone <;> rfl

/-- The operations of a migration ask for what their starts ask for, and for the snapshot. -/
theorem asksOnly_startOperations {ctx : PhaseContext} {operations : List Operation}
    {snapshot : Schema}
    (starts : ∀ op ∈ operations, ∀ statement, op.Starts ctx statement →
      allowed (.change statement))
    (reads : ∀ request, s.ledger.ReadsSnapshot s.schema request → allowed request) :
    (s.startOperations ctx operations snapshot).AsksOnly allowed := by
  induction operations generalizing snapshot with
  | nil => exact .done _
  | cons op rest ih =>
      have started : (op.start ctx snapshot).AsksOnly allowed := by
        refine op.asksOnly_start.mono ?_
        rintro _ ⟨statement, made, rfl⟩
        exact starts op List.mem_cons_self statement made
      have others (snapshot : Schema) : (s.startOperations ctx rest snapshot).AsksOnly allowed :=
        ih fun other member => starts other (List.mem_cons_of_mem _ member)
      refine .bind started fun started => ?_
      split
      · exact .bind (Ledger.asksOnly_readSchema.mono reads) fun snapshot =>
          .bind (others snapshot) fun _ => .done _
      · exact .bind (.done _) fun snapshot => .bind (others snapshot) fun _ => .done _

theorem asksOnly_expand {snapshot : Schema} :
    (s.expand m snapshot).AsksOnly (s.ExpandRequest m) := by
  have hooked (phase : HookPhase) : (s.runPhaseHooks phase).AsksOnly (s.ExpandRequest m) :=
    asksOnly_runPhaseHooks.mono fun _ hook => .hook hook
  refine .bind (hooked _) fun _ => ?_
  refine .bind (asksOnly_startOperations (fun _ member _ => .starts member) fun _ => .snapshot)
    fun (tables, final) => ?_
  exact .bind (hooked _) fun _ => .guarded (.change .version) (.done _)

theorem asksOnly_backfill {table : Table} :
    (Backfill.run s.config.backfill s.schema table).AsksOnly (s.ExpandRequest m) :=
  (Backfill.asksOnly_run _ _ _).mono fun _ fills => .backfill fills

/-! ## Rolling back -/

/-- The changes that a rollback of a migration makes. -/
def undoPlan (s : MigrationSession) (m : Migration) : List Change :=
  (if s.config.keepsVersionSchema m then [.dropVersionSchema (m.versionSchemaName s.schema)]
    else []) ++ m.operations.flatMap (Operation.undo (s.phaseContext m))

/-- The part of a rollback that makes these changes. -/
def undoChanges (s : MigrationSession) (m : Migration) : Procedure Unit :=
  (if s.config.keepsVersionSchema m then
    Procedure.change (.dropVersionSchema (m.versionSchemaName s.schema)) else .done ()).bind
      fun _ => rollbackOperations (s.phaseContext m) m.operations

/-- The part of a rollback that follows the changes. -/
def finishRollback (s : MigrationSession) (m : Migration) : Procedure Unit :=
  s.restorePreviousVersion.bind fun _ => s.ledger.rollback s.schema m.name

/-- A rollback reads which migration is active, undoes its changes and finishes. -/
theorem rollback_eq :
    s.rollback = (s.ledger.activeMigration s.schema).bind fun m =>
      (s.undoChanges m).bind fun _ => s.finishRollback m := by
  unfold rollback undoChanges finishRollback
  refine congrArg _ (funext fun m => ?_)
  rw [Procedure.bind_assoc]
  split <;> rfl

theorem follows_rollbackOperations {ctx : PhaseContext} {operations : List Operation} :
    (rollbackOperations ctx operations).Follows (operations.flatMap (Operation.undo ctx)) := by
  induction operations with
  | nil => exact .done
  | cons op rest ih =>
      rw [List.flatMap_cons]
      exact .bind op.follows_rollback ih

/-- The changes of a rollback are made in their order, up to the first that fails. -/
theorem follows_undoChanges : (s.undoChanges m).Follows (s.undoPlan m) := by
  unfold undoChanges undoPlan
  split
  · exact .bind (.change _) follows_rollbackOperations
  · exact .bind .done follows_rollbackOperations

/-- The requests with which a rollback finishes: they restore the version schema before, and erase
the entry. -/
inductive FinishRequest (s : MigrationSession) : Request → Prop where
  | reads {request : Request} (reads : s.ledger.Reads request) : FinishRequest s request
  | hasSchema {name : String} : FinishRequest s (.hasSchema name)
  | version {version : VersionSchema} : FinishRequest s (.change (.makeVersionSchema version))
  | erase {name : String} : FinishRequest s (s.ledger.request (.erase s.schema name))

/-- The requests of a rollback. -/
inductive RollbackRequest (s : MigrationSession) : Request → Prop where
  | undo {m : Migration} {statement : Change} (member : statement ∈ s.undoPlan m) :
      RollbackRequest s (.change statement)
  | finish {request : Request} (finishes : s.FinishRequest request) : RollbackRequest s request

theorem asksOnly_restorePreviousVersion
    (reads : ∀ request, s.ledger.Reads request → allowed request)
    (looks : ∀ name, allowed (.hasSchema name))
    (makes : ∀ version, allowed (.change (.makeVersionSchema version))) :
    s.restorePreviousVersion.AsksOnly allowed := by
  unfold restorePreviousVersion
  split
  · exact .done _
  · refine .bind (Ledger.asksOnly_previousVersion.mono reads) fun version => ?_
    cases version with
    | none => exact .done _
    | some name =>
        refine .bind (Ledger.asksOnly_migrationNamed.mono reads) fun previous => ?_
        dsimp only
        split
        · exact .done _
        · have looked : (hasSchema (previous.versionSchemaName s.schema)).AsksOnly allowed :=
            .bind (.fetchOne (looks _)) fun _ => .ofExcept _
          refine .bind looked fun isThere => ?_
          cases isThere with
          | true => exact .done _
          | false =>
              have live : (s.ledger.readSchema s.schema).AsksOnly allowed :=
                Ledger.asksOnly_readSchema.mono fun _ asks => reads _ asks.reads
              exact .bind live fun _ => .change (makes _)

theorem asksOnly_finishRollback : (s.finishRollback m).AsksOnly s.FinishRequest := by
  refine .bind (asksOnly_restorePreviousVersion ?_ ?_ ?_) fun _ =>
    Ledger.asksOnly_rollback.mono ?_
  · exact fun _ => .reads
  · exact fun _ => .hasSchema
  · exact fun _ => .version
  · rintro _ rfl
    exact .erase

theorem asksOnly_rollback : s.rollback.AsksOnly s.RollbackRequest := by
  rw [rollback_eq]
  have read {request : Request} (reads : s.ledger.Reads request) : s.RollbackRequest request :=
    .finish (.reads reads)
  refine .bind (Ledger.asksOnly_activeMigration.mono fun _ => read) fun m => ?_
  refine .bind (follows_undoChanges.asks.mono ?_) fun _ => ?_
  · rintro _ ⟨statement, member, rfl⟩
    exact .undo member
  · exact asksOnly_finishRollback.mono fun _ finishes => .finish finishes

/-- Where a rollback succeeds, the migration that the server has told to be active is erased. -/
theorem erased_of_rollback {notes : List Note} (dialogue : s.rollback.Dialogue notes (.ok ())) :
    ∃ m, s.ledger.Tells s.schema m notes ∧ s.ledger.Erased s.schema m.name notes := by
  rw [rollback_eq] at dialogue
  obtain ⟨first, rest, m, rfl, told, follows⟩ := dialogue_bind_ok.mp dialogue
  obtain ⟨undone, rest, _, rfl, _, follows⟩ := dialogue_bind_ok.mp follows
  obtain ⟨restored, rest, _, rfl, _, erased⟩ := dialogue_bind_ok.mp follows
  refine ⟨m, (Ledger.tells_of_dialogue told).mono (List.subset_append_left ..),
    (Ledger.erased_of_dialogue erased).mono ?_⟩
  intro note member
  exact List.mem_append_right _ (List.mem_append_right _ (List.mem_append_right _ member))

end ExpandContract.MigrationSession
