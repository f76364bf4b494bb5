import ExpandContract.Backfill.Run
import ExpandContract.Ledger.Calls
import ExpandContract.Ledger.Entry
import ExpandContract.Migration.Phases
import ExpandContract.Schema.Basic

/-!
# The lifecycle of a migration

A session drives the migrations of one schema. `start` records a migration in the ledger, checks it,
expands the schema, makes the version schema of the new version and fills the new columns. From then
on both versions are served, until `complete` contracts the schema to the new version or `rollback`
brings back the previous one.

A start that fails after the migration was recorded is undone by the same rollback. A completion
validates what it can before it changes anything, and it records that the migration is complete as
its last step. One that fails in between leaves the migration active, and it can be run again or
rolled back; the rollback then makes the previous version schema anew if it is gone.

Several processes may work on one database. They are kept apart by the ledger, so a session holds no
lock between two calls.
-/

set_option autoImplicit false

namespace ExpandContract

open Session Sql

/-- How to reach the server. -/
inductive Link where
  | up
  /-- The server cannot be reached, for the given reason. -/
  | down (reason : String)
deriving DecidableEq, Repr

/-- A session with a server. -/
structure MigrationSession where
  config : Config
  serverVersion : Int

namespace MigrationSession

/-- The schema that is migrated. -/
def schema (s : MigrationSession) : String := s.config.schema

/-- The ledger of the session. -/
def ledger (s : MigrationSession) : Ledger := { stateSchema := s.config.stateSchema }

/-- Whether the views of version schemas are read with the rights of the reader. -/
def usesSecurityInvoker (s : MigrationSession) : Bool :=
  securityInvokerVersion ≤ s.serverVersion

/-! ## Beginning a session -/

/-- The version of the server. -/
def askServerVersion : Procedure Int := do
  let row ← Procedure.fetchOne .serverVersion
  Procedure.ofExcept (row.value 0 (.place 0) Json.int?)

/-- Whether there is a schema of that name. -/
def hasSchema (name : String) : Procedure Bool := do
  let row ← Procedure.fetchOne (.hasSchema name)
  Procedure.ofExcept (row.value 0 (.place 0) Json.bool?)

/-- Begins a session: a connection is set up and the server is asked for its version. A session that
is to be cancelled from the beginning is cancelled as soon as it has its connection. -/
def connect (link : Link) (config : Config) : Procedure MigrationSession :=
  match link with
  | .down reason => .fail (.database (.unreachable reason))
  | .up => do
      let _ ← Procedure.call (.prepare config.connection.statements)
      if config.cancelled then Procedure.cancelSession
      return { config, serverVersion := ← askServerVersion }

/-! ## Parts of the lifecycle -/

/-- What the phases of a migration's operations need to know. -/
def phaseContext (s : MigrationSession) (m : Migration) : PhaseContext :=
  { schema := s.schema, versionSchema := m.versionSchemaName s.schema,
    transformer := s.config.transformer }

/-- Runs the hooks of a phase. -/
def runPhaseHooks (s : MigrationSession) (phase : HookPhase) : Procedure Unit :=
  runHooks (hooksOf phase s.config.hooks)

/-- Makes a version schema anew, from a snapshot. -/
def makeVersionSchema (s : MigrationSession) (snapshot : Schema) (name : String) :
    Procedure Unit :=
  Procedure.change (.makeVersionSchema (snapshot.version name s.usesSecurityInvoker))

/-- Makes the version schema of the previous version anew, if it should be there and is not. -/
def restorePreviousVersion (s : MigrationSession) : Procedure Unit := do
  if s.config.disableVersionSchemas then return ()
  match ← s.ledger.previousVersion s.schema false with
  | none => return ()
  | some name =>
      let previous ← s.ledger.migrationNamed s.schema name
      let versionSchema := previous.versionSchemaName s.schema
      if !s.config.keepsVersionSchema previous then return ()
      if ← hasSchema versionSchema then return ()
      let live ← s.ledger.readSchema s.schema
      s.makeVersionSchema live versionSchema

/-! ## Rolling back -/

/-- Undoes operations, in their order. -/
def rollbackOperations (ctx : PhaseContext) : List Operation → Procedure Unit
  | [] => pure ()
  | op :: rest => do
      op.rollback ctx
      rollbackOperations ctx rest

/-- Undoes the active migration. -/
def rollback (s : MigrationSession) : Procedure Unit := do
  let m ← s.ledger.activeMigration s.schema
  if s.config.keepsVersionSchema m then
    Procedure.change (.dropVersionSchema (m.versionSchemaName s.schema))
  rollbackOperations (s.phaseContext m) m.operations
  s.restorePreviousVersion
  s.ledger.rollback s.schema m.name

/-! ## Starting -/

/-- Undoes a start that failed, and fails with its cause. -/
def undoStart {α : Type} (s : MigrationSession) (cause : Error) : Procedure α := do
  match ← s.rollback.attempt with
  | .ok _ => Procedure.fail (.startFailed cause)
  | .error rollback => Procedure.fail (.startNotUndone cause rollback)

/-- Starts operations one after the other: the tables that are to be filled, and the snapshot. Where
the effect of an operation is unknown, the schema is read again. -/
def startOperations (s : MigrationSession) (ctx : PhaseContext) :
    List Operation → Schema → Procedure (List Table × Schema)
  | [], snapshot => pure ([], snapshot)
  | op :: rest, snapshot => do
      let started ← op.start ctx snapshot
      let snapshot ←
        if op.effectUnknown && op.standsAlone then s.ledger.readSchema s.schema
        else pure started.schema
      let (tables, final) ← s.startOperations ctx rest snapshot
      return (started.backfill.toList ++ tables, final)

/-- Expands the schema for a migration that has been recorded: the tables that are to be filled. -/
def expand (s : MigrationSession) (m : Migration) (snapshot : Schema) :
    Procedure (List Table) := do
  s.runPhaseHooks .beforeStart
  let (tables, final) ← s.startOperations (s.phaseContext m) m.operations snapshot
  s.runPhaseHooks .afterStart
  if s.config.keepsVersionSchema m then
    s.makeVersionSchema final (m.versionSchemaName s.schema)
  return tables

/-- Erases a migration that has been recorded and turned out to be invalid. -/
def rejectMigration {α : Type} (s : MigrationSession) (m : Migration) (cause : ValidationError) :
    Procedure α := do
  match ← (s.ledger.rollback s.schema m.name).attempt with
  | .ok _ => Procedure.fail (.validation cause)
  | .error rollback => Procedure.fail (.startNotUndone (.validation cause) rollback)

/-- Records a migration and expands the schema: the tables that are to be filled. -/
def startChanges (s : MigrationSession) (m : Migration) : Procedure (List Table) := do
  if ← s.ledger.isActive s.schema then
    let active ← s.ledger.activeMigration s.schema
    Procedure.fail (.migrationAlreadyActive s.schema active.name)
  else
    let snapshot ← s.ledger.start s.schema m
    let verdict := if s.config.skipValidation then .ok () else m.validate snapshot
    match verdict with
    | .error cause => s.rejectMigration m cause
    | .ok () =>
        match ← (s.expand m snapshot).attempt with
        | .ok tables => return tables
        | .error cause => s.undoStart cause

/-- Fills tables one after the other; if one cannot be filled the whole start is undone. -/
def fillTables (s : MigrationSession) : List Table → Procedure (List Backfill.Progress)
  | [] => pure []
  | table :: rest => do
      match ← (Backfill.run s.config.backfill s.schema table).attempt with
      | .ok progress => return progress :: (← s.fillTables rest)
      | .error cause => s.undoStart cause

/-- Starts a migration: what was done to fill the tables. -/
def start (s : MigrationSession) (m : Migration) : Procedure (List Backfill.Progress) := do
  let tables ← s.startChanges m
  s.fillTables tables

/-! ## Completing -/

/-- Makes sure of each operation that its completion will go through. -/
def prepareOperations (ctx : PhaseContext) : List Operation → Procedure Unit
  | [] => pure ()
  | op :: rest => do
      op.prepare ctx
      prepareOperations ctx rest

/-- Completes operations, in their order. -/
def completeOperations (ctx : PhaseContext) : List Operation → Procedure Unit
  | [] => pure ()
  | op :: rest => do
      op.complete ctx
      completeOperations ctx rest

/-- Drops the version schema of the previous version. -/
def dropPreviousVersionSchema (s : MigrationSession) : Procedure Unit := do
  match ← s.ledger.previousVersion s.schema false with
  | none => return ()
  | some name =>
      let previous ← s.ledger.migrationNamed s.schema name
      Procedure.change (.dropVersionSchema (previous.versionSchemaName s.schema))

/-- Completes the active migration, which cannot be undone afterwards. -/
def complete (s : MigrationSession) : Procedure Unit := do
  let m ← s.ledger.activeMigration s.schema
  let ctx := s.phaseContext m
  prepareOperations ctx m.operations
  if !s.config.disableVersionSchemas then s.dropPreviousVersionSchema
  let _ ← s.ledger.readSchema s.schema
  s.runPhaseHooks .beforeComplete
  completeOperations ctx m.operations
  if m.effectUnknown && s.config.keepsVersionSchema m then
    let refreshed ← s.ledger.readSchema s.schema
    s.makeVersionSchema refreshed (m.versionSchemaName s.schema)
  s.runPhaseHooks .afterComplete
  s.ledger.complete s.schema m.name

/-! ## The history -/

/-- The local migrations that have not been applied. -/
def pendingMigrations (s : MigrationSession) (localMigrations : List Migration) :
    Procedure (List Migration) := do
  let history ← s.ledger.history s.schema
  let (unapplied, _) ← Procedure.ofExcept (Ledger.compare localMigrations history)
  return unapplied

/-- The applied migrations that are missing locally. -/
def entriesMissingLocally (s : MigrationSession) (localMigrations : List Migration) :
    Procedure (List Ledger.Entry) := do
  let history ← s.ledger.history s.schema
  let (_, missing) ← Procedure.ofExcept (Ledger.compare localMigrations history)
  return missing

end MigrationSession

end ExpandContract
