import ExpandContract.Migration.Validation
import ExpandContract.Session.Procedure
import ExpandContract.Sql.Expression
import ExpandContract.Sql.Transformer

/-!
# The phases of an operation

Each operation has four phases. The start makes new structures beside the old ones and tells which
table has rows that need to be filled. Before anything is completed, `prepare` makes sure that the
completion will go through. The completion removes what only the previous version needs, and the
rollback undoes the start.

The start of an operation works on the snapshot that the operations before it have left, and leaves
its own effect there when its statements have been accepted. The other phases are given nothing but
the operation, so they find what the start made by names that follow from the operation alone.
-/

set_option autoImplicit false

namespace ExpandContract

open Session Sql

/-- What the phases of an operation need to know about the migration. -/
structure PhaseContext where
  /-- The schema that is migrated. -/
  schema : String
  /-- The version schema that the migration makes. -/
  versionSchema : String
  transformer : Transformer

namespace PhaseContext

/-- A text of the user as it is to be sent. -/
def transform (ctx : PhaseContext) (sql : String) : Procedure String :=
  match ctx.transformer.transform sql with
  | .ok sql => .done sql
  | .error reason => .fail (.transform reason)

/-- A text of the user as it is to be sent, if there is one. -/
def transformOption (ctx : PhaseContext) : Option String → Procedure (Option String)
  | some sql => do return some (← ctx.transform sql)
  | none => .done none

end PhaseContext

/-- The outcome of a start: the table that is to be filled, if there is one, and the snapshot. -/
structure Started where
  backfill : Option Table
  schema : Schema
deriving DecidableEq

/-! ## Tables -/

/-- The description of a column for a new table. -/
def ColumnDefinition.spec (c : ColumnDefinition) (ctx : PhaseContext) : Procedure ColumnSpec := do
  let default ← ctx.transformOption c.default
  let check ← ctx.transformOption c.check
  return { name := c.name, dataType := c.dataType, notNull := !c.nullable, default,
           unique := c.unique, check }

/-- The description of a column that joins a table in use: what has to hold for all rows is added as
pending checks instead. -/
def ColumnDefinition.shadowSpec (c : ColumnDefinition) (ctx : PhaseContext) (shadow : String) :
    Procedure ColumnSpec := do
  let default ← ctx.transformOption c.default
  return { name := shadow, dataType := c.dataType, notNull := false, default, unique := c.unique,
           check := none }

namespace CreateTable

/-- Creates the table. -/
def start (op : CreateTable) (ctx : PhaseContext) (schema : Schema) : Procedure Started := do
  let columns ← op.columns.mapM fun c => c.spec ctx
  Procedure.change (.createTable ctx.schema op.name columns op.keyColumns op.comment
    (op.columns.filterMap fun c => c.comment.map fun comment => (c.name, comment)))
  return { backfill := none, schema := schema.exposeTable op.name op.snapshot }

/-- Drops the table. -/
def rollback (op : CreateTable) (ctx : PhaseContext) : Procedure Unit :=
  Procedure.change (.dropTable ctx.schema op.name)

end CreateTable

namespace DropTable

/-- Puts the table aside. -/
def start (op : DropTable) (ctx : PhaseContext) (schema : Schema) : Procedure Started := do
  Procedure.change (.renameTable ctx.schema op.name (parkedName op.name) false)
  return { backfill := none, schema := schema.hideTable op.name }

/-- Drops the table that was put aside. -/
def complete (op : DropTable) (ctx : PhaseContext) : Procedure Unit :=
  Procedure.change (.dropTable ctx.schema (parkedName op.name))

/-- Brings the table back, if it was put aside. -/
def rollback (op : DropTable) (ctx : PhaseContext) : Procedure Unit :=
  Procedure.change (.renameTable ctx.schema (parkedName op.name) op.name true)

end DropTable

/-! ## Columns -/

namespace AddColumn

/-- The check that stands in for `NOT NULL`. -/
def notNullCheck (op : AddColumn) : PendingCheck :=
  { name := pendingNotNullName op.column.name
    expression := quotedName op.shadow ++ " IS NOT NULL" }

/-- The checks that the new column is under from the start. -/
def pendingChecks (op : AddColumn) (ctx : PhaseContext) : Procedure (List PendingCheck) := do
  let notNull := if op.column.nullable then [] else [op.notNullCheck]
  match op.column.check with
  | none => return notNull
  | some check =>
      let check ← ctx.transform check
      return notNull ++ [{
        name := pendingCheckName op.column.name
        expression := replaceReferences check op.column.name op.shadow }]

/-- The trigger that fills the column for the rows the previous version writes. -/
def trigger (op : AddColumn) (ctx : PhaseContext) (expression : String) : SyncTrigger :=
  { schema := ctx.schema, table := op.table, key := op.shadow, target := op.shadow,
    expression, versionSchema := ctx.versionSchema, fromNewVersion := false }

/-- Adds the column under its shadow name, with a trigger if it is computed. -/
def start (op : AddColumn) (ctx : PhaseContext) (schema : Schema) : Procedure Started := do
  let column ← op.column.shadowSpec ctx op.shadow
  let checks ← op.pendingChecks ctx
  Procedure.change (.addColumn ctx.schema op.table column checks)
  match op.up with
  | some up =>
      let up ← ctx.transform up
      Procedure.change (.createSyncTrigger (op.trigger ctx up))
  | none => pure ()
  match schema.table? op.table with
  | none => return { backfill := none, schema }
  | some table =>
      let extended := op.extend table
      return { backfill := op.up.map fun _ => extended
               schema := schema.exposeTable op.table extended }

/-- The pending checks that the column is under. -/
def pendingNames (op : AddColumn) : List String :=
  (if op.column.nullable then [] else [pendingNotNullName op.column.name]) ++
    (if op.column.check.isSome then [pendingCheckName op.column.name] else [])

/-- Validates the pending checks. -/
def prepare (op : AddColumn) (ctx : PhaseContext) : Procedure Unit :=
  op.pendingNames.forM fun name =>
    Procedure.change (.validateConstraint ctx.schema op.table name)

/-- Renames the column into place, without the trigger, and turns its pending checks into lasting
ones. -/
def complete (op : AddColumn) (ctx : PhaseContext) : Procedure Unit := do
  if op.up.isSome then
    Procedure.change (.dropSyncTrigger ctx.schema op.table op.shadow)
  Procedure.change (.renameColumn ctx.schema op.table op.shadow op.column.name)
  if !op.column.nullable then
    Procedure.change (.setNotNull ctx.schema op.table op.column.name
      (pendingNotNullName op.column.name))
  if op.column.check.isSome then
    Procedure.change (.renameConstraint ctx.schema op.table (pendingCheckName op.column.name)
      (finalCheckName op.table op.column.name))

/-- Removes the trigger and the column, under whichever of its two names it is found: a completion
that failed may have renamed it already. -/
def rollback (op : AddColumn) (ctx : PhaseContext) : Procedure Unit := do
  Procedure.change (.dropSyncTrigger ctx.schema op.table op.shadow)
  Procedure.change (.dropColumns ctx.schema op.table [op.shadow, op.column.name] true)

end AddColumn

namespace DropColumn

/-- The trigger that fills the column for the rows the new version writes. An operation before this
one may have renamed the column, so its physical name is given apart. -/
def trigger (op : DropColumn) (ctx : PhaseContext) (physical expression : String) : SyncTrigger :=
  { schema := ctx.schema, table := op.table, key := op.column, target := physical, expression,
    versionSchema := ctx.versionSchema, fromNewVersion := true }

/-- Hides the column from the new version, and fills it for the previous one if it is computed. -/
def start (op : DropColumn) (ctx : PhaseContext) (schema : Schema) : Procedure Started := do
  match op.down with
  | some down =>
      let down ← ctx.transform down
      Procedure.change
        (.createSyncTrigger (op.trigger ctx (schema.physicalName op.table op.column) down))
  | none => pure ()
  return {
    backfill := none
    schema := match schema.table? op.table with
      | some table => schema.exposeTable op.table (table.hideColumn op.column)
      | none => schema }

/-- Drops the column. The operations before this one are complete by now, so the column has the name
by which this operation knows it. -/
def complete (op : DropColumn) (ctx : PhaseContext) : Procedure Unit := do
  if op.down.isSome then
    Procedure.change (.dropSyncTrigger ctx.schema op.table op.column)
  Procedure.change (.dropColumns ctx.schema op.table [op.column] false)

/-- Removes the trigger. -/
def rollback (op : DropColumn) (ctx : PhaseContext) : Procedure Unit := do
  if op.down.isSome then
    Procedure.change (.dropSyncTrigger ctx.schema op.table op.column)

end DropColumn

namespace RenameColumn

/-- Shows the column under its new name to the new version. -/
def start (op : RenameColumn) (schema : Schema) : Procedure Started :=
  match op.rename schema with
  | .ok schema => .done { backfill := none, schema }
  | .error cause => .fail (.validation cause)

/-- Renames the column. -/
def complete (op : RenameColumn) (ctx : PhaseContext) : Procedure Unit :=
  Procedure.change (.renameColumn ctx.schema op.table op.source op.target)

end RenameColumn

/-! ## Indexes -/

namespace CreateIndex

/-- Creates the index on the physical columns. -/
def start (op : CreateIndex) (ctx : PhaseContext) (schema : Schema) : Procedure Started :=
  match schema.table? op.table with
  | none => do
      Procedure.change (.createIndex ctx.schema op.table op.name op.columns op.unique)
      return { backfill := none, schema }
  | some table =>
      match op.physicalNames table with
      | .error cause => .fail (.validation cause)
      | .ok columns => do
          Procedure.change (.createIndex ctx.schema op.table op.name columns op.unique)
          return { backfill := none
                   schema := schema.exposeTable op.table (table.addIndex (op.snapshot columns)) }

/-- Drops the index. -/
def rollback (op : CreateIndex) (ctx : PhaseContext) : Procedure Unit :=
  Procedure.change (.dropIndex ctx.schema op.name)

end CreateIndex

namespace DropIndex

/-- Hides the index; it is dropped at completion. -/
def start (op : DropIndex) (schema : Schema) : Procedure Started :=
  .done { backfill := none, schema := (op.remove? schema).getD schema }

/-- Drops the index. -/
def complete (op : DropIndex) (ctx : PhaseContext) : Procedure Unit :=
  Procedure.change (.dropIndex ctx.schema op.name)

end DropIndex

/-! ## SQL of the user -/

namespace RawSql

/-- Runs a text of the user. -/
def runText (ctx : PhaseContext) (sql : String) : Procedure Unit := do
  Procedure.change (.raw (← ctx.transform sql))

/-- Runs the SQL, unless it waits for the completion. -/
def start (op : RawSql) (ctx : PhaseContext) (schema : Schema) : Procedure Started := do
  if !op.onComplete then runText ctx op.up
  return { backfill := none, schema }

/-- Runs the SQL that waited for the completion. -/
def complete (op : RawSql) (ctx : PhaseContext) : Procedure Unit := do
  if op.onComplete then runText ctx op.up

/-- Runs the SQL that undoes the start. -/
def rollback (op : RawSql) (ctx : PhaseContext) : Procedure Unit :=
  match op.down with
  | some down => runText ctx down
  | none => .done ()

end RawSql

/-! ## All operations -/

namespace Operation

/-- Expands the schema. -/
def start (operation : Operation) (ctx : PhaseContext) (schema : Schema) : Procedure Started :=
  match operation with
  | .createTable op => op.start ctx schema
  | .dropTable op => op.start ctx schema
  | .addColumn op => op.start ctx schema
  | .dropColumn op => op.start ctx schema
  | .renameColumn op => op.start schema
  | .createIndex op => op.start ctx schema
  | .dropIndex op => op.start schema
  | .rawSql op => op.start ctx schema

/-- Makes sure that the completion will go through. -/
def prepare (operation : Operation) (ctx : PhaseContext) : Procedure Unit :=
  match operation with
  | .addColumn op => op.prepare ctx
  | _ => .done ()

/-- Contracts the schema. -/
def complete (operation : Operation) (ctx : PhaseContext) : Procedure Unit :=
  match operation with
  | .createTable _ => .done ()
  | .dropTable op => op.complete ctx
  | .addColumn op => op.complete ctx
  | .dropColumn op => op.complete ctx
  | .renameColumn op => op.complete ctx
  | .createIndex _ => .done ()
  | .dropIndex op => op.complete ctx
  | .rawSql op => op.complete ctx

/-- Undoes the start. -/
def rollback (operation : Operation) (ctx : PhaseContext) : Procedure Unit :=
  match operation with
  | .createTable op => op.rollback ctx
  | .dropTable op => op.rollback ctx
  | .addColumn op => op.rollback ctx
  | .dropColumn op => op.rollback ctx
  | .renameColumn _ => .done ()
  | .createIndex op => op.rollback ctx
  | .dropIndex _ => .done ()
  | .rawSql op => op.rollback ctx

end Operation

end ExpandContract
