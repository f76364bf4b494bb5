import ExpandContract.Error
import ExpandContract.Migration.Basic
import ExpandContract.Schema.Basic
import ExpandContract.Text.Basic

/-!
# Validation

A migration is checked against a snapshot of its schema before it touches the database. Every
operation is checked in the schema that the operations before it would leave, so a check also plays
the operation: it has the snapshot for a state, on which it writes the operation's effect.

The effects are functions of their own. The start phase of an operation writes the same effect once
its statements have been accepted.
-/

set_option autoImplicit false

namespace ExpandContract

/-- A check: it reads and writes a snapshot, and may reject. A rejection leaves the snapshot as it
was written up to then. -/
abbrev Check (α : Type) := ExceptT ValidationError (StateM Schema) α

namespace Check

/-- Rejects a field whose text is blank. -/
def refuseBlank (operation field value : String) : Check Unit :=
  if Text.isBlank value then throw (.fieldRequired operation field) else pure ()

/-- The table exposed under a name. -/
def exposedTable (name : String) : Check Table := do
  match (← get).table? name with
  | some table => pure table
  | none => throw (.tableDoesNotExist name)

/-- Writes a table back under its name. -/
def putTable (name : String) (table : Table) : Check Unit :=
  modify (·.exposeTable name table)

end Check

open Check

/-! ## Effects -/

/-- The column as a snapshot shows it, under a physical name and without a position. -/
def ColumnDefinition.snapshot (c : ColumnDefinition) (physicalName : String) : Column :=
  { name := physicalName, dataType := c.dataType, default := c.default, nullable := c.nullable,
    position := 0, comment := c.comment }

/-- The names of the columns of the primary key. -/
def CreateTable.keyColumns (op : CreateTable) : List String :=
  (op.columns.filter (·.pk)).map (·.name)

/-- The new table as a snapshot shows it. -/
def CreateTable.snapshot (op : CreateTable) : Table :=
  let table : Table :=
    op.columns.foldl (fun table c => table.exposeColumn c.name (c.snapshot c.name))
      (Table.ofName op.name)
  { table with primaryKey := op.keyColumns, comment := op.comment }

/-- The table with the column that the operation adds, behind its shadow. -/
def AddColumn.extend (op : AddColumn) (table : Table) : Table :=
  table.exposeColumn op.column.name (op.column.snapshot op.shadow)

/-- The index as a snapshot shows it, on physical columns. -/
def CreateIndex.snapshot (op : CreateIndex) (columns : List String) : Index :=
  { name := op.name, unique := op.unique, columns }

/-- The physical names of the columns of the index, if all of them are exposed. -/
def CreateIndex.physicalNames (op : CreateIndex) (table : Table) :
    Except ValidationError (List String) :=
  op.columns.mapM fun column =>
    match table.column? column with
    | some c => .ok c.name
    | none => .error (.columnDoesNotExist op.table column)

/-- The schema without the index, if some table has it. -/
def DropIndex.remove? (op : DropIndex) (schema : Schema) : Option Schema := do
  let (owner, _) ← schema.findIndex? op.name
  let table ← schema.table? owner
  return schema.exposeTable owner (table.removeIndex op.name)

/-- The schema with the column exposed under its new name. -/
def RenameColumn.rename (op : RenameColumn) (schema : Schema) : Except ValidationError Schema :=
  match schema.table? op.table with
  | none => .error (.tableDoesNotExist op.table)
  | some table =>
      if (table.column? op.target).isSome then
        .error (.columnAlreadyExists op.table op.target)
      else
        match table.renameColumn? op.source op.target with
        | some renamed => .ok (schema.exposeTable op.table renamed)
        | none => .error (.columnDoesNotExist op.table op.source)

/-! ## Checks -/

/-- Checks the columns of a new table, given the names of the columns before them. -/
def CreateTable.checkColumns (op : CreateTable) : List String → List ColumnDefinition → Check Unit
  | _, [] => pure ()
  | seen, column :: rest => do
      refuseBlank "create_table" "column name" column.name
      refuseBlank "create_table" "column type" column.dataType
      if seen.contains column.name then throw (.columnAlreadyExists op.name column.name)
      op.checkColumns (column.name :: seen) rest

/-- Checks the creation of a table: the name is free, there are columns, and their names differ. -/
def CreateTable.check (op : CreateTable) : Check Unit := do
  refuseBlank "create_table" "name" op.name
  if ((← get).table? op.name).isSome then throw (.tableAlreadyExists op.name)
  if op.columns.isEmpty then throw (.fieldRequired "create_table" "columns")
  op.checkColumns [] op.columns
  modify (·.exposeTable op.name op.snapshot)

/-- Checks the drop of a table: there is such a table. -/
def DropTable.check (op : DropTable) : Check Unit := do
  let _ ← exposedTable op.name
  modify (·.hideTable op.name)

/-- Checks the addition of a column: the name is free, the column stays outside the primary key,
and there is a value for the rows that are there already. -/
def AddColumn.check (op : AddColumn) : Check Unit := do
  refuseBlank "add_column" "column name" op.column.name
  refuseBlank "add_column" "column type" op.column.dataType
  let table ← exposedTable op.table
  if (table.column? op.column.name).isSome then
    throw (.columnAlreadyExists op.table op.column.name)
  if op.column.pk then
    throw (.invalidOperation "add_column" "a new column cannot join the primary key")
  if !op.column.nullable && op.column.default.isNone && op.up.isNone then
    throw (.fieldRequired "add_column" "up")
  if op.up.isSome && table.primaryKey.isEmpty then throw (.noPrimaryKey op.table)
  putTable op.table (op.extend table)

/-- Checks the drop of a column: it is taken out, and there was such a column. -/
def DropColumn.check (op : DropColumn) : Check Unit := do
  let table ← exposedTable op.table
  putTable op.table (table.hideColumn op.column)
  if (table.column? op.column).isNone then throw (.columnDoesNotExist op.table op.column)

/-- Checks the renaming of a column: the old name is taken and the new one is free. -/
def RenameColumn.check (op : RenameColumn) : Check Unit := do
  refuseBlank "rename_column" "to" op.target
  match op.rename (← get) with
  | .ok schema => set schema
  | .error e => throw e

/-- Checks the creation of an index: no table has one of that name, and its columns exist. -/
def CreateIndex.check (op : CreateIndex) : Check Unit := do
  refuseBlank "create_index" "name" op.name
  if op.columns.isEmpty then throw (.fieldRequired "create_index" "columns")
  if ((← get).findIndex? op.name).isSome then throw (.indexAlreadyExists op.name)
  let table ← exposedTable op.table
  match op.physicalNames table with
  | .ok columns => putTable op.table (table.addIndex (op.snapshot columns))
  | .error e => throw e

/-- Checks the drop of an index: some table has it. -/
def DropIndex.check (op : DropIndex) : Check Unit := do
  match op.remove? (← get) with
  | some schema => set schema
  | none => throw (.indexDoesNotExist op.name)

/-- Checks SQL of the user: there is some, and what runs at completion is not to be undone. -/
def RawSql.check (op : RawSql) : Check Unit := do
  refuseBlank "sql" "up" op.up
  if op.onComplete && op.down.isSome then
    throw (.invalidOperation "sql" "down cannot be combined with on_complete")

/-- Checks an operation and plays it on the snapshot. -/
def Operation.check : Operation → Check Unit
  | .createTable op => op.check
  | .dropTable op => op.check
  | .addColumn op => op.check
  | .dropColumn op => op.check
  | .renameColumn op => op.check
  | .createIndex op => op.check
  | .dropIndex op => op.check
  | .rawSql op => op.check

/-! ## Migrations -/

/-- Checks operations one after the other; `alone` tells whether the migration has no other. -/
def checkOperations (alone : Bool) : List Operation → Check Unit
  | [] => pure ()
  | op :: rest => do
      if op.standsAlone && !alone then throw (.notIsolated op.kind)
      op.check
      checkOperations alone rest

/-- Checks a migration against a snapshot, and gives the snapshot with the operations played. -/
def Migration.validated (m : Migration) (schema : Schema) : Except ValidationError Schema :=
  if m.operations.isEmpty then .error (.emptyMigration m.name)
  else
    match Sql.nameFault? (m.versionSchemaName schema.name) with
    | some fault => .error (.invalidName (m.versionSchemaName schema.name) fault.reason)
    | none =>
        match (checkOperations (m.operations.length == 1) m.operations).run.run schema with
        | (.ok _, played) => .ok played
        | (.error e, _) => .error e

/-- Checks a migration against a snapshot. -/
def Migration.validate (m : Migration) (schema : Schema) : Except ValidationError Unit :=
  (m.validated schema).map fun _ => ()

end ExpandContract
