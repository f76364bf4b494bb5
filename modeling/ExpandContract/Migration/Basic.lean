import ExpandContract.Sql.Name

/-!
# Migrations

A migration is a named list of operations on one schema. Each operation runs in phases: the start
expands the schema so that the previous and the new version can be used side by side, the completion
contracts it to what the new version needs, and a rollback undoes the start.

This module holds the operations as data. What they check, what their phases do and how they are
written as JSON is said in modules of their own.
-/

set_option autoImplicit false

namespace ExpandContract

/-! ## Operations -/

/-- A column as an operation describes it. -/
structure ColumnDefinition where
  name : String
  dataType : String
  nullable : Bool
  /-- Whether the column belongs to the primary key. -/
  pk : Bool
  unique : Bool
  default : Option String
  check : Option String
  comment : Option String
deriving DecidableEq, Repr

/-- A column that does not allow null. -/
def ColumnDefinition.ofType (name dataType : String) : ColumnDefinition :=
  { name, dataType, nullable := false, pk := false, unique := false, default := none,
    check := none, comment := none }

/-- Creates a table. -/
structure CreateTable where
  name : String
  columns : List ColumnDefinition
  comment : Option String
deriving DecidableEq, Repr

/-- Drops a table. The start renames it, so that it can come back. -/
structure DropTable where
  name : String
deriving DecidableEq, Repr

/-- Adds a column. With `up`, the column is computed from the rest of the row, for the rows that are
there and for those that the previous version writes. -/
structure AddColumn where
  table : String
  column : ColumnDefinition
  up : Option String
deriving DecidableEq, Repr

/-- Drops a column. With `down`, the column is computed for the rows that the new version writes, as
long as the previous version reads it. -/
structure DropColumn where
  table : String
  column : String
  down : Option String
deriving DecidableEq, Repr

/-- Renames a column. -/
structure RenameColumn where
  table : String
  source : String
  target : String
deriving DecidableEq, Repr

/-- Creates an index without blocking writes. -/
structure CreateIndex where
  name : String
  table : String
  columns : List String
  unique : Bool
deriving DecidableEq, Repr

/-- Drops an index at completion. -/
structure DropIndex where
  name : String
deriving DecidableEq, Repr

/-- Runs SQL of the user: at the start, or at completion if so asked. -/
structure RawSql where
  up : String
  down : Option String
  onComplete : Bool
deriving DecidableEq, Repr

/-- A schema change. -/
inductive Operation where
  | createTable (op : CreateTable)
  | dropTable (op : DropTable)
  | addColumn (op : AddColumn)
  | dropColumn (op : DropColumn)
  | renameColumn (op : RenameColumn)
  | createIndex (op : CreateIndex)
  | dropIndex (op : DropIndex)
  | rawSql (op : RawSql)
deriving DecidableEq, Repr

namespace Operation

/-- The short name of the kind of operation. -/
def kind : Operation → String
  | .createTable _ => "create_table"
  | .dropTable _ => "drop_table"
  | .addColumn _ => "add_column"
  | .dropColumn _ => "drop_column"
  | .renameColumn _ => "rename_column"
  | .createIndex _ => "create_index"
  | .dropIndex _ => "drop_index"
  | .rawSql _ => "sql"

/-- Whether the effect on the schema is unknown, so that the schema has to be read again. -/
def effectUnknown : Operation → Bool
  | .rawSql _ => true
  | _ => false

/-- Whether the operation has to be the only one of its migration. -/
def standsAlone : Operation → Bool
  | .rawSql op => !op.onComplete
  | _ => false

/-- Whether the operation runs SQL of the user. -/
def isRawSql : Operation → Bool
  | .rawSql _ => true
  | _ => false

end Operation

/-- The name under which the column exists until the migration is complete. -/
def AddColumn.shadow (op : AddColumn) : String :=
  Sql.shadowColumnName op.column.name

/-! ## Migrations -/

/-- A named list of operations, applied in order. -/
structure Migration where
  name : String
  /-- What distinguishes the version schema, if it is not the name. -/
  versionSchema : Option String
  operations : List Operation
deriving DecidableEq, Repr

namespace Migration

/-- A migration without operations. -/
def ofName (name : String) : Migration :=
  { name, versionSchema := none, operations := [] }

/-- The name of the version schema that the migration makes for a schema. -/
def versionSchemaName (m : Migration) (schema : String) : String :=
  Sql.versionSchemaName schema (m.versionSchema.getD m.name)

/-- Whether the schema has to be read again after some operation. -/
def effectUnknown (m : Migration) : Bool :=
  m.operations.any Operation.effectUnknown

/-- Whether there are operations and all of them run SQL of the user. -/
def isAllRawSql (m : Migration) : Bool :=
  !m.operations.isEmpty && m.operations.all Operation.isRawSql

end Migration

end ExpandContract
