import ExpandContract.Json.Parser
import ExpandContract.Json.Record
import ExpandContract.Migration.Basic
import ExpandContract.Schema.Json

/-!
# Migrations in JSON

Migrations are given as JSON and the ledger keeps them so. An operation is an object with exactly
one member, whose name tells the kind. Absent options are left out, and so is the request to run SQL
at completion when it is not made.
-/

set_option autoImplicit false

namespace ExpandContract

open Json

/-! ## Writing -/

/-- The member for an option, if it is present. -/
def Json.optMember (name : String) : Option String → List (String × Json)
  | none => []
  | some text => [(name, .string text)]

/-- A column definition as an object. -/
def ColumnDefinition.toJson (c : ColumnDefinition) : Json :=
  .object ([("name", .string c.name), ("type", .string c.dataType),
    ("nullable", .bool c.nullable), ("pk", .bool c.pk), ("unique", .bool c.unique)] ++
    optMember "default" c.default ++ optMember "check" c.check ++ optMember "comment" c.comment)

/-- The fields of an operation as an object. -/
def Operation.fieldsToJson : Operation → Json
  | .createTable op =>
      .object ([("name", .string op.name),
        ("columns", .array (op.columns.map ColumnDefinition.toJson))] ++
        optMember "comment" op.comment)
  | .dropTable op => .object [("name", .string op.name)]
  | .addColumn op =>
      .object ([("table", .string op.table), ("column", op.column.toJson)] ++
        optMember "up" op.up)
  | .dropColumn op =>
      .object ([("table", .string op.table), ("column", .string op.column)] ++
        optMember "down" op.down)
  | .renameColumn op =>
      .object [("table", .string op.table), ("from", .string op.source),
        ("to", .string op.target)]
  | .createIndex op =>
      .object [("name", .string op.name), ("table", .string op.table),
        ("columns", strings op.columns), ("unique", .bool op.unique)]
  | .dropIndex op => .object [("name", .string op.name)]
  | .rawSql op =>
      .object ([("up", .string op.up)] ++ optMember "down" op.down ++
        if op.onComplete then [("on_complete", .bool true)] else [])

/-- An operation as an object of one member. -/
def Operation.toJson (op : Operation) : Json :=
  .object [(op.kind, op.fieldsToJson)]

/-- A migration as an object. -/
def Migration.toJson (m : Migration) : Json :=
  .object ([("name", .string m.name)] ++ optMember "version_schema" m.versionSchema ++
    [("operations", .array (m.operations.map Operation.toJson))])

/-! ## Reading -/

/-- Reads a column definition. -/
def ColumnDefinition.ofJson? (value : Json) : Option ColumnDefinition := do
  let field ← value.record?
    ["name", "type", "nullable", "pk", "unique", "default", "check", "comment"]
  return {
    name := ← required string? (field "name")
    dataType := ← required string? (field "type")
    nullable := ← withDefault false bool? (field "nullable")
    pk := ← withDefault false bool? (field "pk")
    unique := ← withDefault false bool? (field "unique")
    default := ← optional string? (field "default")
    check := ← optional string? (field "check")
    comment := ← optional string? (field "comment") }

/-- Reads the creation of a table. -/
def CreateTable.ofJson? (value : Json) : Option CreateTable := do
  let field ← value.record? ["name", "columns", "comment"]
  return {
    name := ← required string? (field "name")
    columns := ← required (list? ColumnDefinition.ofJson?) (field "columns")
    comment := ← optional string? (field "comment") }

/-- Reads the drop of a table. -/
def DropTable.ofJson? (value : Json) : Option DropTable := do
  let field ← value.record? ["name"]
  return { name := ← required string? (field "name") }

/-- Reads the addition of a column. -/
def AddColumn.ofJson? (value : Json) : Option AddColumn := do
  let field ← value.record? ["table", "column", "up"]
  return {
    table := ← required string? (field "table")
    column := ← required ColumnDefinition.ofJson? (field "column")
    up := ← optional string? (field "up") }

/-- Reads the drop of a column. -/
def DropColumn.ofJson? (value : Json) : Option DropColumn := do
  let field ← value.record? ["table", "column", "down"]
  return {
    table := ← required string? (field "table")
    column := ← required string? (field "column")
    down := ← optional string? (field "down") }

/-- Reads the renaming of a column. -/
def RenameColumn.ofJson? (value : Json) : Option RenameColumn := do
  let field ← value.record? ["table", "from", "to"]
  return {
    table := ← required string? (field "table")
    source := ← required string? (field "from")
    target := ← required string? (field "to") }

/-- Reads the creation of an index. -/
def CreateIndex.ofJson? (value : Json) : Option CreateIndex := do
  let field ← value.record? ["name", "table", "columns", "unique"]
  return {
    name := ← required string? (field "name")
    table := ← required string? (field "table")
    columns := ← required strings? (field "columns")
    unique := ← withDefault false bool? (field "unique") }

/-- Reads the drop of an index. -/
def DropIndex.ofJson? (value : Json) : Option DropIndex := do
  let field ← value.record? ["name"]
  return { name := ← required string? (field "name") }

/-- Reads SQL of the user. -/
def RawSql.ofJson? (value : Json) : Option RawSql := do
  let field ← value.record? ["up", "down", "on_complete"]
  return {
    up := ← required string? (field "up")
    down := ← optional string? (field "down")
    onComplete := ← withDefault false bool? (field "on_complete") }

/-- Reads an operation: the name of the only member of an object tells its kind. -/
def Operation.ofJson? : Json → Option Operation
  | .object [(kind, fields)] =>
      match kind with
      | "create_table" => (CreateTable.ofJson? fields).map .createTable
      | "drop_table" => (DropTable.ofJson? fields).map .dropTable
      | "add_column" => (AddColumn.ofJson? fields).map .addColumn
      | "drop_column" => (DropColumn.ofJson? fields).map .dropColumn
      | "rename_column" => (RenameColumn.ofJson? fields).map .renameColumn
      | "create_index" => (CreateIndex.ofJson? fields).map .createIndex
      | "drop_index" => (DropIndex.ofJson? fields).map .dropIndex
      | "sql" => (RawSql.ofJson? fields).map .rawSql
      | _ => none
  | _ => none

/-- Reads a migration. -/
def Migration.ofJson? (value : Json) : Option Migration := do
  let field ← value.record? ["name", "version_schema", "operations"]
  return {
    name := ← required string? (field "name")
    versionSchema := ← optional string? (field "version_schema")
    operations := ← withDefault [] (list? Operation.ofJson?) (field "operations") }

/-- Reads a migration from its text. -/
def Migration.parse? (text : String) : Option Migration := do
  Migration.ofJson? (← Json.parse? text)

/-- Reads a schema from its text. -/
def Schema.parse? (text : String) : Option Schema := do
  Schema.ofJson? (← Json.parse? text)

end ExpandContract
