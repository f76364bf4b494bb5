import ExpandContract.Json.Record
import ExpandContract.Schema.Basic

/-!
# Snapshots in JSON

The server hands out snapshots as JSON and the ledger keeps them so. Every field is written, also
one that holds nothing. For reading, only names and column types have to be given; what is missing
is taken as absent, empty or zero.
-/

set_option autoImplicit false

namespace ExpandContract

open Json

/-! ## Writing -/

/-- A column as an object. -/
def Column.toJson (c : Column) : Json :=
  .object [("name", .string c.name), ("type", .string c.dataType), ("default", optString c.default),
    ("nullable", .bool c.nullable), ("position", .int c.position.toInt),
    ("comment", optString c.comment)]

/-- An index as an object. -/
def Index.toJson (i : Index) : Json :=
  .object [("name", .string i.name), ("unique", .bool i.unique), ("columns", strings i.columns)]

/-- A check constraint as an object. -/
def CheckConstraint.toJson (c : CheckConstraint) : Json :=
  .object [("name", .string c.name), ("columns", strings c.columns),
    ("definition", .string c.definition)]

/-- A unique constraint as an object. -/
def UniqueConstraint.toJson (c : UniqueConstraint) : Json :=
  .object [("name", .string c.name), ("columns", strings c.columns)]

/-- A foreign key as an object. -/
def ForeignKey.toJson (k : ForeignKey) : Json :=
  .object [("name", .string k.name), ("columns", strings k.columns),
    ("referencedTable", .string k.referencedTable),
    ("referencedColumns", strings k.referencedColumns), ("onDelete", .string k.onDelete)]

/-- A table as an object. -/
def Table.toJson (t : Table) : Json :=
  .object [("name", .string t.name), ("oid", .string t.oid), ("comment", optString t.comment),
    ("columns", ofMap Column.toJson t.columns), ("primaryKey", strings t.primaryKey),
    ("indexes", ofMap Index.toJson t.indexes),
    ("checkConstraints", ofMap CheckConstraint.toJson t.checkConstraints),
    ("uniqueConstraints", ofMap UniqueConstraint.toJson t.uniqueConstraints),
    ("foreignKeys", ofMap ForeignKey.toJson t.foreignKeys)]

/-- A schema as an object. -/
def Schema.toJson (s : Schema) : Json :=
  .object [("name", .string s.name), ("tables", ofMap Table.toJson s.tables)]

/-! ## Reading -/

/-- An integer of 32 bits. -/
def Json.int32? (value : Json) : Option Int32 := do
  let n ← value.int?
  if -2147483648 ≤ n ∧ n < 2147483648 then some (Int32.ofInt n) else none

/-- A list of texts. -/
def Json.strings? : Json → Option (List String) :=
  list? string?

/-- Reads a column. -/
def Column.ofJson? (value : Json) : Option Column := do
  let field ← value.record? ["name", "type", "default", "nullable", "position", "comment"]
  return {
    name := ← required string? (field "name")
    dataType := ← required string? (field "type")
    default := ← optional string? (field "default")
    nullable := ← withDefault false bool? (field "nullable")
    position := ← withDefault 0 int32? (field "position")
    comment := ← optional string? (field "comment") }

/-- Reads an index. -/
def Index.ofJson? (value : Json) : Option Index := do
  let field ← value.record? ["name", "unique", "columns"]
  return {
    name := ← required string? (field "name")
    unique := ← withDefault false bool? (field "unique")
    columns := ← withDefault [] strings? (field "columns") }

/-- Reads a check constraint. -/
def CheckConstraint.ofJson? (value : Json) : Option CheckConstraint := do
  let field ← value.record? ["name", "columns", "definition"]
  return {
    name := ← required string? (field "name")
    columns := ← withDefault [] strings? (field "columns")
    definition := ← withDefault "" string? (field "definition") }

/-- Reads a unique constraint. -/
def UniqueConstraint.ofJson? (value : Json) : Option UniqueConstraint := do
  let field ← value.record? ["name", "columns"]
  return {
    name := ← required string? (field "name")
    columns := ← withDefault [] strings? (field "columns") }

/-- Reads a foreign key. -/
def ForeignKey.ofJson? (value : Json) : Option ForeignKey := do
  let field ← value.record?
    ["name", "columns", "referencedTable", "referencedColumns", "onDelete"]
  return {
    name := ← required string? (field "name")
    columns := ← withDefault [] strings? (field "columns")
    referencedTable := ← withDefault "" string? (field "referencedTable")
    referencedColumns := ← withDefault [] strings? (field "referencedColumns")
    onDelete := ← withDefault "" string? (field "onDelete") }

/-- Reads a table. -/
def Table.ofJson? (value : Json) : Option Table := do
  let field ← value.record? ["name", "oid", "comment", "columns", "primaryKey", "indexes",
    "checkConstraints", "uniqueConstraints", "foreignKeys"]
  return {
    name := ← required string? (field "name")
    oid := ← withDefault "" string? (field "oid")
    comment := ← optional string? (field "comment")
    columns := ← withDefault .empty (map? Column.ofJson?) (field "columns")
    primaryKey := ← withDefault [] strings? (field "primaryKey")
    indexes := ← withDefault .empty (map? Index.ofJson?) (field "indexes")
    checkConstraints :=
      ← withDefault .empty (map? CheckConstraint.ofJson?) (field "checkConstraints")
    uniqueConstraints :=
      ← withDefault .empty (map? UniqueConstraint.ofJson?) (field "uniqueConstraints")
    foreignKeys := ← withDefault .empty (map? ForeignKey.ofJson?) (field "foreignKeys") }

/-- Reads a schema. -/
def Schema.ofJson? (value : Json) : Option Schema := do
  let field ← value.record? ["name", "tables"]
  return {
    name := ← required string? (field "name")
    tables := ← withDefault .empty (map? Table.ofJson?) (field "tables") }

end ExpandContract
