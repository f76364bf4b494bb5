import ExpandContract.NameMap
import ExpandContract.Sql.Change

/-!
# Schema snapshots

A snapshot describes the tables of one schema. Tables and columns are kept under the names that a
version of the schema exposes, and each holds the name of the physical object behind it: while a
migration is in progress the two differ, because a new version already shows a column under a name
that the physical column will get later.

The columns of a table have positions, which give the order of the columns in the views of a
version. The position zero means that a column has no position yet; `Table.exposeColumn` then places
it after the last one.

A version of a schema is served by a schema of views: one view for each table, under the exposed
name of the table, with each of its columns under the exposed name of the column and in the order of
the table. Tables without columns have no view.
-/

set_option autoImplicit false

namespace ExpandContract

/-! ## What a snapshot holds -/

/-- A column. -/
structure Column where
  /-- The physical name. -/
  name : String
  dataType : String
  default : Option String
  nullable : Bool
  /-- The place among the columns of the table, counted from one. -/
  position : Int32
  comment : Option String
deriving DecidableEq

/-- An index; its columns are physical names. -/
structure Index where
  name : String
  unique : Bool
  columns : List String
deriving DecidableEq

/-- A check constraint. -/
structure CheckConstraint where
  name : String
  columns : List String
  definition : String
deriving DecidableEq

/-- A unique constraint. -/
structure UniqueConstraint where
  name : String
  columns : List String
deriving DecidableEq

/-- A foreign key. -/
structure ForeignKey where
  name : String
  columns : List String
  referencedTable : String
  referencedColumns : List String
  onDelete : String
deriving DecidableEq

/-- A table. The columns are kept under their exposed names; the primary key lists physical names,
in the order of the key. -/
structure Table where
  /-- The physical name. -/
  name : String
  oid : String
  comment : Option String
  columns : NameMap Column
  primaryKey : List String
  indexes : NameMap Index
  checkConstraints : NameMap CheckConstraint
  uniqueConstraints : NameMap UniqueConstraint
  foreignKeys : NameMap ForeignKey
deriving DecidableEq

/-- A snapshot of one schema, with its tables under their exposed names. -/
structure Schema where
  name : String
  tables : NameMap Table
deriving DecidableEq

/-- A column that allows null and has no position yet. -/
def Column.ofType (name dataType : String) : Column :=
  { name, dataType, default := none, nullable := true, position := 0, comment := none }

namespace Table

/-! ## Tables -/

/-- A table without columns. -/
def ofName (name : String) : Table :=
  { name
    oid := ""
    comment := none
    columns := .empty
    primaryKey := []
    indexes := .empty
    checkConstraints := .empty
    uniqueConstraints := .empty
    foreignKeys := .empty }

/-- The column exposed under a name. -/
def column? (t : Table) (exposed : String) : Option Column :=
  t.columns.find? exposed

/-- The greatest position of a list of columns. -/
def lastPosition? (columns : List Column) : Option Int32 :=
  columns.foldl (fun last c =>
    match last with
    | none => some c.position
    | some p => some (if p < c.position then c.position else p)) none

/-- The position after that of the last column, and one where there is no column. -/
def positionAfterLast (t : Table) : Int32 :=
  (lastPosition? t.columns.values).getD 0 + 1

/-- Exposes a column under a name, in place of a column that was exposed under it before. A column
without a position is placed after the last one. -/
def exposeColumn (t : Table) (exposed : String) (c : Column) : Table :=
  let placed := if c.position = 0 then { c with position := t.positionAfterLast } else c
  { t with columns := t.columns.insert exposed placed }

/-- Exposes a column under its physical name. -/
def withColumn (t : Table) (c : Column) : Table :=
  t.exposeColumn c.name c

/-- No longer exposes the column. -/
def hideColumn (t : Table) (exposed : String) : Table :=
  { t with columns := t.columns.erase exposed }

/-- Exposes a column under another name, if there is such a column. -/
def renameColumn? (t : Table) (source target : String) : Option Table :=
  (t.column? source).map fun c =>
    { t with columns := (t.columns.erase source).insert target c }

/-- Adds an index, in place of an index of the same name. -/
def addIndex (t : Table) (index : Index) : Table :=
  { t with indexes := t.indexes.insert index.name index }

/-- Removes an index. -/
def removeIndex (t : Table) (name : String) : Table :=
  { t with indexes := t.indexes.erase name }

/-! ## The order of the columns -/

/-- Puts an entry before the first entry whose position is not smaller. -/
def insertByPosition (entry : String × Column) : List (String × Column) → List (String × Column)
  | [] => [entry]
  | first :: rest =>
      if entry.2.position ≤ first.2.position then entry :: first :: rest
      else first :: insertByPosition entry rest

/-- The exposed names and the columns in the order of the positions, and in the order of the exposed
names where positions agree. -/
def orderedColumns (t : Table) : List (String × Column) :=
  t.columns.entries.foldr insertByPosition []

/-- The types of the columns of the primary key, in the order of the key, if each of them is the
physical name of a column. -/
def keyTypes? (t : Table) : Option (List String) :=
  t.primaryKey.mapM fun key =>
    (t.columns.values.find? fun c => c.name == key).map (·.dataType)

theorem perm_insertByPosition (entry : String × Column) (list : List (String × Column)) :
    (insertByPosition entry list).Perm (entry :: list) := by
  induction list with
  | nil => exact .refl _
  | cons first rest ih =>
      unfold insertByPosition
      split
      · exact .refl _
      · exact (ih.cons first).trans (.swap entry first rest)

theorem perm_foldr_insertByPosition (list : List (String × Column)) :
    (list.foldr insertByPosition []).Perm list := by
  induction list with
  | nil => exact .refl _
  | cons entry rest ih => exact (perm_insertByPosition entry _).trans (ih.cons entry)

/-- The order of the columns loses none and invents none. -/
theorem perm_orderedColumns (t : Table) : t.orderedColumns.Perm t.columns.entries :=
  perm_foldr_insertByPosition t.columns.entries

end Table

namespace Schema

/-! ## Schemas -/

/-- A schema without tables. -/
def ofName (name : String) : Schema :=
  { name, tables := .empty }

/-- The table exposed under a name. -/
def table? (s : Schema) (exposed : String) : Option Table :=
  s.tables.find? exposed

/-- Exposes a table under a name, in place of a table that was exposed under it before. -/
def exposeTable (s : Schema) (exposed : String) (t : Table) : Schema :=
  { s with tables := s.tables.insert exposed t }

/-- No longer exposes the table. -/
def hideTable (s : Schema) (exposed : String) : Schema :=
  { s with tables := s.tables.erase exposed }

/-- The index of that name, with the exposed name of the first table that has one. -/
def findIndex? (s : Schema) (name : String) : Option (String × Index) :=
  s.tables.entries.findSome? fun entry =>
    (entry.2.indexes.find? name).map fun index => (entry.1, index)

/-- The physical name of a column, or the given name where no such column is exposed. -/
def physicalName (s : Schema) (table column : String) : String :=
  match (s.table? table).bind (·.column? column) with
  | some c => c.name
  | none => column

end Schema

/-! ## Version schemas -/

/-- The view of a table, under its exposed name. -/
def Table.view (t : Table) (exposed : String) : Sql.View :=
  { name := exposed, table := t.name
    columns := t.orderedColumns.map fun column => (column.2.name, column.1) }

/-- The views of the tables that have columns, in the order of the exposed names. -/
def Schema.views (s : Schema) : List Sql.View :=
  (s.tables.entries.map fun entry => entry.2.view entry.1).filter fun view =>
    !view.columns.isEmpty

/-- The version schema that shows a snapshot. -/
def Schema.version (s : Schema) (name : String) (securityInvoker : Bool) : Sql.VersionSchema :=
  { name, source := s.name, views := s.views, securityInvoker }

end ExpandContract
