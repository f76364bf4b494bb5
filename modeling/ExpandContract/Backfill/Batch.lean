import ExpandContract.Error
import ExpandContract.Schema.Basic
import ExpandContract.Sql.Quoted

/-!
# Batches of a backfill

A backfill updates the rows of a table in the order of the primary key, a limited number of rows at
a time. A batch is one statement: it picks the rows after a given key, sets their key columns to
what they are, so that the triggers of the table compute the new columns, and answers how many rows
it wrote and which key was the last.
-/

set_option autoImplicit false

namespace ExpandContract.Backfill

/-- A table with its primary key, by which its rows are visited. -/
structure Batch where
  schema : String
  table : String
  /-- The columns of the key and their types, in the order of the key. -/
  key : List (String × String)
deriving DecidableEq, Repr

namespace Batch

/-- The batches of a table, which needs a primary key on columns that the snapshot knows. -/
def ofTable (schema : String) (table : Table) : Except Error Batch :=
  if table.primaryKey.isEmpty then .error (.backfill table.name "table has no primary key")
  else
    match table.keyTypes? with
    | none => .error (.backfill table.name "primary key column missing from schema")
    | some types => .ok { schema, table := table.name, key := table.primaryKey.zip types }

/-- The key columns, quoted. -/
def columns (b : Batch) : List String :=
  b.key.map fun column => Sql.quotedName column.1

/-- The key columns of a row that has a name of its own in the statement. -/
def columnsOf (b : Batch) (row : String) : String :=
  Sql.joined ", " (b.columns.map fun column => row ++ "." ++ column)

/-- The places of the last key among the parameters; the first parameter is the limit. -/
def cursorPlaces (b : Batch) : String :=
  Sql.joined ", " (b.key.zipIdx.map fun entry =>
    "$" ++ toString (entry.2 + 2) ++ "::" ++ entry.1.2)

/-- The statement of a batch: from the beginning, or after the key given by the parameters. -/
def text (b : Batch) (withCursor : Bool) : String :=
  let table := Sql.qualifiedName b.schema b.table
  let keys := Sql.joined ", " b.columns
  "WITH batch AS ( SELECT " ++ keys ++ " FROM " ++ table ++ " " ++
    (if withCursor then "WHERE (" ++ keys ++ ") > (" ++ b.cursorPlaces ++ ") " else "") ++
    "ORDER BY " ++ keys ++ " LIMIT $1 FOR NO KEY UPDATE ), updated AS ( UPDATE " ++ table ++
    " AS t SET " ++ Sql.joined ", " (b.columns.map fun column => column ++ " = t." ++ column) ++
    " FROM batch WHERE (" ++ b.columnsOf "t" ++ ") = (" ++ b.columnsOf "batch" ++
    ") RETURNING " ++ b.columnsOf "t" ++ " ) " ++
    "SELECT (SELECT count(*) FROM updated) AS updated, (SELECT ARRAY[" ++
    Sql.joined ", " (b.columns.map fun column => column ++ "::text") ++
    "] FROM updated ORDER BY " ++
    Sql.joined ", " (b.columns.map fun column => column ++ " DESC") ++
    " LIMIT 1) AS last_key"

end Batch

end ExpandContract.Backfill
