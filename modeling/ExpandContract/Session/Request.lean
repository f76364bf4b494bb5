import ExpandContract.Backfill.Batch
import ExpandContract.Ledger.Query
import ExpandContract.Ledger.Script
import ExpandContract.Sql.Change

/-!
# Requests

A request is one message to the server: a plain statement, which may hold several SQL statements, or
a query with parameters, which is answered by rows. Requests are data; `text` gives the SQL of a
request and `args?` its parameters, where it is a query.

A row is a list of cells. A cell holds a value, or none where it is null in the database.
-/

set_option autoImplicit false

namespace ExpandContract.Session

open Ledger (Arg Query)

/-- A message to the server. -/
inductive Request where
  /-- The settings of a new connection. -/
  | prepare (statements : List String)
  | serverVersion
  | hasSchema (name : String)
  | begin
  | commit
  | rollback
  /-- Waits until nobody else makes the ledger. -/
  | lockLedger (stateSchema : String)
  /-- Makes the ledger. -/
  | createLedger (stateSchema : String)
  | ledger (stateSchema : String) (query : Query)
  | change (statement : Sql.Change)
  /-- The number of rows that the server believes a table to have. -/
  | estimateRows (schema table : String)
  | countRows (schema table : String)
  /-- One batch of a backfill, after the last key of the batch before. -/
  | updateBatch (batch : Backfill.Batch) (limit : Nat) (cursor : Option (List String))
deriving Repr

namespace Request

/-- The SQL of a request. -/
def text : Request → String
  | .prepare statements => Sql.joined "; " statements
  | .serverVersion => "SELECT current_setting('server_version_num')::int"
  | .hasSchema _ =>
      "SELECT EXISTS (SELECT 1 FROM pg_catalog.pg_namespace WHERE nspname = $1)"
  | .begin => "BEGIN"
  | .commit => "COMMIT"
  | .rollback => "ROLLBACK"
  | .lockLedger _ => "SELECT pg_advisory_xact_lock(hashtext($1))"
  | .createLedger stateSchema => Ledger.creationScript stateSchema
  | .ledger stateSchema query => query.text stateSchema
  | .change statement => statement.text
  | .estimateRows _ _ =>
      "SELECT reltuples::bigint FROM pg_catalog.pg_class WHERE oid = to_regclass($1)"
  | .countRows schema table => "SELECT count(*) FROM " ++ Sql.qualifiedName schema table
  | .updateBatch batch _ cursor => batch.text cursor.isSome

/-- The parameters of a query; a plain statement has none to give. -/
def args? : Request → Option (List Arg)
  | .prepare _ => none
  | .serverVersion => some []
  | .hasSchema name => some [.text name]
  | .begin => none
  | .commit => none
  | .rollback => none
  | .lockLedger stateSchema => some [.text stateSchema]
  | .createLedger _ => none
  | .ledger stateSchema query => some (query.args stateSchema)
  | .change _ => none
  | .estimateRows schema table => some [.text (Sql.qualifiedName schema table)]
  | .countRows _ _ => some []
  | .updateBatch _ limit cursor => some (.int limit :: (cursor.getD []).map .text)

end Request

/-! ## Answers -/

/-- A value of a row, or null. -/
abbrev Cell := Option Json

/-- A row of an answer. -/
abbrev Row := List Cell

/-- What the server answers to a request it has carried out. -/
structure Answer where
  rows : List Row
  /-- The number of rows that a plain statement changed. -/
  affected : Nat
deriving Repr

namespace Row

/-- The cell at a place of the row. -/
def cell (row : Row) (place : Nat) : Cell :=
  row[place]?.join

/-- The value of a cell that must not be null. -/
def value {α : Type} (row : Row) (place : Nat) (column : ColumnRef) (read : Json → Option α) :
    Except Error α :=
  match (row.cell place).bind read with
  | some found => .ok found
  | none => .error (.database (.unexpectedNull column))

/-- The value of a cell that may be null. -/
def value? {α : Type} (row : Row) (place : Nat) (column : ColumnRef) (read : Json → Option α) :
    Except Error (Option α) :=
  match row.cell place with
  | none => .ok none
  | some held =>
      match read held with
      | some found => .ok (some found)
      | none => .error (.database (.unexpectedNull column))

end Row

end ExpandContract.Session
