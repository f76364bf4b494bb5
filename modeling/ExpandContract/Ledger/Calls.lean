import ExpandContract.Ledger.Entry
import ExpandContract.Migration.Json
import ExpandContract.Session.Procedure

/-!
# Calls to the ledger

The ledger keeps its own invariants: the server refuses a second active migration, a name that was
used before and a history with two ends. The calls of this module are therefore single queries. They
read the rows of the answers, and say which error it is when an answer has no row or a row was
refused.
-/

set_option autoImplicit false

namespace ExpandContract

open Session

/-- The ledger in a state schema. -/
structure Ledger where
  stateSchema : String
deriving DecidableEq, Repr

namespace Ledger

/-- The request for a query. -/
def request (l : Ledger) (query : Query) : Request :=
  .ledger l.stateSchema query

/-- A migration from the value that the ledger keeps. -/
def readMigration (value : Json) : Except Error Migration :=
  match Migration.ofJson? value with
  | some m => .ok m
  | none => .error .serialization

/-- A snapshot from the value that the ledger keeps. -/
def readSnapshot (value : Json) : Except Error Schema :=
  match Schema.ofJson? value with
  | some schema => .ok schema
  | none => .error .serialization

/-! ## Making the ledger -/

/-- Makes the ledger, in one transaction and one at a time. -/
def init (l : Ledger) : Procedure Unit :=
  Procedure.inTransaction do
    let _ ← Transaction.call (.lockLedger l.stateSchema)
    let _ ← Transaction.call (.createLedger l.stateSchema)

/-- Whether the ledger has been made. -/
def isMade (l : Ledger) : Procedure Bool := do
  return (← Procedure.fetch? (l.request .isMade)).isSome

/-! ## Asking -/

/-- Whether a migration is in progress. -/
def isActive (l : Ledger) (schema : String) : Procedure Bool := do
  match ← Procedure.fetch? (l.request (.isActive schema)) with
  | none => return false
  | some row => return (← Procedure.ofExcept (row.value? 0 (.place 0) Json.bool?)).getD false

/-- The migration of a row. -/
def migrationOfRow (row : Row) : Except Error Migration := do
  readMigration (← row.value 0 (.named "migration") some)

/-- The migration in progress. -/
def activeMigration (l : Ledger) (schema : String) : Procedure Migration := do
  match ← Procedure.fetch? (l.request (.activeMigration schema)) with
  | none => Procedure.fail (.noActiveMigration schema)
  | some row => Procedure.ofExcept (migrationOfRow row)

/-- The migration of that name. -/
def migrationNamed (l : Ledger) (schema name : String) : Procedure Migration := do
  match ← Procedure.fetch? (l.request (.migrationNamed schema name)) with
  | none => Procedure.fail (.migrationNotFound schema name)
  | some row => Procedure.ofExcept (migrationOfRow row)

/-- The name that a query answers, if it answers one. -/
def askName (l : Ledger) (query : Query) : Procedure (Option String) := do
  match ← Procedure.fetch? (l.request query) with
  | none => return none
  | some row => Procedure.ofExcept (row.value? 0 (.place 0) Json.string?)

/-- The latest migration of this library. -/
def latestVersion (l : Ledger) (schema : String) : Procedure (Option String) :=
  l.askName (.latestVersion schema)

/-- The version before the latest one. -/
def previousVersion (l : Ledger) (schema : String) (includeInferred : Bool) :
    Procedure (Option String) :=
  l.askName (.previousVersion schema includeInferred)

/-- The latest entry. -/
def latestMigration (l : Ledger) (schema : String) : Procedure (Option String) :=
  l.askName (.latestMigration schema)

/-- The entry before the latest one. -/
def previousMigration (l : Ledger) (schema : String) : Procedure (Option String) :=
  l.askName (.previousMigration schema)

/-- A fresh snapshot of a schema. -/
def readSchema (l : Ledger) (schema : String) : Procedure Schema := do
  match ← Procedure.fetch? (l.request (.readSchema schema)) with
  | none => Procedure.fail (.stateCorrupted "read_schema returned no row")
  | some row =>
      Procedure.ofExcept do readSnapshot (← row.value 0 (.place 0) some)

/-- The snapshot that was recorded when a migration was complete, if there is one. -/
def recordedSnapshot (l : Ledger) (schema name : String) : Procedure (Option Schema) := do
  match ← Procedure.fetch? (l.request (.recordedSnapshot schema name)) with
  | none => return none
  | some row =>
      match ← Procedure.ofExcept (row.value? 0 (.named "resulting_schema") some) with
      | none => return none
      | some value => return some (← Procedure.ofExcept (readSnapshot value))

/-- The status of a schema. -/
def status (l : Ledger) (schema : String) : Procedure Status := do
  let version ← l.latestVersion schema
  let active ← l.isActive schema
  return .ofParts schema version active

/-- The entry of a row. -/
def entryOfRow (row : Row) : Except Error Entry := do
  let definition ← row.value 2 (.named "migration") some
  let word ← row.value 5 (.named "migration_type") Json.string?
  let schema ← row.value 0 (.named "schema") Json.string?
  let name ← row.value 1 (.named "name") Json.string?
  let migration ← readMigration definition
  let parent ← row.value? 3 (.named "parent") Json.string?
  let done ← row.value 4 (.named "done") Json.bool?
  let kind ← EntryKind.read word
  let createdAt ← row.value 6 (.named "created_at") Json.int?
  let updatedAt ← row.value 7 (.named "updated_at") Json.int?
  return { schema, name, migration, parent, done, kind, createdAt, updatedAt }

/-- The entries since the last baseline, the oldest first. -/
def history (l : Ledger) (schema : String) : Procedure (List Entry) := do
  let answer ← Procedure.call (l.request (.history schema))
  Procedure.ofExcept (answer.rows.mapM entryOfRow)

/-! ## Recording -/

/-- The error for a start that was refused because a key is taken: another migration is active, or
the name was used before. -/
def conflictOf (l : Ledger) (schema name : String) : Procedure Error := do
  match ← (l.activeMigration schema).attempt with
  | .ok active => return .migrationAlreadyActive schema active.name
  | .error (.noActiveMigration _) => return .duplicateMigration schema name
  | .error error => return error

/-- Records that a migration starts, and gives the row that names the entry before it. -/
def insertMigration (l : Ledger) (schema : String) (m : Migration) : Procedure Row := do
  let request := l.request (.insertMigration schema m.name m.toJson)
  match ← (Procedure.fetch? request).attempt with
  | .ok (some row) => return row
  | .ok none => Procedure.fail (.stateCorrupted "insert into migrations returned no row")
  | .error error =>
      if error.isTakenKey then Procedure.fail (← l.conflictOf schema m.name)
      else Procedure.fail error

/-- Records that a migration starts, and gives the schema as it stood before: the snapshot that was
recorded with the entry before it, or else a fresh one. -/
def start (l : Ledger) (schema : String) (m : Migration) : Procedure Schema := do
  let row ← l.insertMigration schema m
  let parent ← Procedure.ofExcept (row.value? 0 (.named "parent") Json.string?)
  let snapshot ← match parent with
    | some parent => l.recordedSnapshot schema parent
    | none => pure none
  match snapshot with
  | some snapshot => return snapshot
  | none => l.readSchema schema

/-- Records that the migration in progress is complete. -/
def complete (l : Ledger) (schema name : String) : Procedure Unit := do
  match ← Procedure.fetch? (l.request (.markDone schema name)) with
  | some _ => return ()
  | none => Procedure.fail (.noActiveMigration schema)

/-- Erases the migration in progress. -/
def rollback (l : Ledger) (schema name : String) : Procedure Unit := do
  match ← Procedure.fetch? (l.request (.erase schema name)) with
  | some _ => return ()
  | none => Procedure.fail (.noActiveMigration schema)

/-- Records the present schema as the beginning of the history. -/
def recordBaseline (l : Ledger) (schema name : String) : Procedure Unit := do
  if ← l.isActive schema then
    let active ← l.activeMigration schema
    Procedure.fail (.migrationAlreadyActive schema active.name)
  else
    let request := l.request (.insertBaseline schema name (Migration.ofName name).toJson)
    match ← (Procedure.call request).attempt with
    | .ok _ => return ()
    | .error error =>
        if error.isTakenKey then Procedure.fail (.duplicateMigration schema name)
        else Procedure.fail error

end Ledger

end ExpandContract
