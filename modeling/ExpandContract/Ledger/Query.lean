import ExpandContract.Json.Basic
import ExpandContract.Sql.Quoted

/-!
# Questions to the ledger

Every call to the ledger is one statement with parameters. A query says what is asked and for which
schema; `text` writes the statement for a state schema and `args` gives its parameters, in the order
of the places `$1`, `$2` and so on.
-/

set_option autoImplicit false

namespace ExpandContract.Ledger

/-- A parameter of a statement. -/
inductive Arg where
  | text (value : String)
  | bool (value : Bool)
  | int (value : Int)
  | json (value : Json)
deriving Repr

/-- The parameter as a value. -/
def Arg.toJson : Arg → Json
  | .text value => .string value
  | .bool value => .bool value
  | .int value => .int value
  | .json value => value

/-- A question to the ledger, or an entry for it. -/
inductive Query where
  /-- Whether the ledger exists. -/
  | isMade
  /-- Whether a migration is in progress. -/
  | isActive (schema : String)
  /-- The migration in progress. -/
  | activeMigration (schema : String)
  /-- A migration of that name. -/
  | migrationNamed (schema name : String)
  /-- Records that a migration starts; the answer names the entry before it. -/
  | insertMigration (schema name : String) (definition : Json)
  /-- The snapshot that was recorded when a migration was complete. -/
  | recordedSnapshot (schema name : String)
  /-- Records that the migration in progress is complete. -/
  | markDone (schema name : String)
  /-- Erases the migration in progress. -/
  | erase (schema name : String)
  /-- The latest migration of this library. -/
  | latestVersion (schema : String)
  /-- The one before the latest version. -/
  | previousVersion (schema : String) (includeInferred : Bool)
  /-- The latest entry. -/
  | latestMigration (schema : String)
  /-- The entry before the latest one. -/
  | previousMigration (schema : String)
  /-- The entries since the last baseline. -/
  | history (schema : String)
  /-- Records the beginning of a history. -/
  | insertBaseline (schema name : String) (definition : Json)
  /-- A fresh snapshot of the schema. -/
  | readSchema (schema : String)
deriving Repr

/-- The table of the migrations. -/
def migrationsTable (stateSchema : String) : String :=
  Sql.quotedName stateSchema ++ ".migrations"

/-- A function of the ledger. -/
def ledgerFunction (stateSchema name : String) : String :=
  Sql.quotedName stateSchema ++ "." ++ name

namespace Query

/-- The statement of a query. -/
def text (stateSchema : String) (query : Query) : String :=
  let table := migrationsTable stateSchema
  let function := ledgerFunction stateSchema
  match query with
  | .isMade =>
      "SELECT 1 FROM pg_catalog.pg_tables WHERE schemaname = $1 AND tablename = 'migrations'"
  | .isActive _ => "SELECT " ++ function "is_active_migration_period" ++ "($1)"
  | .activeMigration _ =>
      "SELECT migration FROM " ++ table ++ " WHERE schema = $1 AND name = " ++
        function "latest_migration" ++ "($1) AND done = false"
  | .migrationNamed _ _ =>
      "SELECT migration FROM " ++ table ++ " WHERE schema = $1 AND name = $2"
  | .insertMigration _ _ _ =>
      "INSERT INTO " ++ table ++ " (schema, name, parent, migration, migration_type) " ++
        "VALUES ($1, $2, " ++ function "latest_migration" ++
        "($1), $3, 'pgroll') RETURNING parent"
  | .recordedSnapshot _ _ =>
      "SELECT NULLIF(resulting_schema, '\x7b\x7d'::jsonb) AS resulting_schema FROM " ++ table ++
        " WHERE schema = $1 AND name = $2"
  | .markDone _ _ =>
      "UPDATE " ++ table ++ " SET done = true, updated_at = current_timestamp, " ++
        "resulting_schema = " ++ function "read_schema" ++ "($1) " ++
        "WHERE schema = $1 AND name = $2 AND done = false RETURNING name"
  | .erase _ _ =>
      "DELETE FROM " ++ table ++
        " WHERE schema = $1 AND name = $2 AND done = false RETURNING name"
  | .latestVersion _ => "SELECT " ++ function "latest_version" ++ "($1)"
  | .previousVersion _ _ => "SELECT " ++ function "previous_version" ++ "($1, $2)"
  | .latestMigration _ => "SELECT " ++ function "latest_migration" ++ "($1)"
  | .previousMigration _ => "SELECT " ++ function "previous_migration" ++ "($1)"
  | .history _ =>
      "WITH baseline AS ( SELECT max(created_at) AS created_at FROM " ++ table ++
        " WHERE schema = $1 AND migration_type = 'baseline' ) " ++
        "SELECT m.schema::text AS schema, m.name, m.migration, m.parent, m.done, " ++
        "m.migration_type::text AS migration_type, m.created_at, m.updated_at " ++
        "FROM " ++ table ++ " m, baseline b " ++
        "WHERE m.schema = $1 AND (b.created_at IS NULL OR m.created_at > b.created_at) " ++
        "ORDER BY m.created_at ASC"
  | .insertBaseline _ _ _ =>
      "INSERT INTO " ++ table ++
        " (schema, name, migration, parent, done, resulting_schema, migration_type) " ++
        "VALUES ($1, $2, $3, " ++ function "latest_migration" ++ "($1), true, " ++
        function "read_schema" ++ "($1), 'baseline')"
  | .readSchema _ => "SELECT " ++ function "read_schema" ++ "($1)"

/-- The parameters of a query. -/
def args (stateSchema : String) : Query → List Arg
  | .isMade => [.text stateSchema]
  | .isActive schema => [.text schema]
  | .activeMigration schema => [.text schema]
  | .migrationNamed schema name => [.text schema, .text name]
  | .insertMigration schema name definition => [.text schema, .text name, .json definition]
  | .recordedSnapshot schema name => [.text schema, .text name]
  | .markDone schema name => [.text schema, .text name]
  | .erase schema name => [.text schema, .text name]
  | .latestVersion schema => [.text schema]
  | .previousVersion schema includeInferred => [.text schema, .bool includeInferred]
  | .latestMigration schema => [.text schema]
  | .previousMigration schema => [.text schema]
  | .history schema => [.text schema]
  | .insertBaseline schema name definition => [.text schema, .text name, .json definition]
  | .readSchema schema => [.text schema]

end Query

end ExpandContract.Ledger
