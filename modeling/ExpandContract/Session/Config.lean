import ExpandContract.Migration.Basic
import ExpandContract.Session.Hook
import ExpandContract.Sql.Quoted
import ExpandContract.Sql.Transformer
import ExpandContract.Text.Printable
import ExpandContract.Time.Backoff

/-!
# Configuration

What a session needs to know before it begins: how to reach the server and how to set up a
connection, which schema is migrated and where its ledger is, how patient to be with locks, how to
fill new columns, and what the user wants to have checked, changed or done in between.
-/

set_option autoImplicit false

namespace ExpandContract.Session

open Time (Backoff Duration)

/-! ## Connections -/

/-- The usual time that a statement waits for a lock. -/
def defaultLockTimeout : Duration := .ofMillis 500

/-- The usual number of connections. -/
def defaultMaxConnections : Nat := 4

/-- How connections are set up. -/
structure ConnectionSettings where
  url : String
  maxConnections : Nat
  lockTimeout : Duration
  /-- The role that a connection takes on. -/
  role : Option String
  searchPath : List String
  backoff : Backoff

namespace ConnectionSettings

/-- The usual settings. -/
def ofUrl (url : String) : ConnectionSettings :=
  { url, maxConnections := defaultMaxConnections, lockTimeout := defaultLockTimeout, role := none,
    searchPath := [], backoff := .standard }

/-- The statements that set up a connection. The second one marks it as a connection of this
library, whose changes are not recorded as those of other programs. -/
def statements (s : ConnectionSettings) : List String :=
  ["SET lock_timeout TO '" ++ toString s.lockTimeout.wholeMillis ++ "ms'",
    "SET pgshift.internal TO 'TRUE'"] ++
    (match s.role with
      | some role => ["SET ROLE " ++ Sql.quotedName role]
      | none => []) ++
    (if s.searchPath.isEmpty then []
      else ["SET search_path TO " ++ Sql.quotedNames s.searchPath])

end ConnectionSettings

/-! ## Backfills -/

/-- How tables are filled. -/
structure BackfillConfig where
  /-- The number of rows of a batch. -/
  batchSize : Nat
  /-- The pause between two batches. -/
  batchDelay : Duration
  /-- The number of progress callbacks. -/
  callbacks : Nat
deriving DecidableEq

namespace BackfillConfig

/-- The usual way: a thousand rows at a time, without a pause. -/
def standard : BackfillConfig :=
  { batchSize := 1000, batchDelay := .zero, callbacks := 0 }

/-- Another batch size; a batch has at least one row. -/
def withBatchSize (c : BackfillConfig) (n : Nat) : BackfillConfig :=
  { c with batchSize := max n 1 }

/-- The configuration as it is shown to people. -/
def shown (c : BackfillConfig) : String :=
  "BackfillConfig \x7b batch_size: " ++ toString c.batchSize ++ ", batch_delay: " ++
    c.batchDelay.shown ++ ", callbacks: " ++ toString c.callbacks ++ " \x7d"

end BackfillConfig

/-! ## Sessions -/

/-- The first version of the server whose views can be read with the rights of the reader. -/
def securityInvokerVersion : Int := 150000

/-- The configuration of a session. -/
structure Config where
  url : String
  /-- The schema that is migrated. -/
  schema : String
  /-- The schema that holds the ledger. -/
  stateSchema : String
  maxConnections : Nat
  lockTimeout : Duration
  role : Option String
  /-- The schemas that follow the migrated one on the search path. -/
  searchPath : List String
  backoff : Backoff
  /-- Whether there are no version schemas at all. -/
  disableVersionSchemas : Bool
  /-- Whether migrations that only run SQL of the user get no version schema. -/
  noVersionSchemaForRawSql : Bool
  skipValidation : Bool
  backfill : BackfillConfig
  hooks : List Hook
  transformer : Sql.Transformer
  /-- Whether the session is cancelled from the beginning. -/
  cancelled : Bool

namespace Config

/-- The usual configuration. -/
def ofUrl (url : String) : Config :=
  { url
    schema := "public"
    stateSchema := "pgshift"
    maxConnections := defaultMaxConnections
    lockTimeout := defaultLockTimeout
    role := none
    searchPath := []
    backoff := .standard
    disableVersionSchemas := false
    noVersionSchemaForRawSql := false
    skipValidation := false
    backfill := .standard
    hooks := []
    transformer := .plain
    cancelled := false }

/-- The settings of the connections: the migrated schema comes first on the search path. -/
def connection (c : Config) : ConnectionSettings :=
  { url := c.url, maxConnections := c.maxConnections, lockTimeout := c.lockTimeout,
    role := c.role, searchPath := c.schema :: c.searchPath, backoff := c.backoff }

/-- Whether the session keeps a version schema for a migration. -/
def keepsVersionSchema (c : Config) (m : Migration) : Bool :=
  !c.disableVersionSchemas && !(c.noVersionSchemaForRawSql && m.isAllRawSql)

/-! ## Configurations for people -/

/-- The phases that have hooks, with the number of their hooks. -/
def hookCounts (c : Config) : List (HookPhase × Nat) :=
  (HookPhase.all.map fun phase => (phase, (hooksOf phase c.hooks).length)).filter fun entry =>
    entry.2 != 0

/-- A list as it is shown to people. -/
def shownList (items : List String) : String :=
  "[" ++ Sql.joined ", " items ++ "]"

/-- The configuration as it is shown to people. The address of the server is left out, for it may
hold a password. -/
def shown (c : Config) : String :=
  "RollConfig \x7b schema: " ++ Text.shown c.schema ++
    ", state_schema: " ++ Text.shown c.stateSchema ++
    ", max_connections: " ++ toString c.maxConnections ++
    ", lock_timeout: " ++ c.lockTimeout.shown ++
    ", role: " ++ (match c.role with
      | some role => "Some(" ++ Text.shown role ++ ")"
      | none => "None") ++
    ", search_path: " ++ shownList (c.searchPath.map Text.shown) ++
    ", backoff: " ++ c.backoff.shown ++
    ", disable_version_schemas: " ++ toString c.disableVersionSchemas ++
    ", no_version_schema_for_raw_sql: " ++ toString c.noVersionSchemaForRawSql ++
    ", skip_validation: " ++ toString c.skipValidation ++
    ", backfill: " ++ c.backfill.shown ++
    ", hooks: \x7b" ++ Sql.joined ", " (c.hookCounts.map fun entry =>
      entry.1.shown ++ ": " ++ toString entry.2) ++ "\x7d, .. \x7d"

end Config

end ExpandContract.Session
