import ExpandContract.Text.Printable

/-!
# Errors

Why a call did not do what it was asked for. An error is a cause with the names it is about; its
wording is given by `message` alone. Three questions are asked of errors by other parts of the
library: whether the server refused a lock, which is the one failure that is tried again; whether a
name was already taken; and whether the error is a conflict with another migration's lifecycle.
-/

set_option autoImplicit false

namespace ExpandContract

/-! ## Rejected migrations -/

/-- Why a migration is rejected before it changes anything. -/
inductive ValidationError where
  | emptyMigration (name : String)
  | tableDoesNotExist (name : String)
  | tableAlreadyExists (name : String)
  | columnDoesNotExist (table column : String)
  | columnAlreadyExists (table column : String)
  | indexDoesNotExist (name : String)
  | indexAlreadyExists (name : String)
  | noPrimaryKey (table : String)
  | fieldRequired (operation field : String)
  | notIsolated (operation : String)
  | invalidOperation (operation reason : String)
  | invalidName (name reason : String)
deriving DecidableEq, Repr

/-- The wording of a rejection. -/
def ValidationError.message : ValidationError → String
  | .emptyMigration name => "migration " ++ name ++ " has no operations"
  | .tableDoesNotExist name => "table " ++ name ++ " does not exist"
  | .tableAlreadyExists name => "table " ++ name ++ " already exists"
  | .columnDoesNotExist table column =>
      "column " ++ column ++ " does not exist on table " ++ table
  | .columnAlreadyExists table column =>
      "column " ++ column ++ " already exists on table " ++ table
  | .indexDoesNotExist name => "index " ++ name ++ " does not exist"
  | .indexAlreadyExists name => "index " ++ name ++ " already exists"
  | .noPrimaryKey table => "table " ++ table ++ " has no primary key and cannot be backfilled"
  | .fieldRequired operation field => operation ++ ": field " ++ field ++ " is required"
  | .notIsolated operation =>
      operation ++ " operations must be the only operation in a migration"
  | .invalidOperation operation reason => operation ++ ": " ++ reason
  | .invalidName name reason => "invalid name " ++ Text.shown name ++ ": " ++ reason

/-! ## Failures of the database -/

/-- What the server says when it does not carry out a statement. -/
structure ServerError where
  /-- The five characters that classify the failure. -/
  code : String
  message : String
deriving DecidableEq, Repr

/-- A column of a row: by its place, counted from zero, or by its name. -/
inductive ColumnRef where
  | place (n : Nat)
  | named (name : String)
deriving DecidableEq, Repr

/-- A column as messages show it. -/
def ColumnRef.shown : ColumnRef → String
  | .place n => toString n
  | .named name => Text.shown name

/-- Why the database gave no usable answer. -/
inductive DatabaseError where
  /-- The server refused the statement. -/
  | server (error : ServerError)
  /-- The server cannot be reached; the text says why. -/
  | unreachable (reason : String)
  /-- The answer has no row where one is needed. -/
  | noRow
  /-- A column holds no value where one is needed. -/
  | unexpectedNull (column : ColumnRef)
deriving DecidableEq, Repr

/-- The wording of a failure of the database. -/
def DatabaseError.message : DatabaseError → String
  | .server error => "error returned from database: " ++ error.message
  | .unreachable reason => "error communicating with database: " ++ reason
  | .noRow => "no rows returned by a query that expected to return at least one row"
  | .unexpectedNull column =>
      "error occurred while decoding column " ++ column.shown ++
        ": unexpected null; try decoding as an `Option`"

/-- The class of the failure, where the server gave one. -/
def DatabaseError.code? : DatabaseError → Option String
  | .server error => some error.code
  | _ => none

/-! ## Errors of the library -/

/-- Why a call failed. -/
inductive Error where
  | database (cause : DatabaseError)
  /-- The session was cancelled while the call waited, or before it began. -/
  | cancelled
  | migrationAlreadyActive (schema name : String)
  | noActiveMigration (schema : String)
  | duplicateMigration (schema name : String)
  | migrationNotFound (schema name : String)
  | validation (cause : ValidationError)
  /-- The start of a migration failed, and what it had done was undone. -/
  | startFailed (cause : Error)
  /-- The start of a migration failed, and so did the attempt to undo what it had done. -/
  | startNotUndone (cause rollback : Error)
  | backfill (table reason : String)
  | mismatchedMigration (localName remoteName : String)
  | hook (phase reason : String)
  | transform (reason : String)
  | invalidIdentifier (name reason : String)
  | stateCorrupted (reason : String)
  /-- A value could not be read from JSON. -/
  | serialization
deriving DecidableEq, Repr, Inhabited

namespace Error

/-- The wording of an error. -/
def message : Error → String
  | .database cause => "database error: " ++ cause.message
  | .cancelled => "operation cancelled"
  | .migrationAlreadyActive schema name =>
      "a migration is already in progress on schema " ++ schema ++ ": " ++ name
  | .noActiveMigration schema => "no active migration on schema " ++ schema
  | .duplicateMigration schema name =>
      "migration " ++ name ++ " already exists in schema " ++ schema
  | .migrationNotFound schema name => "migration " ++ name ++ " not found in schema " ++ schema
  | .validation cause => "validation failed: " ++ cause.message
  | .startFailed cause => "migration start failed: " ++ cause.message
  | .startNotUndone cause rollback =>
      "migration start failed: " ++ cause.message ++
        " (rollback also failed: " ++ rollback.message ++ ")"
  | .backfill table reason => "backfill failed for table " ++ table ++ ": " ++ reason
  | .mismatchedMigration localName remoteName =>
      "local migration " ++ localName ++ " does not match applied migration " ++ remoteName
  | .hook phase reason => phase ++ " hook failed: " ++ reason
  | .transform reason => "sql transform failed: " ++ reason
  | .invalidIdentifier name reason =>
      "invalid identifier " ++ Text.shown name ++ ": " ++ reason
  | .stateCorrupted reason => "migration state corrupted: " ++ reason
  | .serialization => "serialization error"

/-- The class the server gives to a lock that was not to be had in time. -/
def refusedLockCode : String := "55P03"

/-- The class the server gives to a row whose key is taken. -/
def takenKeyCode : String := "23505"

/-- Whether the server refused a lock. -/
def isRefusedLock : Error → Bool
  | .database cause => cause.code? == some refusedLockCode
  | _ => false

/-- Whether the server refused a row because its key is taken. -/
def isTakenKey : Error → Bool
  | .database cause => cause.code? == some takenKeyCode
  | _ => false

/-- Whether the error is a conflict with another migration's lifecycle. -/
def isConflict : Error → Bool
  | .migrationAlreadyActive _ _ => true
  | .noActiveMigration _ => true
  | .duplicateMigration _ _ => true
  | _ => false

end Error

end ExpandContract
