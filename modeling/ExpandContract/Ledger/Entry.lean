import ExpandContract.Error
import ExpandContract.Json.Basic
import ExpandContract.Migration.Basic
import ExpandContract.Text.Printable

/-!
# What the ledger records

The ledger is the history of a schema: one entry for each migration, for each change that another
program made, and for the point at which the history of a schema that is older than its ledger
begins. Each entry names the one before it.

A project keeps its migrations as a list of its own. It agrees with the history when one of the two
is the beginning of the other, by name (`compare`). Of the history only the entries count that this
library issued: what other programs changed, and where the history begins, has no local counterpart.
-/

set_option autoImplicit false

namespace ExpandContract.Ledger

/-! ## Entries -/

/-- How an entry came to be. -/
inductive EntryKind where
  /-- A migration of this library. -/
  | issued
  /-- A change that another program made, and that was recorded when it was made. -/
  | inferred
  /-- The beginning of the history of a schema that is older than its ledger. -/
  | baseline
deriving DecidableEq, Repr

namespace EntryKind

/-- The word by which the ledger tells the kind. -/
def word : EntryKind → String
  | .issued => "pgroll"
  | .inferred => "inferred"
  | .baseline => "baseline"

/-- The kind that a word tells. -/
def ofWord? : String → Option EntryKind
  | "pgroll" => some .issued
  | "inferred" => some .inferred
  | "baseline" => some .baseline
  | _ => none

/-- Reads the word of an entry; the ledger holds no other words. -/
def read (word : String) : Except Error EntryKind :=
  match ofWord? word with
  | some kind => .ok kind
  | none => .error (.stateCorrupted ("unknown migration type " ++ Text.shown word))

/-- Reads the kind from JSON: the word, or an object whose only member is the word with null. -/
def ofJson? : Json → Option EntryKind
  | .string word => ofWord? word
  | .object [(word, .null)] => ofWord? word
  | _ => none

end EntryKind

/-- An entry of the history. -/
structure Entry where
  schema : String
  name : String
  migration : Migration
  /-- The name of the entry before this one. -/
  parent : Option String
  done : Bool
  kind : EntryKind
  /-- When it was recorded, in microseconds since 1970. -/
  createdAt : Int
  /-- When it was last changed, in microseconds since 1970. -/
  updatedAt : Int
deriving DecidableEq, Repr

/-! ## Status -/

/-- How far a schema is. -/
inductive Stage where
  | untouched
  | inProgress
  | complete
deriving DecidableEq, Repr

/-- The word for a stage. -/
def Stage.word : Stage → String
  | .untouched => "None"
  | .inProgress => "InProgress"
  | .complete => "Complete"

/-- The stage as it is shown to people. -/
def Stage.shown : Stage → String
  | .untouched => "No migrations"
  | .inProgress => "In progress"
  | .complete => "Complete"

/-- The latest version of a schema and how far it is. -/
structure Status where
  schema : String
  version : Option String
  stage : Stage
deriving DecidableEq, Repr

/-- The status that follows from the latest version and from whether a migration is active. -/
def Status.ofParts (schema : String) (version : Option String) (active : Bool) : Status :=
  { schema, version
    stage := match version, active with
      | none, _ => .untouched
      | some _, true => .inProgress
      | some _, false => .complete }

/-! ## Local migrations -/

/-- The entries that have a local counterpart. -/
def issuedEntries (history : List Entry) : List Entry :=
  history.filter fun entry => entry.kind == .issued

/-- The names at the first place where the two lists disagree. -/
def mismatch? : List Migration → List Entry → Option (String × String)
  | m :: others, entry :: rest =>
      if m.name = entry.name then mismatch? others rest else some (m.name, entry.name)
  | _, _ => none

/-- The local migrations that were not applied, and the applied ones that are missing locally. -/
def compare (localMigrations : List Migration) (history : List Entry) :
    Except Error (List Migration × List Entry) :=
  let applied := issuedEntries history
  match mismatch? localMigrations applied with
  | some (localName, remoteName) => .error (.mismatchedMigration localName remoteName)
  | none =>
      let common := min localMigrations.length applied.length
      .ok (localMigrations.drop common, applied.drop common)

end ExpandContract.Ledger
