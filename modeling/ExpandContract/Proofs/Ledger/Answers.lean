import ExpandContract.Ledger.Calls
import ExpandContract.Proofs.Json.RoundTrip
import ExpandContract.Proofs.Ledger.Requests
import ExpandContract.Proofs.Session.Accepted

/-!
# What calls to the ledger give

`reporting` is a server whose ledger always says the same: no migration is in progress, a start can
be recorded, the schema is as a given snapshot shows it, and the active migration is a given one.
With it the calls of the ledger come to their values, because what was written as JSON is read back
as it was.
-/

set_option autoImplicit false

namespace ExpandContract.Session

open Ledger (Query)
open Procedure

/-- An answer of one row. -/
def Answer.ofRow (row : Row) : Answer :=
  { rows := [row], affected := 1 }

/-- An answer without rows. -/
def Answer.none : Answer :=
  { rows := [], affected := 0 }

/-- What the ledger says about a snapshot and the active migration. -/
def reportOf (schema : Schema) (m : Migration) : Query → Answer
  | .isActive _ => .ofRow [some (.bool false)]
  | .activeMigration _ => .ofRow [some m.toJson]
  | .insertMigration _ _ _ => .ofRow [Option.none]
  | .erase _ name => .ofRow [some (.string name)]
  | .readSchema _ => .ofRow [some schema.toJson]
  | _ => .none

/-- A server that reports a snapshot and an active migration, replies to changes in a given way, and
has no rows for anything else. -/
def reporting (schema : Schema) (m : Migration)
    (changes : Sql.Change → Except ServerError Answer) : Request → Except ServerError Answer
  | .ledger _ query => .ok (reportOf schema m query)
  | .change statement => changes statement
  | _ => .ok .none

/-- Such a server that refuses to create tables, and accepts any other change. -/
def refusingTables (schema : Schema) (m : Migration) : Request → Except ServerError Answer :=
  reporting schema m fun
    | .createTable _ _ _ _ _ _ => .error { code := "42501", message := "permission denied" }
    | _ => .ok .none

theorem accepting_reporting (schema : Schema) (m : Migration) :
    Accepting (.answering (reporting schema m fun _ => .ok .none)) where
  patient := Nat.one_ne_zero
  accepts _ _ := ⟨rfl, .none, rfl⟩

end ExpandContract.Session

namespace ExpandContract.Ledger

open Session Procedure

variable {l : Ledger} {schema : Schema} {m : Migration} {name : String}
  {changes : Sql.Change → Except ServerError Answer}

/-- What is read from a row that holds a migration. -/
theorem migrationOfRow_toJson : migrationOfRow [some m.toJson] = .ok m := by
  have read : readMigration m.toJson = .ok m := by
    rw [readMigration, m.ofJson?_toJson]
  exact read

theorem readSnapshot_toJson : readSnapshot schema.toJson = .ok schema := by
  rw [readSnapshot, schema.ofJson?_toJson]

/-- A query yields the first row of what the ledger says. -/
theorem yields_query (query : Query) :
    (fetch? (l.request query)).Yields (.answering (reporting schema m changes))
      [.request (l.request query)] (reportOf schema m query).rows.head? :=
  yields_fetch? Nat.one_ne_zero (replies_answering _ (l.request query))

theorem yields_isActive :
    (l.isActive name).Yields (.answering (reporting schema m changes))
      [.request (l.request (.isActive name))] false :=
  (yields_query _).bind_yields (.done ⟨rfl, rfl⟩)

theorem yields_activeMigration :
    (l.activeMigration name).Yields (.answering (reporting schema m changes))
      [.request (l.request (.activeMigration name))] m :=
  (yields_query _).bind_yields (.ofExcept ⟨rfl, migrationOfRow_toJson⟩)

theorem yields_previousVersion {includeInferred : Bool} :
    (l.previousVersion name includeInferred).Yields (.answering (reporting schema m changes))
      [.request (l.request (.previousVersion name includeInferred))] none :=
  (yields_query _).bind_yields (.done ⟨rfl, rfl⟩)

theorem yields_readSchema :
    (l.readSchema name).Yields (.answering (reporting schema m changes))
      [.request (l.request (.readSchema name))] schema :=
  (yields_query _).bind_yields (.ofExcept ⟨rfl, readSnapshot_toJson⟩)

theorem yields_rollback {migration : String} :
    (l.rollback name migration).Yields (.answering (reporting schema m changes))
      [.request (l.request (.erase name migration))] () :=
  (yields_query _).bind_yields (.done ⟨rfl, rfl⟩)

/-- A server that answers a query with one migration tells no other one. -/
theorem eq_of_told_answering {query : Query} {told : Migration}
    {answer : Request → Except ServerError Answer} {events : List Event}
    (answers : answer (l.request query) = .ok (.ofRow [some m.toJson]))
    (tells : l.Told query told (Server.notes (.answering answer) () events)) : told = m := by
  obtain ⟨reply, row, rest, rows, read, asked⟩ := tells
  cases (eq_of_asked_answering asked).trans answers
  cases rows
  exact Except.ok.inj (read.symm.trans migrationOfRow_toJson)

theorem eq_of_tells_reporting {active : Migration} {events : List Event}
    (tells : l.Tells name active
      (Server.notes (.answering (reporting schema m changes)) () events)) : active = m :=
  eq_of_told_answering rfl tells

/-- A start is recorded, and a fresh snapshot is taken. -/
theorem yields_start {started : Migration} :
    (l.start name started).Yields (.answering (reporting schema m changes))
      [.request (l.request (.insertMigration name started.name started.toJson)),
        .request (l.request (.readSchema name))] schema := by
  have recorded : (l.insertMigration name started).Yields
      (.answering (reporting schema m changes))
      [.request (l.request (.insertMigration name started.name started.toJson))] [none] := by
    refine Ends.bind (yields_query _).attempt ?_ ?_
    · rintro _ _ ⟨_, ⟨⟩, rfl, rfl⟩
      exact .done ⟨rfl, rfl⟩
    · rintro _ _ ⟨_, impossible, _⟩
      cases impossible
  refine recorded.bind_yields (yields_readSchema.mono ?_)
  rintro _ _ ⟨rfl, rfl⟩
  exact ⟨rfl, rfl⟩

end ExpandContract.Ledger
