import ExpandContract.Proofs.Ledger.Standing
import ExpandContract.Proofs.Lifecycle.Orderly
import ExpandContract.Proofs.Lifecycle.Predecessor
import ExpandContract.Proofs.Session.Turning
import Mathlib.Logic.Function.Basic

/-!
# A server that keeps books

Two things count for which versions of a schema are served: the list of the recorded migrations, and
the version schemas that are there. A server keeps such books (`Bookkeeping`) if it answers the
queries to the ledger as the list dictates, accepts every change, and makes and drops version
schemas when it is told to. It refuses to record a name that is recorded already.

What each call to such a server is answered, and what it makes of the books, is said here once, and
nothing else is asked of the server afterwards.
-/

set_option autoImplicit false

namespace ExpandContract

open Session Procedure Sql

/-! ## Books -/

/-- The migrations of a schema that are recorded, and the version schemas that there are. -/
structure Books where
  /-- The migrations that are complete, the oldest first. -/
  completed : List Migration
  /-- The migration in progress. -/
  active : Option Migration
  /-- Whether there is a version schema, by the name that the server keeps. -/
  served : String → Bool

namespace Books

/-- The books of a schema without migrations. -/
def empty : Books :=
  { completed := [], active := none, served := fun _ => false }

/-- The recorded migrations, the oldest first. -/
def recorded (b : Books) : List Migration :=
  b.completed ++ b.active.toList

/-- The migration that was recorded before the latest one. -/
def previous (b : Books) : Option Migration :=
  b.recorded.dropLast.getLast?

/-- The books with a migration in progress. -/
def withActive (b : Books) (m : Migration) : Books :=
  { b with active := some m }

/-- The books when the migration in progress is complete. -/
def finish (b : Books) (m : Migration) : Books :=
  { b with completed := b.completed ++ [m], active := none }

/-- The books when the migration in progress is erased. -/
def erase (b : Books) : Books :=
  { b with active := none }

/-- The books with a version schema, or without it. -/
def withVersion (b : Books) (name : String) (there : Bool) : Books :=
  { b with served := Function.update b.served name there }

/-- What a change makes of the books; `kept` is the name that the server keeps for a schema. -/
def after (b : Books) (kept : String → String) : Change → Books
  | .makeVersionSchema version => b.withVersion (kept version.name) true
  | .dropVersionSchema name => b.withVersion (kept name) false
  | _ => b

variable {b : Books} {m : Migration} {name : String} {there : Bool}

theorem after_of_none {kept : String → String} {statement : Change}
    (spares : statement.versionStep? = none) : b.after kept statement = b := by
  cases statement with
  | makeVersionSchema version => cases spares
  | dropVersionSchema name => cases spares
  | _ => rfl

/-- While a migration is in progress, the one before it is the latest that is complete. -/
theorem previous_of_active (active : b.active = some m) :
    b.previous = b.completed.getLast? := by
  unfold previous recorded
  rw [active]
  exact congrArg List.getLast? List.dropLast_concat

@[simp]
theorem withVersion_completed : (b.withVersion name there).completed = b.completed := rfl

@[simp]
theorem withVersion_active : (b.withVersion name there).active = b.active := rfl

@[simp]
theorem withVersion_served :
    (b.withVersion name there).served = Function.update b.served name there := rfl

/-- A version schema that is there already may as well be made. -/
theorem withVersion_eq_self (same : b.served name = there) : b.withVersion name there = b := by
  unfold withVersion
  rw [← same, Function.update_eq_self]

theorem erase_withActive (free : b.active = none) : (b.withActive m).erase = b := by
  unfold withActive erase
  rw [← free]

end Books

/-! ## Keeping books -/

/-- What the answer to a recorded start tells of the entry before. -/
def Ledger.parentIn (answer : Answer) : Except Error (Option String) :=
  match answer.rows with
  | [] => .error (.stateCorrupted "insert into migrations returned no row")
  | row :: _ => row.value? 0 (.named "parent") Json.string?

open Ledger in
/-- The server answers as its books dictate, and keeps them when it is told to change something. -/
structure Bookkeeping {σ : Type} (server : Server σ) (l : Ledger) (schema : String)
    (kept : String → String) (books : σ → Books) : Prop where
  steady : server.Steady
  /-- Only changes, and queries that write the ledger, write the books. -/
  leaves : ∀ state request, SparesLedger request → (∀ statement, request ≠ .change statement) →
    books (server state request).2 = books state
  accepts : ∀ state statement,
    server.Accepts books state statement ((books state).after kept statement)
  isActive : ∀ state, server.Answers books state (l.request (.isActive schema)) flagIn
    (.ok (books state).active.isSome) (books state)
  activeMigration : ∀ state, server.Answers books state (l.request (.activeMigration schema))
    (migrationIn (.noActiveMigration schema))
    ((books state).active.elim (.error (.noActiveMigration schema)) .ok) (books state)
  migrationNamed : ∀ state name m, (books state).recorded.find? (·.name = name) = some m →
    server.Answers books state (l.request (.migrationNamed schema name))
      (migrationIn (.migrationNotFound schema name)) (.ok m) (books state)
  previousVersion : ∀ state, server.Answers books state
    (l.request (.previousVersion schema false)) nameIn
    (.ok ((books state).previous.map (·.name))) (books state)
  readSchema : ∀ state, ∃ snapshot, server.Answers books state (l.request (.readSchema schema))
    snapshotIn (.ok snapshot) (books state)
  recordedSnapshot : ∀ state name, ∃ snapshot, server.Answers books state
    (l.request (.recordedSnapshot schema name)) recordedIn (.ok snapshot) (books state)
  /-- Where the server affirms that there is a schema, there is one. -/
  hasSchema : ∀ state name, ∃ there, server.Answers books state (.hasSchema name) existsIn
    (.ok there) (books state) ∧ (there = true → (books state).served (kept name) = true)
  /-- A start is recorded where no migration is in progress and the name is new. -/
  records : ∀ state m, (books state).active = none →
    (∀ other ∈ (books state).completed, other.name ≠ m.name) →
      ∃ parent, server.Answers books state (l.insertion schema m) parentIn (.ok parent)
        ((books state).withActive m)
  refuses : ∀ state m, (∃ other ∈ (books state).completed, other.name = m.name) →
    ∃ cause, (server state (l.insertion schema m)).1.outcome = .error cause ∧
      cause.code = Error.takenKeyCode ∧ books (server state (l.insertion schema m)).2 = books state
  markDone : ∀ state m, (books state).active = some m →
    server.Answers books state (l.request (.markDone schema m.name))
      (foundIn (.noActiveMigration schema)) (.ok ()) ((books state).finish m)
  erase : ∀ state m, (books state).active = some m →
    server.Answers books state (l.request (.erase schema m.name))
      (foundIn (.noActiveMigration schema)) (.ok ()) (books state).erase

namespace Bookkeeping

variable {σ : Type} {runner : Runner σ} {l : Ledger} {schema : String} {kept : String → String}
  {books : σ → Books} {b : Books} {m : Migration} {name : String}
  (keeps : Bookkeeping runner.server l schema kept books)
include keeps

/-! ## Requests that leave the books alone -/

/-- A procedure that neither writes the ledger nor makes or drops a version schema leaves the books
as they are. -/
theorem turns_of_spares {α : Type} {p : Procedure α} (unwritten : p.AsksOnly SparesLedger)
    (spares : p.AsksOnly SparesVersions) (orderly : p.Orderly) :
    p.Turns runner books b fun _ next => next = b := by
  have both : p.AsksOnly fun request => SparesLedger request ∧ SparesVersions request :=
    fun notes result dialogue request reply member =>
      ⟨unwritten notes result dialogue request reply member,
        spares notes result dialogue request reply member⟩
  refine .of_asksOnly keeps.steady ?_ both orderly
  rintro state request ⟨unwritten, spares⟩
  cases request with
  | change statement =>
      obtain ⟨_, _, left⟩ := keeps.accepts state statement
      rw [left, Books.after_of_none (spares statement rfl)]
  | _ => exact keeps.leaves state _ unwritten (by rintro _ ⟨⟩)

theorem turns_change {statement : Change} :
    (Procedure.change statement).Turns runner books b fun outcome next =>
      outcome = .ok () ∧ next = b.after kept statement := by
  refine .change keeps.steady ?_
  rintro state rfl
  exact keeps.accepts state statement

/-! ## Calls to the ledger -/

theorem turns_isActive :
    (l.isActive schema).Turns runner books b fun outcome next =>
      outcome = .ok b.active.isSome ∧ next = b := by
  rw [Ledger.isActive_eq]
  refine .ask keeps.steady ?_
  rintro state rfl
  exact ⟨_, _, keeps.isActive state, rfl, rfl⟩

theorem turns_activeMigration :
    (l.activeMigration schema).Turns runner books b fun outcome next =>
      outcome = b.active.elim (.error (.noActiveMigration schema)) .ok ∧ next = b := by
  rw [Ledger.activeMigration_eq]
  refine .ask keeps.steady ?_
  rintro state rfl
  exact ⟨_, _, keeps.activeMigration state, rfl, rfl⟩

theorem turns_migrationNamed (found : b.recorded.find? (·.name = name) = some m) :
    (l.migrationNamed schema name).Turns runner books b fun outcome next =>
      outcome = .ok m ∧ next = b := by
  rw [Ledger.migrationNamed_eq]
  refine .ask keeps.steady ?_
  rintro state rfl
  exact ⟨_, _, keeps.migrationNamed state name m found, rfl, rfl⟩

theorem turns_previousVersion :
    (l.previousVersion schema false).Turns runner books b fun outcome next =>
      outcome = .ok (b.previous.map (·.name)) ∧ next = b := by
  rw [Ledger.previousVersion_eq]
  refine .ask keeps.steady ?_
  rintro state rfl
  exact ⟨_, _, keeps.previousVersion state, rfl, rfl⟩

theorem turns_readSchema :
    (l.readSchema schema).Turns runner books b fun outcome next =>
      (∃ snapshot, outcome = .ok snapshot) ∧ next = b := by
  rw [Ledger.readSchema_eq]
  refine .ask keeps.steady ?_
  rintro state rfl
  obtain ⟨snapshot, answers⟩ := keeps.readSchema state
  exact ⟨_, _, answers, ⟨snapshot, rfl⟩, rfl⟩

theorem turns_recordedSnapshot :
    (l.recordedSnapshot schema name).Turns runner books b fun outcome next =>
      (∃ snapshot, outcome = .ok snapshot) ∧ next = b := by
  rw [Ledger.recordedSnapshot_eq]
  refine .ask keeps.steady ?_
  rintro state rfl
  obtain ⟨snapshot, answers⟩ := keeps.recordedSnapshot state name
  exact ⟨_, _, answers, ⟨snapshot, rfl⟩, rfl⟩

theorem turns_hasSchema :
    (MigrationSession.hasSchema name).Turns runner books b fun outcome next =>
      (∃ there, outcome = .ok there ∧ (there = true → b.served (kept name) = true)) ∧
        next = b := by
  rw [MigrationSession.hasSchema_eq]
  refine .ask keeps.steady ?_
  rintro state rfl
  obtain ⟨there, answers, truthful⟩ := keeps.hasSchema state name
  exact ⟨_, _, answers, ⟨there, rfl, truthful⟩, rfl⟩

theorem turns_complete (active : b.active = some m) :
    (l.complete schema m.name).Turns runner books b fun outcome next =>
      outcome = .ok () ∧ next = b.finish m := by
  rw [Ledger.complete_eq]
  refine .ask keeps.steady ?_
  rintro state rfl
  exact ⟨_, _, keeps.markDone state m active, rfl, rfl⟩

theorem turns_rollback (active : b.active = some m) :
    (l.rollback schema m.name).Turns runner books b fun outcome next =>
      outcome = .ok () ∧ next = b.erase := by
  rw [Ledger.rollback_eq]
  refine .ask keeps.steady ?_
  rintro state rfl
  exact ⟨_, _, keeps.erase state m active, rfl, rfl⟩

/-! ## Recording a start -/

/-- What a start does once it is recorded succeeds. -/
theorem turns_snapshotAfter {row : Row} {parent : Option String}
    (read : row.value? 0 (.named "parent") Json.string? = .ok parent) :
    (l.snapshotAfter schema row).Turns runner books b fun outcome next =>
      (∃ snapshot, outcome = .ok snapshot) ∧ next = b := by
  unfold Ledger.snapshotAfter
  rw [read]
  cases parent with
  | none => exact keeps.turns_readSchema
  | some parent =>
      change ((l.recordedSnapshot schema parent).bind _).Turns runner books b _
      refine .bind keeps.turns_recordedSnapshot ?_ ?_
      · rintro snapshot _ ⟨_, rfl⟩
        cases snapshot with
        | none => exact keeps.turns_readSchema
        | some snapshot => exact .done ⟨⟨snapshot, rfl⟩, rfl⟩
      · rintro _ _ ⟨⟨_, impossible⟩, _⟩
        cases impossible

/-- The start of a migration with a new name is recorded. -/
theorem turns_start (free : b.active = none)
    (fresh : ∀ other ∈ b.completed, other.name ≠ m.name) :
    (l.start schema m).Turns runner books b fun outcome next =>
      (∃ snapshot, outcome = .ok snapshot) ∧ next = b.withActive m := by
  have inserted : (l.insertMigration schema m).Turns runner books b fun outcome next =>
      (∃ row parent, outcome = .ok row ∧
        row.value? 0 (.named "parent") Json.string? = .ok parent) ∧ next = b.withActive m := by
    have fetched : (fetch? (l.insertion schema m)).Turns runner books b fun outcome next =>
        (∃ row parent, outcome = .ok (some row) ∧
          row.value? 0 (.named "parent") Json.string? = .ok parent) ∧ next = b.withActive m := by
      refine .send keeps.steady ?_
      rintro state rfl reply replied
      obtain ⟨parent, answer, answered, read, left⟩ := keeps.records state m free fresh
      cases answered.symm.trans replied
      refine ⟨nofun, ?_, left⟩
      unfold Ledger.parentIn at read
      rcases rows : answer.rows with _ | ⟨row, others⟩
      · rw [rows] at read
        cases read
      · rw [rows] at read
        exact ⟨row, parent, congrArg Except.ok (congrArg List.head? rows), read⟩
    refine .attempt_bind fetched ?_
    rintro _ _ ⟨⟨row, parent, rfl, read⟩, rfl⟩
    exact .done ⟨⟨row, parent, rfl, read⟩, rfl⟩
  rw [Ledger.start_eq]
  refine .bind inserted ?_ ?_
  · rintro _ _ ⟨⟨row, parent, ⟨⟩, read⟩, rfl⟩
    exact keeps.turns_snapshotAfter read
  · rintro _ _ ⟨⟨_, _, ⟨⟩, _⟩, _⟩

/-- The start of a migration with a recorded name is refused, and leaves the books as they are. -/
theorem turns_start_of_taken (free : b.active = none)
    (taken : ∃ other ∈ b.completed, other.name = m.name) :
    (l.start schema m).Turns runner books b fun outcome next =>
      (∃ error, outcome = .error error) ∧ next = b := by
  have conflict : (l.conflictOf schema m.name).Turns runner books b fun _ next => next = b := by
    refine .attempt_bind keeps.turns_activeMigration ?_
    rintro _ _ ⟨rfl, rfl⟩
    rw [free]
    exact .done rfl
  have fetched : (fetch? (l.insertion schema m)).Turns runner books b fun outcome next =>
      (∃ error, outcome = .error error ∧ error.isTakenKey = true) ∧ next = b := by
    refine .send keeps.steady ?_
    rintro state rfl reply replied
    obtain ⟨cause, refused, code, left⟩ := keeps.refuses state m taken
    cases refused.symm.trans replied
    refine ⟨?_, ⟨_, rfl, beq_iff_eq.mpr (congrArg some code)⟩, left⟩
    rintro _ ⟨⟩ locked
    exact absurd (code.symm.trans locked) (by decide)
  have inserted : (l.insertMigration schema m).Turns runner books b fun outcome next =>
      (∃ error, outcome = .error error) ∧ next = b := by
    refine .attempt_bind fetched ?_
    rintro _ _ ⟨⟨error, rfl, isTaken⟩, rfl⟩
    simp only [if_pos isTaken]
    refine .bind conflict ?_ ?_
    · rintro error _ rfl
      exact .fail ⟨⟨error, rfl⟩, rfl⟩
    · rintro error _ rfl
      exact ⟨⟨error, rfl⟩, rfl⟩
  rw [Ledger.start_eq]
  refine .bind inserted ?_ ?_
  · rintro _ _ ⟨⟨_, ⟨⟩⟩, _⟩
  · rintro _ _ ⟨⟨error, _⟩, left⟩
    exact ⟨⟨_, rfl⟩, left⟩

end Bookkeeping

/-! ## A bookkeeper -/

open Ledger in
/-- What the bookkeeper answers to a query, and its books afterwards. -/
def Books.reply (b : Books) : Query → Except ServerError Answer × Books
  | .isActive _ => (.ok (.ofRow [some (.bool b.active.isSome)]), b)
  | .activeMigration _ =>
      (.ok (b.active.elim .none fun m => .ofRow [some m.toJson]), b)
  | .migrationNamed _ name =>
      (.ok ((b.recorded.find? (·.name = name)).elim .none fun m => .ofRow [some m.toJson]), b)
  | .previousVersion _ _ => (.ok (.ofRow [b.previous.map fun m => .string m.name]), b)
  | .insertMigration _ name definition =>
      if b.recorded.any (·.name = name) then
        (.error { code := Error.takenKeyCode, message := "duplicate key value" }, b)
      else (.ok (.ofRow [none]), (Migration.ofJson? definition).elim b b.withActive)
  | .markDone _ name =>
      match b.active.filter (·.name = name) with
      | some m => (.ok (.ofRow [some (.string name)]), b.finish m)
      | none => (.ok .none, b)
  | .erase _ name =>
      match b.active.filter (·.name = name) with
      | some _ => (.ok (.ofRow [some (.string name)]), b.erase)
      | none => (.ok .none, b)
  | .readSchema schema => (.ok (.ofRow [some (Schema.ofName schema).toJson]), b)
  | _ => (.ok .none, b)

section Replies

variable {b : Books} {m : Migration} (schema : String)

theorem Books.reply_insertMigration_of_fresh (free : b.active = none)
    (fresh : ∀ other ∈ b.completed, other.name ≠ m.name) :
    b.reply (.insertMigration schema m.name m.toJson) = (.ok (.ofRow [none]), b.withActive m) := by
  have unique : b.recorded.any (·.name = m.name) = false := by
    refine List.any_eq_false.mpr fun other member same => ?_
    rw [recorded, free] at member
    exact fresh other (by simpa using member) (of_decide_eq_true same)
  rw [reply, unique, m.ofJson?_toJson]
  rfl

theorem Books.reply_insertMigration_of_taken {name : String} (definition : Json)
    (taken : ∃ other ∈ b.completed, other.name = name) :
    b.reply (.insertMigration schema name definition) =
      (.error { code := Error.takenKeyCode, message := "duplicate key value" }, b) := by
  have known : b.recorded.any (·.name = name) = true := by
    obtain ⟨other, member, same⟩ := taken
    exact List.any_eq_true.mpr ⟨other, List.mem_append_left _ member, decide_eq_true same⟩
  rw [reply, known]
  rfl

theorem Books.reply_markDone (active : b.active = some m) :
    b.reply (.markDone schema m.name) = (.ok (.ofRow [some (.string m.name)]), b.finish m) := by
  rw [reply, active, Option.filter_some, if_pos (decide_eq_true rfl)]

theorem Books.reply_erase (active : b.active = some m) :
    b.reply (.erase schema m.name) = (.ok (.ofRow [some (.string m.name)]), b.erase) := by
  rw [reply, active, Option.filter_some, if_pos (decide_eq_true rfl)]

end Replies

/-- A server whose state are its books. It keeps every name as it is, and it cancels the session
while it works on some requests. -/
def bookkeeper (cancels : Request → Bool) : Server Books := fun b request =>
  let answered : Except ServerError Answer × Books := match request with
    | .ledger _ query => b.reply query
    | .hasSchema name => (.ok (.ofRow [some (.bool (b.served name))]), b)
    | .change statement => (.ok .none, b.after id statement)
    | _ => (.ok .none, b)
  ({ cancels := cancels request, outcome := answered.1 }, answered.2)

theorem keeps_bookkeeper (l : Ledger) (schema : String) :
    Bookkeeping (bookkeeper fun _ => false) l schema id id where
  steady _ _ := rfl
  leaves b request unwritten unchanging := by
    cases request with
    | ledger stateSchema query =>
        cases query with
        | insertMigration => exact absurd ⟨_, _, rfl, rfl⟩ unwritten
        | markDone => exact absurd ⟨_, _, rfl, rfl⟩ unwritten
        | erase => exact absurd ⟨_, _, rfl, rfl⟩ unwritten
        | _ => rfl
    | change statement => exact absurd rfl (unchanging statement)
    | _ => rfl
  accepts b statement := ⟨_, rfl, rfl⟩
  isActive b := ⟨_, rfl, rfl, rfl⟩
  activeMigration b := by
    refine ⟨_, rfl, ?_, rfl⟩
    change Ledger.migrationIn _ (b.active.elim Answer.none fun m => Answer.ofRow [some m.toJson]) =
      b.active.elim _ Except.ok
    cases b.active with
    | none => rfl
    | some m => exact Ledger.migrationOfRow_toJson
  migrationNamed b name m found := by
    refine ⟨_, rfl, ?_, rfl⟩
    change Ledger.migrationIn _ ((b.recorded.find? (·.name = name)).elim Answer.none
      fun m => Answer.ofRow [some m.toJson]) = .ok m
    rw [show b.recorded.find? (·.name = name) = some m from found]
    exact Ledger.migrationOfRow_toJson
  previousVersion b := by
    refine ⟨_, rfl, ?_, rfl⟩
    change Ledger.nameIn (Answer.ofRow [b.previous.map fun m => .string m.name]) =
      .ok (b.previous.map (·.name))
    cases b.previous <;> rfl
  readSchema b := by
    refine ⟨Schema.ofName schema, _, rfl, ?_, rfl⟩
    change Ledger.readSnapshot (Schema.ofName schema).toJson = .ok (Schema.ofName schema)
    exact Ledger.readSnapshot_toJson
  recordedSnapshot b name := ⟨none, _, rfl, rfl, rfl⟩
  hasSchema b name := ⟨b.served name, ⟨_, rfl, rfl, rfl⟩, id⟩
  records _ m free fresh := by
    have replied := Books.reply_insertMigration_of_fresh schema free fresh
    exact ⟨none, _, congrArg Prod.fst replied, rfl, congrArg Prod.snd replied⟩
  refuses _ m taken := by
    have replied := Books.reply_insertMigration_of_taken schema m.toJson taken
    exact ⟨_, congrArg Prod.fst replied, rfl, congrArg Prod.snd replied⟩
  markDone _ m active := by
    have replied := Books.reply_markDone schema active
    exact ⟨_, congrArg Prod.fst replied, rfl, congrArg Prod.snd replied⟩
  erase _ m active := by
    have replied := Books.reply_erase schema active
    exact ⟨_, congrArg Prod.fst replied, rfl, congrArg Prod.snd replied⟩

end ExpandContract
