import ExpandContract.Proofs.Lifecycle.Requests
import ExpandContract.Proofs.Migration.Checks

/-!
# The courses of a start

A start first asks the ledger, and records the migration there. What can happen afterwards is one of
a few courses (`FailsAfterRecord`): the snapshot cannot be read, the migration turns out to be
invalid, or the expansion or a backfill fails and is undone by a rollback. This module takes the
dialogues of a start apart into these courses. What holds after a failed start is then shown for
each of them.
-/

set_option autoImplicit false

namespace ExpandContract

open Session Procedure Sql

/-- The error of a start that failed for a cause and was rolled back with an outcome. -/
def Error.ofUndoing (cause : Error) : Except Error Unit → Error
  | .ok () => .startFailed cause
  | .error rollback => .startNotUndone cause rollback

/-- The error of a start whose migration was invalid and was erased with an outcome. -/
def Error.ofRejection (cause : ValidationError) : Except Error Unit → Error
  | .ok () => .validation cause
  | .error rollback => .startNotUndone (.validation cause) rollback

namespace MigrationSession

variable {s : MigrationSession} {m : Migration}

/-! ## After the record -/

/-- How a start fails once the migration is recorded, with the notes since then. -/
inductive FailsAfterRecord (s : MigrationSession) (m : Migration) : List Note → Error → Prop where
  /-- The snapshot cannot be read, and nothing is done about the entry. -/
  | unread {reads : List Note} {error : Error}
      (asks : AskedOnly (s.ledger.ReadsSnapshot s.schema) reads)
      (untold : error.tellsOfUndoing = false) : FailsAfterRecord s m reads error
  /-- The migration is invalid, and its entry is to be erased. -/
  | rejected {reads erasing : List Note} {cause : ValidationError} {outcome : Except Error Unit}
      (asks : AskedOnly (s.ledger.ReadsSnapshot s.schema) reads)
      (erases : (s.ledger.rollback s.schema m.name).Dialogue erasing outcome) :
      FailsAfterRecord s m (reads ++ erasing) (.ofRejection cause outcome)
  /-- The changes or a backfill fail, and the migration is to be rolled back. -/
  | undone {forward back : List Note} {cause : Error} {outcome : Except Error Unit}
      (asks : AskedOnly (s.ExpandRequest m) forward)
      (undoes : s.rollback.Dialogue back outcome) :
      FailsAfterRecord s m (forward ++ back) (.ofUndoing cause outcome)

/-- How a start goes on once the migration is recorded: it fails, or all that it asked for belongs
to the expansion. -/
inductive GoesOn (s : MigrationSession) (m : Migration) {α : Type} :
    List Note → Except Error α → Prop where
  | fails {notes : List Note} {error : Error} (course : s.FailsAfterRecord m notes error) :
      GoesOn s m notes (.error error)
  | succeeds {notes : List Note} {value : α}
      (asks : AskedOnly (s.ExpandRequest m) notes) :
      GoesOn s m notes (.ok value)

/-- How a start goes: it fails without a record, having asked nothing but the ledger, or it goes on
from the record. -/
inductive StartCourse (s : MigrationSession) (m : Migration) {α : Type} :
    List Note → Except Error α → Prop where
  | unrecorded {notes : List Note} {error : Error}
      (asks : AskedOnly (s.ledger.StartRequest s.schema m) notes)
      (never : ¬s.ledger.Recorded s.schema m notes) : StartCourse s m notes (.error error)
  | recorded {before after : List Note} {answer : Answer} {result : Except Error α}
      (asks : AskedOnly (s.ledger.StartRequest s.schema m) before)
      (notBefore : ¬s.ledger.Recorded s.schema m before) (goesOn : s.GoesOn m after result) :
      StartCourse s m
        (before ++ .asked (s.ledger.insertion s.schema m) (.ok answer) :: after) result

variable {α : Type} {notes : List Note}

theorem dialogue_undoStart {cause : Error} {result : Except Error α}
    (dialogue : (s.undoStart cause : Procedure α).Dialogue notes result) :
    ∃ outcome, s.rollback.Dialogue notes outcome ∧ result = .error (.ofUndoing cause outcome) := by
  obtain ⟨first, rest, outcome, rfl, rolled, follows⟩ := dialogue_attempt_bind.mp dialogue
  refine ⟨outcome, ?_⟩
  cases outcome with
  | ok value =>
      obtain ⟨rfl, rfl⟩ := follows
      rw [List.append_nil]
      exact ⟨rolled, rfl⟩
  | error rollback =>
      obtain ⟨rfl, rfl⟩ := follows
      rw [List.append_nil]
      exact ⟨rolled, rfl⟩

theorem dialogue_rejectMigration {cause : ValidationError} {result : Except Error α}
    (dialogue : (s.rejectMigration m cause : Procedure α).Dialogue notes result) :
    ∃ outcome, (s.ledger.rollback s.schema m.name).Dialogue notes outcome ∧
      result = .error (.ofRejection cause outcome) := by
  obtain ⟨first, rest, outcome, rfl, erased, follows⟩ := dialogue_attempt_bind.mp dialogue
  refine ⟨outcome, ?_⟩
  cases outcome with
  | ok value =>
      obtain ⟨rfl, rfl⟩ := follows
      rw [List.append_nil]
      exact ⟨erased, rfl⟩
  | error rollback =>
      obtain ⟨rfl, rfl⟩ := follows
      rw [List.append_nil]
      exact ⟨erased, rfl⟩

/-- A start that fails to fill a table is undone; otherwise it has asked for nothing but that. -/
theorem dialogue_fillTables {tables : List Table} {before : List Note}
    {result : Except Error (List Backfill.Progress)}
    (asked : AskedOnly (s.ExpandRequest m) before)
    (dialogue : (s.fillTables tables).Dialogue notes result) :
    s.GoesOn m (before ++ notes) result := by
  induction tables generalizing before notes result with
  | nil =>
      obtain ⟨rfl, rfl⟩ := dialogue
      rw [List.append_nil]
      exact .succeeds asked
  | cons table rest ih =>
      obtain ⟨filling, others, outcome, rfl, filled, follows⟩ := dialogue_attempt_bind.mp dialogue
      rw [← List.append_assoc]
      have asked := asked.append (asksOnly_backfill filling outcome filled)
      cases outcome with
      | error cause =>
          obtain ⟨outcome, rolled, rfl⟩ := dialogue_undoStart follows
          exact .fails (.undone asked rolled)
      | ok progress =>
          rcases dialogue_bind.mp follows with
            ⟨first, last, value, rfl, done, rfl, rfl⟩ | ⟨error, rfl, fails⟩
          · cases ih asked done with
            | succeeds asked =>
                rw [List.append_nil]
                exact .succeeds asked
          · cases ih asked fails with
            | fails course => exact .fails course

/-- What is done with the snapshot of a recorded migration. -/
def expandOrUndo (s : MigrationSession) (m : Migration) (snapshot : Schema) :
    Procedure (List Table) :=
  match if s.config.skipValidation then .ok () else m.validate snapshot with
  | .error cause => s.rejectMigration m cause
  | .ok () => (s.expand m snapshot).attempt.bind fun
      | .ok tables => .done tables
      | .error cause => s.undoStart cause

/-- The verdict on a migration before it is expanded. -/
def verdict (s : MigrationSession) (m : Migration) (snapshot : Schema) :
    Except ValidationError Unit :=
  if s.config.skipValidation then .ok () else m.validate snapshot

/-- A migration that is valid on the snapshot, or is not to be checked, is expanded. -/
theorem expandOrUndo_of_verdict {snapshot : Schema} (admitted : s.verdict m snapshot = .ok ()) :
    s.expandOrUndo m snapshot = (s.expand m snapshot).attempt.bind fun
      | .ok tables => .done tables
      | .error cause => s.undoStart cause := by
  unfold verdict at admitted
  unfold expandOrUndo
  rw [admitted]

theorem expandOrUndo_of_validated {snapshot played : Schema}
    (validated : m.validated snapshot = .ok played) :
    s.expandOrUndo m snapshot = (s.expand m snapshot).attempt.bind fun
      | .ok tables => .done tables
      | .error cause => s.undoStart cause := by
  refine expandOrUndo_of_verdict ?_
  unfold verdict
  rw [m.validate_of_validated validated, ite_self]

theorem dialogue_expandOrUndo {snapshot : Schema} {reads : List Note}
    {result : Except Error (List Table)}
    (asked : AskedOnly (s.ledger.ReadsSnapshot s.schema) reads)
    (dialogue : (s.expandOrUndo m snapshot).Dialogue notes result) :
    s.GoesOn m (reads ++ notes) result := by
  unfold expandOrUndo at dialogue
  split at dialogue
  · obtain ⟨outcome, erased, rfl⟩ := dialogue_rejectMigration dialogue
    exact .fails (.rejected asked erased)
  · obtain ⟨forward, rest, outcome, rfl, expanded, follows⟩ := dialogue_attempt_bind.mp dialogue
    have asked := (asked.mono fun _ => .snapshot).append (asksOnly_expand forward outcome expanded)
    rw [← List.append_assoc]
    cases outcome with
    | ok tables =>
        obtain ⟨rfl, rfl⟩ := follows
        rw [List.append_nil]
        exact .succeeds asked
    | error cause =>
        obtain ⟨outcome, rolled, rfl⟩ := dialogue_undoStart follows
        exact .fails (.undone asked rolled)

/-- What a start does where another migration is in progress. -/
def refuseStart (s : MigrationSession) : Procedure α :=
  (s.ledger.activeMigration s.schema).bind fun active =>
    .fail (.migrationAlreadyActive s.schema active.name)

theorem startChanges_eq :
    s.startChanges m = (s.ledger.isActive s.schema).bind fun active =>
      if active then s.refuseStart
      else (s.ledger.start s.schema m).bind (s.expandOrUndo m) := rfl

theorem dialogue_refuseStart {result : Except Error α}
    (dialogue : (s.refuseStart : Procedure α).Dialogue notes result) :
    AskedOnly s.ledger.Reads notes ∧ ∃ error, result = .error error := by
  have asks : (s.refuseStart : Procedure α).AsksOnly s.ledger.Reads :=
    .bind Ledger.asksOnly_activeMigration fun _ => .fail _
  refine ⟨asks notes result dialogue, ?_⟩
  rcases dialogue_bind.mp dialogue with ⟨_, _, _, _, _, _, failed⟩ | ⟨error, failed, _⟩
  · exact ⟨_, failed⟩
  · exact ⟨error, failed⟩

/-- What a start does with the snapshot of a recorded migration, from the first change on. -/
def startWith (s : MigrationSession) (m : Migration) (snapshot : Schema) :
    Procedure (List Backfill.Progress) :=
  (s.expandOrUndo m snapshot).bind s.fillTables

/-- A start asks the ledger whether it may, records the migration there and goes on with the
snapshot. -/
theorem start_eq :
    s.start m = (s.ledger.isActive s.schema).bind fun active =>
      if active then s.refuseStart
      else (s.ledger.start s.schema m).bind (s.startWith m) := by
  change (s.startChanges m).bind s.fillTables = _
  rw [startChanges_eq, Procedure.bind_assoc]
  refine congrArg _ (funext fun active => ?_)
  cases active with
  | true => exact Procedure.bind_assoc _ _ _
  | false => exact Procedure.bind_assoc _ _ _

theorem dialogue_startWith {snapshot : Schema} {reads : List Note}
    {result : Except Error (List Backfill.Progress)}
    (asked : AskedOnly (s.ledger.ReadsSnapshot s.schema) reads)
    (dialogue : (s.startWith m snapshot).Dialogue notes result) :
    s.GoesOn m (reads ++ notes) result := by
  rcases dialogue_bind.mp dialogue with ⟨first, rest, tables, rfl, expanded, filled⟩ |
    ⟨error, rfl, fails⟩
  · cases dialogue_expandOrUndo asked expanded with
    | succeeds asked =>
        rw [← List.append_assoc]
        exact dialogue_fillTables asked filled
  · cases dialogue_expandOrUndo asked fails with
    | fails course => exact .fails course

/-- Every dialogue of a start takes one of the courses. -/
theorem dialogue_start {result : Except Error (List Backfill.Progress)}
    (dialogue : (s.start m).Dialogue notes result) : s.StartCourse m notes result := by
  have read {notes : List Note} (asked : AskedOnly s.ledger.Reads notes) :
      AskedOnly (s.ledger.StartRequest s.schema m) notes ∧
        ¬s.ledger.Recorded s.schema m notes :=
    ⟨asked.mono fun _ => .inl, Ledger.not_recorded_of_asks asked Ledger.not_reads_insertion⟩
  rw [start_eq] at dialogue
  rcases dialogue_bind.mp dialogue with ⟨looking, rest, active, rfl, looked, follows⟩ |
    ⟨error, rfl, fails⟩
  · have first := Ledger.asksOnly_isActive looking _ looked
    cases active with
    | true =>
        obtain ⟨asked, error, rfl⟩ := dialogue_refuseStart follows
        obtain ⟨asks, never⟩ := read (first.append asked)
        exact .unrecorded asks never
    | false =>
        obtain ⟨asks, notBefore⟩ := read first
        rcases dialogue_bind.mp follows with ⟨starting, after, snapshot, rfl, started, goes⟩ |
          ⟨error, rfl, fails⟩
        · rcases Ledger.dialogue_start started with
            ⟨refusals, answer, reads, refused, rfl, asked, _⟩ | ⟨_, impossible, _⟩
          · have goesOn := dialogue_startWith asked goes
            rw [List.append_assoc, List.cons_append, ← List.append_assoc]
            exact .recorded (asks.append (Ledger.startRequest_of_refusals refused))
              (Ledger.not_recorded_append notBefore (Ledger.not_recorded_of_refusals refused))
              goesOn
          · cases impossible
        · rcases Ledger.dialogue_start fails with
            ⟨refusals, answer, reads, refused, rfl, asked, untold⟩ | ⟨_, _, never⟩
          · rw [← List.append_assoc]
            exact .recorded (asks.append (Ledger.startRequest_of_refusals refused))
              (Ledger.not_recorded_append notBefore (Ledger.not_recorded_of_refusals refused))
              (.fails (.unread asked (untold error rfl)))
          · exact .unrecorded (asks.append (Ledger.asksOnly_start rest _ fails))
              (Ledger.not_recorded_append notBefore never)
  · obtain ⟨asks, never⟩ := read (Ledger.asksOnly_isActive notes _ fails)
    exact .unrecorded asks never

/-! ## A session of the usual kind -/

/-- A session in the usual configuration, on which general results can be seen at work. -/
def usual : MigrationSession :=
  { config := .ofUrl "", serverVersion := securityInvokerVersion }

end MigrationSession

/-- A migration that creates a table of users. -/
def Migration.createsUsers : Migration :=
  { name := "create_users"
    versionSchema := none
    operations :=
      [.createTable { name := "users", columns := [.ofType "id" "int"], comment := none }] }

/-- The schema that it leaves behind, with nothing but this table. -/
def Schema.withUsers : Schema :=
  (Schema.ofName "public").exposeTable "users"
    { Table.ofName "users" with columns := .ofList [("id", { Column.ofType "id" "int" with
      nullable := false, position := 1 })] }

end ExpandContract
