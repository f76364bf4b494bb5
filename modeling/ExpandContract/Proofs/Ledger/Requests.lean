import ExpandContract.Ledger.Calls
import ExpandContract.Proofs.Session.Asking

/-!
# What calls to the ledger ask for

The calls to the ledger only read it, except for the one entry that each of `start`, `complete`
and `rollback` makes. Here it is said which requests a call makes (`AsksOnly`), what its value
says about the answers, and with which errors it fails.
-/

set_option autoImplicit false

namespace ExpandContract

open Session Procedure

/-- Whether a query leaves the ledger as it is. -/
def Ledger.Query.isRead : Ledger.Query → Bool
  | .insertMigration _ _ _ => false
  | .markDone _ _ => false
  | .erase _ _ => false
  | .insertBaseline _ _ _ => false
  | _ => true

/-- Whether the error tells that a start was taken back, or that taking it back failed. -/
def Error.tellsOfUndoing : Error → Bool
  | .validation _ => true
  | .startFailed _ => true
  | .startNotUndone _ _ => true
  | _ => false

/-- A value of a row is missing because its cell cannot be read. -/
theorem Session.Row.value_error {α : Type} (row : Row) {place : Nat} {column : ColumnRef}
    {read : Json → Option α} (error : Error) (failed : row.value place column read = .error error) :
    error.tellsOfUndoing = false := by
  unfold Row.value at failed
  split at failed
  · cases failed
  · cases failed
    rfl

theorem Session.Row.value?_error {α : Type} (row : Row) {place : Nat} {column : ColumnRef}
    {read : Json → Option α} (error : Error)
    (failed : row.value? place column read = .error error) :
    error.tellsOfUndoing = false := by
  unfold Row.value? at failed
  split at failed
  · cases failed
  · split at failed
    · cases failed
    · cases failed
      rfl

theorem Ledger.readSnapshot_error {value : Json} (error : Error)
    (failed : readSnapshot value = .error error) : error.tellsOfUndoing = false := by
  unfold readSnapshot at failed
  split at failed
  · cases failed
  · cases failed
    rfl

namespace Ledger

variable {l : Ledger} {schema name : String} {m : Migration} {notes : List Note}

/-- A request that reads the ledger. -/
def Reads (l : Ledger) (request : Request) : Prop :=
  ∃ query : Query, query.isRead = true ∧ request = l.request query

/-- A request for the snapshot that a migration starts from. -/
def ReadsSnapshot (l : Ledger) (schema : String) (request : Request) : Prop :=
  request = l.request (.readSchema schema) ∨
    ∃ parent, request = l.request (.recordedSnapshot schema parent)

theorem ReadsSnapshot.reads {request : Request} (reads : l.ReadsSnapshot schema request) :
    l.Reads request := by
  rcases reads with rfl | ⟨parent, rfl⟩
  · exact ⟨_, rfl, rfl⟩
  · exact ⟨_, rfl, rfl⟩

/-! ## Reading -/

theorem asksOnly_isActive : (l.isActive schema).AsksOnly l.Reads := by
  refine AsksOnly.bind (.fetch? ⟨_, rfl, rfl⟩) fun answer => ?_
  cases answer with
  | none => exact .done _
  | some row => exact .bind (.ofExcept _) fun _ => .done _

theorem asksOnly_activeMigration : (l.activeMigration schema).AsksOnly l.Reads := by
  refine AsksOnly.bind (.fetch? ⟨_, rfl, rfl⟩) fun answer => ?_
  cases answer with
  | none => exact .fail _
  | some row => exact .ofExcept _

theorem asksOnly_migrationNamed : (l.migrationNamed schema name).AsksOnly l.Reads := by
  refine AsksOnly.bind (.fetch? ⟨_, rfl, rfl⟩) fun answer => ?_
  cases answer with
  | none => exact .fail _
  | some row => exact .ofExcept _

theorem asksOnly_previousVersion {includeInferred : Bool} :
    (l.previousVersion schema includeInferred).AsksOnly l.Reads := by
  refine AsksOnly.bind (.fetch? ⟨_, rfl, rfl⟩) fun answer => ?_
  cases answer with
  | none => exact .done _
  | some row => exact .ofExcept _

theorem asksOnly_readSchema : (l.readSchema schema).AsksOnly (l.ReadsSnapshot schema) := by
  refine AsksOnly.bind (.fetch? (.inl rfl)) fun answer => ?_
  cases answer with
  | none => exact .fail _
  | some row => exact .ofExcept _

theorem asksOnly_recordedSnapshot :
    (l.recordedSnapshot schema name).AsksOnly (l.ReadsSnapshot schema) := by
  refine AsksOnly.bind (.fetch? (.inr ⟨name, rfl⟩)) fun answer => ?_
  cases answer with
  | none => exact .done _
  | some row =>
      refine .bind (.ofExcept _) fun held => ?_
      cases held with
      | none => exact .done _
      | some value => exact .bind (.ofExcept _) fun _ => .done _

theorem failsOnly_readSchema :
    (l.readSchema schema).FailsOnly fun error => error.tellsOfUndoing = false := by
  refine FailsOnly.bind (.fetch? rfl fun _ => rfl) fun answer => ?_
  cases answer with
  | none => exact .fail rfl
  | some row =>
      refine .ofExcept fun error failed => ?_
      cases value : row.value 0 (.place 0) some with
      | error missing =>
          rw [value] at failed
          cases failed
          exact row.value_error _ value
      | ok held =>
          rw [value] at failed
          exact readSnapshot_error error failed

theorem failsOnly_recordedSnapshot :
    (l.recordedSnapshot schema name).FailsOnly fun error => error.tellsOfUndoing = false := by
  refine FailsOnly.bind (.fetch? rfl fun _ => rfl) fun answer => ?_
  cases answer with
  | none => exact .done _
  | some row =>
      refine .bind (.ofExcept row.value?_error) fun held => ?_
      cases held with
      | none => exact .done _
      | some value => exact .bind (.ofExcept readSnapshot_error) fun _ => .done _

/-- The server tells a migration in answer to a query. -/
def Told (l : Ledger) (query : Query) (m : Migration) (notes : List Note) : Prop :=
  ∃ answer row rest, answer.rows = row :: rest ∧ migrationOfRow row = .ok m ∧
    Note.asked (l.request query) (.ok answer) ∈ notes

theorem Told.mono {query : Query} {more : List Note} (told : l.Told query m notes)
    (part : notes ⊆ more) : l.Told query m more := by
  obtain ⟨answer, row, rest, rows, read, member⟩ := told
  exact ⟨answer, row, rest, rows, read, part member⟩

/-- A call that reads a migration from the answer to a query has the migration that was told. -/
theorem told_of_dialogue {query : Query} {missing : Error}
    (dialogue : ((fetch? (l.request query)).bind fun
      | none => .fail missing
      | some row => Procedure.ofExcept (migrationOfRow row)).Dialogue notes (.ok m)) :
    l.Told query m notes := by
  obtain ⟨first, rest, found, rfl, fetched, follows⟩ := dialogue_bind_ok.mp dialogue
  rcases dialogue_fetch? fetched with ⟨refusals, answer, same, _, rfl⟩ | ⟨_, impossible, _⟩
  · cases same
    cases rows : answer.rows with
    | nil =>
        rw [rows] at follows
        cases follows.2
    | cons row others =>
        rw [rows] at follows
        obtain ⟨_, read⟩ := dialogue_ofExcept.mp follows
        exact ⟨answer, row, others, rows, read.symm, by simp⟩
  · cases impossible

/-- The server tells that the migration is the active one. -/
def Tells (l : Ledger) (schema : String) (m : Migration) (notes : List Note) : Prop :=
  l.Told (.activeMigration schema) m notes

theorem Tells.mono {more : List Note} (tells : l.Tells schema m notes) (part : notes ⊆ more) :
    l.Tells schema m more :=
  Told.mono tells part

theorem tells_of_dialogue (dialogue : (l.activeMigration schema).Dialogue notes (.ok m)) :
    l.Tells schema m notes :=
  told_of_dialogue dialogue

theorem told_of_migrationNamed
    (dialogue : (l.migrationNamed schema name).Dialogue notes (.ok m)) :
    l.Told (.migrationNamed schema name) m notes :=
  told_of_dialogue dialogue

/-! ## Recording -/

/-- The request that records the start of a migration. -/
def insertion (l : Ledger) (schema : String) (m : Migration) : Request :=
  l.request (.insertMigration schema m.name m.toJson)

theorem asksOnly_conflictOf : (l.conflictOf schema name).AsksOnly l.Reads := by
  refine AsksOnly.bind asksOnly_activeMigration.attempt fun outcome => ?_
  split <;> exact .done _

/-- The row with which an answer confirms a record. -/
def insertedIn (answer : Answer) : Except Error Row :=
  match answer.rows with
  | [] => .error (.stateCorrupted "insert into migrations returned no row")
  | row :: _ => .ok row

theorem insertedIn_error {answer : Answer} {error : Error}
    (unconfirmed : insertedIn answer = .error error) : error.tellsOfUndoing = false := by
  unfold insertedIn at unconfirmed
  split at unconfirmed <;> cases unconfirmed
  rfl

/-- A start is recorded with the last request of the call, or it is not recorded and the call
fails. -/
theorem dialogue_insertMigration {result : Except Error Row}
    (dialogue : (l.insertMigration schema m).Dialogue notes result) :
    (∃ refusals answer, Refusals (l.insertion schema m) refusals ∧
      notes = refusals ++ [.asked (l.insertion schema m) (.ok answer)] ∧
      result = insertedIn answer) ∨
    ∃ refusals rest error, result = .error error ∧ notes = refusals ++ rest ∧
      Refusals (l.insertion schema m) refusals ∧
      AskedOnly l.Reads rest := by
  obtain ⟨first, rest, outcome, rfl, fetched, follows⟩ := dialogue_attempt_bind.mp dialogue
  rcases dialogue_fetch? fetched with
    ⟨refusals, answer, rfl, refused, rfl⟩ | ⟨error, rfl, refused, _⟩
  · refine .inl ⟨refusals, answer, refused, ?_⟩
    unfold insertedIn
    cases rows : answer.rows with
    | nil =>
        rw [rows] at follows
        obtain ⟨rfl, rfl⟩ := follows
        exact ⟨List.append_nil _, rfl⟩
    | cons row others =>
        rw [rows] at follows
        obtain ⟨rfl, rfl⟩ := follows
        exact ⟨List.append_nil _, rfl⟩
  · refine .inr ⟨first, rest, ?_⟩
    by_cases taken : error.isTakenKey = true
    · simp only [if_pos taken] at follows
      have reads : ((l.conflictOf schema m.name).bind fun conflict =>
          (Procedure.fail conflict : Procedure Row)).AsksOnly l.Reads :=
        .bind asksOnly_conflictOf fun _ => .fail _
      obtain ⟨conflict, failed⟩ : ∃ conflict, result = .error conflict := by
        rcases dialogue_bind.mp follows with ⟨_, _, _, _, _, fails⟩ | ⟨_, fails, _⟩
        · exact ⟨_, fails.2⟩
        · exact ⟨_, fails⟩
      exact ⟨conflict, failed, rfl, refused, reads _ _ follows⟩
    · simp only [if_neg taken] at follows
      exact ⟨error, follows.2, rfl, refused, follows.1 ▸ .nil⟩

/-- The server has recorded the start of the migration. -/
def Recorded (l : Ledger) (schema : String) (m : Migration) (notes : List Note) : Prop :=
  ∃ answer, Note.asked (l.insertion schema m) (.ok answer) ∈ notes

theorem not_recorded_append {first rest : List Note} (before : ¬l.Recorded schema m first)
    (after : ¬l.Recorded schema m rest) : ¬l.Recorded schema m (first ++ rest) := by
  rintro ⟨answer, member⟩
  rcases List.mem_append.mp member with early | late
  · exact before ⟨answer, early⟩
  · exact after ⟨answer, late⟩

theorem not_recorded_of_refusals (refused : Refusals (l.insertion schema m) notes) :
    ¬l.Recorded schema m notes := by
  rintro ⟨answer, member⟩
  obtain ⟨_, same⟩ := refused _ member
  cases same

/-- A request that never occurs among the notes of a part is not recorded by it. -/
theorem not_recorded_of_asks {allowed : Request → Prop}
    (asks : AskedOnly allowed notes)
    (other : ¬allowed (l.insertion schema m)) : ¬l.Recorded schema m notes := by
  rintro ⟨answer, member⟩
  exact other (asks _ _ member)

theorem not_reads_insertion : ¬l.Reads (l.insertion schema m) := by
  rintro ⟨query, isRead, same⟩
  cases same
  cases isRead

/-- Where two parts without a record stand around the one record of some notes, they are what stands
around any record. -/
theorem recorded_once {before after first rest : List Note} {answer other : Answer}
    (split : before ++ .asked (l.insertion schema m) (.ok answer) :: after =
      first ++ .asked (l.insertion schema m) (.ok other) :: rest)
    (notBefore : ¬l.Recorded schema m before) (notAfter : ¬l.Recorded schema m after) :
    rest = after := by
  rcases split_around split with ⟨between, rfl, same⟩ | ⟨between, rfl, rfl⟩
  · cases between with
    | nil =>
        cases same
        rfl
    | cons note between =>
        cases same
        exact absurd ⟨other, by simp⟩ notAfter
  · exact absurd ⟨other, by simp⟩ notBefore

/-- What a start does once it is recorded: it reads the snapshot. -/
def snapshotAfter (l : Ledger) (schema : String) (row : Row) : Procedure Schema := do
  let parent ← Procedure.ofExcept (row.value? 0 (.named "parent") Json.string?)
  let snapshot ← match parent with
    | some parent => l.recordedSnapshot schema parent
    | none => pure none
  match snapshot with
  | some snapshot => return snapshot
  | none => l.readSchema schema

theorem start_eq :
    l.start schema m = (l.insertMigration schema m).bind (l.snapshotAfter schema) := rfl

theorem asksOnly_snapshotAfter {row : Row} :
    (l.snapshotAfter schema row).AsksOnly (l.ReadsSnapshot schema) := by
  refine AsksOnly.bind (.ofExcept _) fun parent => ?_
  have ending (snapshot : Option Schema) : (match snapshot with
      | some snapshot => .done snapshot
      | none => l.readSchema schema : Procedure Schema).AsksOnly (l.ReadsSnapshot schema) := by
    cases snapshot with
    | none => exact asksOnly_readSchema
    | some snapshot => exact .done _
  cases parent with
  | none => exact AsksOnly.bind (.done none) ending
  | some parent => exact .bind asksOnly_recordedSnapshot ending

theorem failsOnly_snapshotAfter {row : Row} :
    (l.snapshotAfter schema row).FailsOnly fun error => error.tellsOfUndoing = false := by
  refine FailsOnly.bind (.ofExcept row.value?_error) fun parent => ?_
  have ending (snapshot : Option Schema) : (match snapshot with
      | some snapshot => .done snapshot
      | none => l.readSchema schema : Procedure Schema).FailsOnly
        fun error => error.tellsOfUndoing = false := by
    cases snapshot with
    | none => exact failsOnly_readSchema
    | some snapshot => exact .done _
  cases parent with
  | none => exact FailsOnly.bind (.done none) ending
  | some parent => exact .bind failsOnly_recordedSnapshot ending

/-- The requests of a start that belong to the ledger. -/
def StartRequest (l : Ledger) (schema : String) (m : Migration) (request : Request) : Prop :=
  l.Reads request ∨ request = l.insertion schema m

theorem startRequest_of_refusals (refused : Refusals (l.insertion schema m) notes) :
    AskedOnly (l.StartRequest schema m) notes := by
  intro request reply member
  obtain ⟨_, same⟩ := refused _ member
  cases same
  exact .inr rfl

theorem asksOnly_start : (l.start schema m).AsksOnly (l.StartRequest schema m) := by
  rw [start_eq]
  refine AsksOnly.bind (AsksOnly.bind (AsksOnly.fetch? (.inr rfl)).attempt fun outcome => ?_)
    fun row => asksOnly_snapshotAfter.mono fun _ reads => .inl reads.reads
  rcases outcome with error | _ | row
  · by_cases taken : error.isTakenKey = true
    · simp only [if_pos taken]
      exact AsksOnly.bind (asksOnly_conflictOf.mono fun _ => .inl) fun _ => .fail _
    · simp only [if_neg taken]
      exact .fail _
  · exact .fail _
  · exact .done _

/-- The call records the start and then reads the snapshot, or it fails without a record. -/
theorem dialogue_start {result : Except Error Schema}
    (dialogue : (l.start schema m).Dialogue notes result) :
    (∃ refusals answer reads, Refusals (l.insertion schema m) refusals ∧
      notes = refusals ++ .asked (l.insertion schema m) (.ok answer) :: reads ∧
      AskedOnly (l.ReadsSnapshot schema) reads ∧
      ∀ error, result = .error error → error.tellsOfUndoing = false) ∨
    ∃ error, result = .error error ∧ ¬l.Recorded schema m notes := by
  rw [start_eq] at dialogue
  rcases dialogue_bind.mp dialogue with ⟨first, rest, row, rfl, inserted, follows⟩ |
    ⟨error, rfl, fails⟩
  · rcases dialogue_insertMigration inserted with
      ⟨refusals, answer, refused, rfl, _⟩ | ⟨_, _, _, impossible, _⟩
    · refine .inl ⟨refusals, answer, rest, refused, List.append_assoc .., ?_, ?_⟩
      · exact asksOnly_snapshotAfter rest result follows
      · rintro error rfl
        exact failsOnly_snapshotAfter rest error follows
    · cases impossible
  · rcases dialogue_insertMigration fails with
      ⟨refusals, answer, refused, rfl, unconfirmed⟩ | ⟨refusals, rest, _, _, rfl, refused, reads⟩
    · refine .inl ⟨refusals, answer, [], refused, rfl, .nil, ?_⟩
      rintro _ ⟨⟩
      exact insertedIn_error unconfirmed.symm
    · refine .inr ⟨error, rfl, ?_⟩
      exact not_recorded_append (not_recorded_of_refusals refused)
        (not_recorded_of_asks reads not_reads_insertion)

/-! ## Erasing -/

/-- The server has erased the entry of that name: it found one. -/
def Erased (l : Ledger) (schema name : String) (notes : List Note) : Prop :=
  ∃ answer, answer.rows ≠ [] ∧ Note.asked (l.request (.erase schema name)) (.ok answer) ∈ notes

theorem Erased.mono {more : List Note} (erased : l.Erased schema name notes)
    (part : notes ⊆ more) : l.Erased schema name more := by
  obtain ⟨answer, found, member⟩ := erased
  exact ⟨answer, found, part member⟩

theorem asksOnly_rollback :
    (l.rollback schema name).AsksOnly fun request => request = l.request (.erase schema name) := by
  refine AsksOnly.bind (.fetch? rfl) fun answer => ?_
  cases answer with
  | none => exact .fail _
  | some row => exact .done _

theorem asksOnly_complete :
    (l.complete schema name).AsksOnly fun request =>
      request = l.request (.markDone schema name) := by
  refine AsksOnly.bind (.fetch? rfl) fun answer => ?_
  cases answer with
  | none => exact .fail _
  | some row => exact .done _

/-- Where the call succeeds, the entry has been erased. -/
theorem erased_of_dialogue (dialogue : (l.rollback schema name).Dialogue notes (.ok ())) :
    l.Erased schema name notes := by
  obtain ⟨first, rest, found, rfl, fetched, follows⟩ := dialogue_bind_ok.mp dialogue
  rcases dialogue_fetch? fetched with ⟨refusals, answer, same, _, rfl⟩ | ⟨_, impossible, _⟩
  · cases same
    refine ⟨answer, fun none => ?_, by simp⟩
    rw [none] at follows
    cases follows.2
  · cases impossible

end Ledger

end ExpandContract
