import ExpandContract.Proofs.Lifecycle.Release
import ExpandContract.Proofs.Session.Deciding

/-!
# Reserved before changed

The entry that a start records reserves the schema for its migration, and the snapshot that the
ledger then gives decides whether the migration is valid. Until the entry is confirmed by a row, a
start asks the ledger and nobody else (`Ledger.RecordRequest`). Until the snapshot has been
accepted it only reads. A migration that is not valid on its snapshot has its entry erased, and
nothing else is done about it (`start_reserves_then_accepts`).
-/

set_option autoImplicit false

namespace ExpandContract

open Session Procedure

/-! ## The record and the snapshot -/

namespace Ledger

variable {l : Ledger} {schema name : String} {m : Migration}

/-- The requests with which a migration is recorded: whether another one is in progress, which one
that is, and the record itself. -/
inductive RecordRequest (l : Ledger) (schema : String) (m : Migration) : Request → Prop where
  | looks : RecordRequest l schema m (l.request (.isActive schema))
  | names : RecordRequest l schema m (l.request (.activeMigration schema))
  | records : RecordRequest l schema m (l.insertion schema m)

/-- The server has recorded the start of the migration, and has confirmed it with a row. -/
def Reserved (l : Ledger) (schema : String) (m : Migration) (notes : List Note) : Prop :=
  ∃ answer, answer.rows ≠ [] ∧ Note.asked (l.insertion schema m) (.ok answer) ∈ notes

theorem Reserved.append {first : List Note} (reserved : l.Reserved schema m first)
    (rest : List Note) : l.Reserved schema m (first ++ rest) := by
  obtain ⟨answer, confirmed, member⟩ := reserved
  exact ⟨answer, confirmed, List.mem_append_left rest member⟩

theorem asksSolely_isActive : (l.isActive schema).AsksSolely (l.RecordRequest schema m) := by
  rw [isActive_eq]
  exact (Heeds.send .looks fun _ => rfl).asks

theorem asksSolely_activeMigration :
    (l.activeMigration schema).AsksSolely (l.RecordRequest schema m) := by
  rw [activeMigration_eq]
  exact (Heeds.send .names fun _ => rfl).asks

theorem asksSolely_insertMigration :
    (l.insertMigration schema m).AsksSolely (l.RecordRequest schema m) := by
  refine .bind (AsksSolely.attempt (Heeds.fetch? .records).asks) fun outcome => ?_
  rcases outcome with error | _ | row
  · by_cases taken : error.isTakenKey = true
    · simp only [if_pos taken]
      have names : (l.conflictOf schema m.name).AsksSolely (l.RecordRequest schema m) := by
        refine .bind asksSolely_activeMigration.attempt fun outcome => ?_
        split <;> exact .done _
      exact .bind names fun _ => .fail _
    · simp only [if_neg taken]
      exact .fail _
  · exact .fail _
  · exact .done _

/-- A record that succeeds ends with the answer that confirms it. -/
theorem dialogue_insertMigration_ok {notes : List Note} {row : Row}
    (dialogue : (l.insertMigration schema m).Dialogue notes (.ok row)) :
    ∃ refusals answer, insertedIn answer = .ok row ∧ Refusals (l.insertion schema m) refusals ∧
      notes = refusals ++ [.asked (l.insertion schema m) (.ok answer)] := by
  rcases dialogue_insertMigration dialogue with
    ⟨refusals, answer, refused, rfl, same⟩ | ⟨_, _, _, impossible, _⟩
  · exact ⟨refusals, answer, same.symm, refused, rfl⟩
  · cases impossible

theorem reserved_of_insertMigration {notes : List Note} {row : Row}
    (dialogue : (l.insertMigration schema m).Dialogue notes (.ok row)) :
    l.Reserved schema m notes := by
  obtain ⟨refusals, answer, same, _, rfl⟩ := dialogue_insertMigration_ok dialogue
  refine ⟨answer, fun none => ?_, by simp⟩
  rw [insertedIn, none] at same
  cases same

theorem decisive_insertMigration : (l.insertMigration schema m).Decisive := by
  refine .of_answered (fun _ _ => dialogue_insertMigration_ok) ?_
  intro notes error answer failed member
  rcases dialogue_insertMigration failed with
    ⟨refusals, last, refused, rfl, same⟩ | ⟨refusals, rest, _, _, rfl, refused, reads⟩
  · obtain ⟨_, rfl⟩ := refused.eq_of_answered member
    exact same.symm
  · rcases List.mem_append.mp member with early | late
    · obtain ⟨_, impossible⟩ := refused _ early
      cases impossible
    · exact absurd (reads _ _ late) not_reads_insertion

/-- The snapshot that was recorded with the entry before, if there is an entry. -/
def recordedBefore (l : Ledger) (schema : String) : Option String → Procedure (Option Schema)
  | some parent => l.recordedSnapshot schema parent
  | none => .done none

/-- The recorded snapshot, or else a fresh one. -/
def orFresh (l : Ledger) (schema : String) : Option Schema → Procedure Schema
  | some snapshot => .done snapshot
  | none => l.readSchema schema

theorem snapshotAfter_eq {row : Row} :
    l.snapshotAfter schema row =
      (Procedure.ofExcept (row.value? 0 (.named "parent") Json.string?)).bind fun parent =>
        (l.recordedBefore schema parent).bind (l.orFresh schema) := by
  refine congrArg (Procedure.bind _) (funext fun parent => ?_)
  cases parent <;> refine congrArg (Procedure.bind _) (funext fun snapshot => ?_) <;>
    cases snapshot <;> rfl

theorem asksSolely_snapshotAfter {row : Row} :
    (l.snapshotAfter schema row).AsksSolely (l.ReadsSnapshot schema) := by
  rw [snapshotAfter_eq]
  refine .bind (Heeds.ofExcept _).asks fun parent => .bind ?_ fun snapshot => ?_
  · cases parent with
    | none => exact .done _
    | some parent =>
        rw [recordedBefore, recordedSnapshot_eq]
        exact (Heeds.send (.inr ⟨parent, rfl⟩) fun _ => rfl).asks
  · cases snapshot with
    | none =>
        rw [orFresh, readSchema_eq]
        exact (Heeds.send (.inl rfl) fun _ => rfl).asks
    | some snapshot => exact .done _

theorem decisive_snapshotAfter {row : Row} : (l.snapshotAfter schema row).Decisive := by
  rw [snapshotAfter_eq]
  refine .bind (.ofExcept _) fun parent => .bind ?_ fun snapshot => ?_
  · cases parent with
    | none => exact .done _
    | some parent =>
        rw [recordedBefore, recordedSnapshot_eq]
        exact .ask _ _
  · cases snapshot with
    | none =>
        rw [orFresh, readSchema_eq]
        exact .ask _ _
    | some snapshot => exact .done _

theorem decisive_start : (l.start schema m).Decisive := by
  rw [start_eq]
  exact decisive_insertMigration.bind fun _ => decisive_snapshotAfter

end Ledger

namespace MigrationSession

variable {s : MigrationSession} {m : Migration} {notes : List Note}
  {outcome : Except Error (List Backfill.Progress)}

/-! ## How a start opens -/

/-- The ledger has recorded the migration, and has given a snapshot for it. -/
structure Opens (s : MigrationSession) (m : Migration) (looking starting : List Note)
    (snapshot : Schema) : Prop where
  looked : (s.ledger.isActive s.schema).Dialogue looking (.ok false)
  started : (s.ledger.start s.schema m).Dialogue starting (.ok snapshot)

/-- What a start does after its opening. -/
theorem dialogue_after_opening {looking starting rest : List Note} {snapshot : Schema}
    (opens : s.Opens m looking starting snapshot)
    (dialogue : (s.start m).Dialogue (looking ++ (starting ++ rest)) outcome) :
    (s.startWith m snapshot).Dialogue rest outcome := by
  rw [start_eq, Ledger.isActive_eq] at dialogue
  have looked := opens.looked
  rw [Ledger.isActive_eq] at looked
  exact Ledger.decisive_start _ _ _ _ _ _ opens.started
    (Decisive.ask _ _ _ _ _ _ _ _ looked dialogue)

/-- How the opening stands in the notes of a start: nothing was reserved, or the snapshot could not
be read, or the start has gone on from the snapshot. -/
inductive AroundOpening (s : MigrationSession) (m : Migration) :
    List Note → Except Error (List Backfill.Progress) → Prop where
  | unreserved {notes : List Note} {outcome : Except Error (List Backfill.Progress)}
      (asks : AsksAlone (s.ledger.RecordRequest s.schema m) notes) : AroundOpening s m notes outcome
  | unread {first reads : List Note} {outcome : Except Error (List Backfill.Progress)}
      (asks : AsksAlone (s.ledger.RecordRequest s.schema m) first)
      (reserved : s.ledger.Reserved s.schema m first)
      (reading : AsksAlone (s.ledger.ReadsSnapshot s.schema) reads) :
      AroundOpening s m (first ++ reads) outcome
  | read {looking inserting reads rest : List Note} {snapshot : Schema}
      {outcome : Except Error (List Backfill.Progress)}
      (asks : AsksAlone (s.ledger.RecordRequest s.schema m) (looking ++ inserting))
      (reserved : s.ledger.Reserved s.schema m inserting)
      (reading : AsksAlone (s.ledger.ReadsSnapshot s.schema) reads)
      (opens : s.Opens m looking (inserting ++ reads) snapshot)
      (goesOn : (s.startWith m snapshot).Dialogue rest outcome) :
      AroundOpening s m (looking ++ ((inserting ++ reads) ++ rest)) outcome

theorem aroundOpening_of_start (dialogue : (s.start m).Dialogue notes outcome) :
    s.AroundOpening m notes outcome := by
  rw [start_eq] at dialogue
  rcases dialogue_bind.mp dialogue with ⟨looking, rest, active, rfl, looked, follows⟩ |
    ⟨error, rfl, fails⟩
  · have asks := Ledger.asksSolely_isActive (m := m) looking _ looked
    cases active with
    | true =>
        have refuses : (s.refuseStart : Procedure (List Backfill.Progress)).AsksSolely
            (s.ledger.RecordRequest s.schema m) :=
          .bind Ledger.asksSolely_activeMigration fun _ => .fail _
        exact .unreserved (asks.append (refuses rest outcome follows))
    | false =>
        rw [if_neg Bool.false_ne_true, Ledger.start_eq, Procedure.bind_assoc] at follows
        rcases dialogue_bind.mp follows with ⟨inserting, rest, row, rfl, inserted, follows⟩ |
          ⟨error, rfl, fails⟩
        · have asks := asks.append (Ledger.asksSolely_insertMigration inserting _ inserted)
          have reserved := Ledger.reserved_of_insertMigration inserted
          rcases dialogue_bind.mp follows with ⟨reads, rest, snapshot, rfl, read, goesOn⟩ |
            ⟨error, rfl, fails⟩
          · have started := dialogue_bind_ok.mpr ⟨inserting, reads, row, rfl, inserted, read⟩
            rw [← List.append_assoc inserting]
            exact .read asks reserved (Ledger.asksSolely_snapshotAfter reads _ read)
              ⟨looked, started⟩ goesOn
          · rw [← List.append_assoc]
            obtain ⟨answer, confirmed, member⟩ := reserved
            exact .unread asks ⟨answer, confirmed, List.mem_append_right looking member⟩
              (Ledger.asksSolely_snapshotAfter rest _ fails)
        · exact .unreserved (asks.append (Ledger.asksSolely_insertMigration rest _ fails))
  · exact .unreserved (Ledger.asksSolely_isActive notes _ fails)

/-! ## Rejected snapshots -/

/-- The call that erases an entry asks for nothing else, and succeeds if an entry was erased. -/
theorem dialogue_erase {name : String} {result : Except Error Unit}
    (dialogue : (s.ledger.rollback s.schema name).Dialogue notes result) :
    AsksAlone (· = s.ledger.request (.erase s.schema name)) notes ∧
      (result = .ok () ↔ s.ledger.Erased s.schema name notes) := by
  refine ⟨?_, ?_, ?_⟩
  · have heeds : (s.ledger.rollback s.schema name).Heeds
        (· = s.ledger.request (.erase s.schema name)) := by
      rw [Ledger.rollback_eq]
      exact .send rfl fun _ => rfl
    exact heeds.asks notes result dialogue
  · rintro rfl
    exact Ledger.erased_of_dialogue dialogue
  · rintro ⟨answer, found, member⟩
    rw [Ledger.rollback_eq] at dialogue
    rcases dialogue_ask dialogue with ⟨refusals, last, rfl, refused, rfl⟩ | ⟨_, refused⟩
    · obtain ⟨_, rfl⟩ := refused.eq_of_answered member
      unfold Ledger.foundIn
      split
      · rename_i none
        exact absurd none found
      · rfl
    · obtain ⟨_, impossible⟩ := refused _ member
      cases impossible

/-- A migration that is not valid on its snapshot has its entry erased, and that is all. -/
theorem dialogue_startWith_of_invalid {snapshot : Schema} {cause : ValidationError}
    (checks : s.config.skipValidation = false) (invalid : m.validate snapshot = .error cause)
    (dialogue : (s.startWith m snapshot).Dialogue notes outcome) :
    ∃ result, (s.ledger.rollback s.schema m.name).Dialogue notes result ∧
      outcome = .error (.ofRejection cause result) := by
  have rejects : s.expandOrUndo m snapshot = s.rejectMigration m cause := by
    unfold expandOrUndo
    rw [checks, if_neg Bool.false_ne_true, invalid]
  unfold startWith at dialogue
  rw [rejects] at dialogue
  rcases dialogue_bind.mp dialogue with ⟨_, _, _, _, done, _⟩ | ⟨error, rfl, fails⟩
  · obtain ⟨_, _, impossible⟩ := dialogue_rejectMigration done
    cases impossible
  · obtain ⟨result, erases, same⟩ := dialogue_rejectMigration fails
    cases same
    exact ⟨result, erases, rfl⟩

/-- The ledger has given a snapshot on which the migration is valid, or none is checked. -/
def Accepted (s : MigrationSession) (m : Migration) (notes : List Note) : Prop :=
  ∃ looking starting rest snapshot, notes = looking ++ (starting ++ rest) ∧
    s.Opens m looking starting snapshot ∧
      (s.config.skipValidation = true ∨ m.validate snapshot = .ok ())

/-- The requests of a start whose migration has not been accepted: they record it, read a snapshot
for it, or erase it again. -/
inductive UnacceptedRequest (s : MigrationSession) (m : Migration) : Request → Prop where
  | records {request : Request} (recording : s.ledger.RecordRequest s.schema m request) :
      UnacceptedRequest s m request
  | reads {request : Request} (reading : s.ledger.ReadsSnapshot s.schema request) :
      UnacceptedRequest s m request
  | erases : UnacceptedRequest s m (s.ledger.request (.erase s.schema m.name))

/-- A note from before the acceptance of the snapshot is one of a request that records, reads or
erases. -/
theorem unaccepted_of_around (around : s.AroundOpening m notes outcome) {before after : List Note}
    {note : Note} (split : notes = before ++ note :: after) (unaccepted : ¬s.Accepted m before) :
    ∃ request reply, note = .asked request reply ∧ s.UnacceptedRequest m request := by
  cases around with
  | unreserved asks => exact asks.mono (fun _ => .records) note (split ▸ by simp)
  | unread asks _ reading =>
      exact ((asks.mono fun _ => .records).append (reading.mono fun _ => .reads)) note
        (split ▸ by simp)
  | @read looking inserting reads rest snapshot _ asks _ reading opens goesOn =>
      have opening : AsksAlone (s.UnacceptedRequest m) (looking ++ (inserting ++ reads)) := by
        rw [← List.append_assoc]
        exact (asks.mono fun _ => .records).append (reading.mono fun _ => .reads)
      rw [← List.append_assoc] at split
      rcases split_around split with ⟨between, rfl, rfl⟩ | ⟨between, same, rfl⟩
      · -- The snapshot is known, so it is one that is rejected.
        cases verdict : m.validate snapshot with
        | ok value =>
            exact absurd ⟨looking, _, between, snapshot, List.append_assoc .., opens, .inr verdict⟩
              unaccepted
        | error cause =>
            have checks : s.config.skipValidation = false := by
              refine Bool.eq_false_iff.mpr fun skips => unaccepted ?_
              exact ⟨looking, _, between, snapshot, List.append_assoc .., opens, .inl skips⟩
            obtain ⟨result, erasing, _⟩ := dialogue_startWith_of_invalid checks verdict goesOn
            refine (dialogue_erase erasing).1.mono ?_ note (by simp)
            rintro _ rfl
            exact .erases
      · exact opening note (same ▸ by simp)

/-- A note from before the confirmed record is one of a request that records. -/
theorem unreserved_of_around (around : s.AroundOpening m notes outcome) {before after : List Note}
    {note : Note} (split : notes = before ++ note :: after)
    (unreserved : ¬s.ledger.Reserved s.schema m before) :
    ∃ request reply, note = .asked request reply ∧ s.ledger.RecordRequest s.schema m request := by
  have within {first rest : List Note} (asks : AsksAlone (s.ledger.RecordRequest s.schema m) first)
      (reserved : s.ledger.Reserved s.schema m first)
      (split : first ++ rest = before ++ note :: after) :
      ∃ request reply, note = .asked request reply ∧
        s.ledger.RecordRequest s.schema m request := by
    rcases split_around split with ⟨between, rfl, _⟩ | ⟨between, rfl, _⟩
    · exact absurd (reserved.append between) unreserved
    · exact asks note (by simp)
  cases around with
  | unreserved asks => exact asks note (split ▸ by simp)
  | unread asks reserved _ => exact within asks reserved split
  | @read looking inserting reads rest _ _ asks reserved _ _ _ =>
      obtain ⟨answer, confirmed, member⟩ := reserved
      rw [← List.append_assoc, ← List.append_assoc, List.append_assoc] at split
      exact within asks ⟨answer, confirmed, List.mem_append_right looking member⟩ split

/-- A start reserves the schema before it does anything else: until the server has confirmed the
record with a row, it asks the ledger which migration is in progress and to record its own. From
then on it reads a snapshot, and until that is accepted it runs no hook and makes no change; all it
may do is to erase its entry. So where validation is on and rejects the snapshot that the ledger
gave, erasing the entry is all that follows, and the error is the rejection, together with the
failure to erase the entry where no entry was erased. -/
theorem start_reserves_then_accepts (shown : (s.start m).Shows notes outcome) :
    (∀ before note after, notes = before ++ note :: after →
      ¬s.ledger.Reserved s.schema m before →
        ∃ request reply, note = .asked request reply ∧
          s.ledger.RecordRequest s.schema m request) ∧
    (∀ before note after, notes = before ++ note :: after → ¬s.Accepted m before →
      ∃ request reply, note = .asked request reply ∧ s.UnacceptedRequest m request) ∧
    (∀ looking starting rest snapshot cause, notes = looking ++ (starting ++ rest) →
      s.Opens m looking starting snapshot → s.config.skipValidation = false →
      m.validate snapshot = .error cause →
        AsksAlone (· = s.ledger.request (.erase s.schema m.name)) rest ∧
        ((s.ledger.Erased s.schema m.name rest ∧ outcome = .error (.validation cause)) ∨
          (¬s.ledger.Erased s.schema m.name rest ∧ ∃ rollback,
            (s.ledger.rollback s.schema m.name).Dialogue rest (.error rollback) ∧
              outcome = .error (.startNotUndone (.validation cause) rollback)))) := by
  have around := aroundOpening_of_start shown.dialogue
  refine ⟨fun _ _ _ => unreserved_of_around around, fun _ _ _ => unaccepted_of_around around, ?_⟩
  rintro looking starting rest snapshot cause rfl opens checks invalid
  obtain ⟨result, erasing, same⟩ :=
    dialogue_startWith_of_invalid checks invalid (dialogue_after_opening opens shown.dialogue)
  obtain ⟨asks, erased⟩ := dialogue_erase erasing
  refine ⟨asks, ?_⟩
  cases result with
  | ok value => exact .inl ⟨erased.mp rfl, same⟩
  | error rollback =>
      refine .inr ⟨fun found => ?_, rollback, erasing, same⟩
      cases erased.mpr found

/-- A server whose schema has a table of users already. -/
def holdingUsers : Request → Except ServerError Answer :=
  reporting .withUsers .createsUsers fun _ => .ok .none

/-- What the start of a migration that creates the table again does after it knows the snapshot. -/
def afterTakenTable : List Note :=
  (usual.ledger.rollback usual.schema "create_users").notesWith holdingUsers

/-- Its entry is erased, and the start fails with the rejection. -/
theorem start_of_taken_table :
    (usual.start .createsUsers).Shows ((usual.start .createsUsers).notesWith holdingUsers)
      (.error (.validation (.tableAlreadyExists "users"))) ∧
    usual.Opens .createsUsers ((usual.ledger.isActive usual.schema).notesWith holdingUsers)
      ((usual.ledger.start usual.schema .createsUsers).notesWith holdingUsers) .withUsers ∧
    AsksAlone (· = usual.ledger.request (.erase usual.schema "create_users")) afterTakenTable ∧
      usual.ledger.Erased usual.schema "create_users" afterTakenTable := by
  have shown : (usual.start .createsUsers).Shows
      ((usual.start .createsUsers).notesWith holdingUsers)
      (.error (.validation (.tableAlreadyExists "users"))) := shows_of_outcomeWith rfl
  have opens : usual.Opens .createsUsers
      ((usual.ledger.isActive usual.schema).notesWith holdingUsers)
      ((usual.ledger.start usual.schema .createsUsers).notesWith holdingUsers) .withUsers :=
    ⟨(shows_of_outcomeWith rfl).dialogue, (shows_of_outcomeWith rfl).dialogue⟩
  obtain ⟨asks, ended⟩ := (start_reserves_then_accepts shown).2.2 _ _ afterTakenTable _
    (.tableAlreadyExists "users") rfl opens rfl rfl
  obtain ⟨erased, _⟩ | ⟨_, _, _, impossible⟩ := ended
  · exact ⟨shown, opens, asks, erased⟩
  · cases impossible

end MigrationSession

end ExpandContract
