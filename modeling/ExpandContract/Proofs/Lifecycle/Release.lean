import ExpandContract.Proofs.Ledger.Answers
import ExpandContract.Proofs.Lifecycle.Courses

/-!
# Entries that are released

The entry that a start records reserves the schema: as long as it is there and not done, no other
migration can be started. A start that fails should therefore erase its entry, or say that it could
not.

It does so from the moment it knows the snapshot. A failure before that, while the parent of the
entry or the snapshot is read, leaves the entry as it is and is reported like any other failure
(`start_released_iff`).
-/

set_option autoImplicit false

namespace ExpandContract.MigrationSession

open Session Procedure Sql

variable {s : MigrationSession} {m : Migration} {notes before after : List Note} {answer : Answer}
  {error : Error}

/-- The entry of the migration has been erased: the entry of that name, or of the name that the
server itself has told for the active migration. -/
def Released (s : MigrationSession) (m : Migration) (notes : List Note) : Prop :=
  ∃ name, (name = m.name ∨ ∃ active, s.ledger.Tells s.schema active notes ∧ name = active.name) ∧
    s.ledger.Erased s.schema name notes

/-- The error says that the migration was not rolled back. -/
def SaysNotUndone (error : Error) : Prop :=
  ∃ cause rollback, error = .startNotUndone cause rollback

/-! ## No second record -/

theorem not_recorded_of_reads (asked : AskedOnly (s.ledger.ReadsSnapshot s.schema) notes) :
    ¬s.ledger.Recorded s.schema m notes :=
  Ledger.not_recorded_of_asks asked fun reads => Ledger.not_reads_insertion reads.reads

theorem not_recorded_of_expand (asked : AskedOnly (s.ExpandRequest m) notes) :
    ¬s.ledger.Recorded s.schema m notes := by
  refine Ledger.not_recorded_of_asks asked fun expands => ?_
  generalize same : s.ledger.insertion s.schema m = request at expands
  cases expands with
  | starts _ _ => cases same
  | snapshot reads => exact Ledger.not_reads_insertion (same ▸ reads.reads)
  | hook hook =>
      obtain ⟨_, _, _, _, isRaw⟩ := hook
      cases same.trans isRaw
  | version => cases same
  | backfill fills =>
      subst same
      cases fills

theorem not_recorded_of_rollback {outcome : Except Error Unit}
    (dialogue : s.rollback.Dialogue notes outcome) : ¬s.ledger.Recorded s.schema m notes := by
  refine Ledger.not_recorded_of_asks (asksOnly_rollback notes outcome dialogue) fun rolls => ?_
  generalize same : s.ledger.insertion s.schema m = request at rolls
  cases rolls with
  | undo _ => cases same
  | finish finishes =>
      cases finishes with
      | reads reads => exact Ledger.not_reads_insertion (same ▸ reads)
      | hasSchema => cases same
      | version => cases same
      | erase => cases same

/-- A start records its migration once. -/
theorem not_recorded_of_fails (course : s.FailsAfterRecord m notes error) :
    ¬s.ledger.Recorded s.schema m notes := by
  cases course with
  | unread asks _ => exact not_recorded_of_reads asks
  | rejected asks erases =>
      refine Ledger.not_recorded_append (not_recorded_of_reads asks) ?_
      refine Ledger.not_recorded_of_asks (Ledger.asksOnly_rollback _ _ erases) ?_
      intro same
      cases same
  | undone asks undoes =>
      exact Ledger.not_recorded_append (not_recorded_of_expand asks)
        (not_recorded_of_rollback undoes)

/-! ## Released or not -/

theorem not_released_of_reads (asked : AskedOnly (s.ledger.ReadsSnapshot s.schema) notes) :
    ¬s.Released m notes := by
  rintro ⟨name, _, answer, _, member⟩
  rcases asked _ _ member with same | ⟨_, same⟩
  · cases same
  · cases same

/-- Once the migration is recorded, a failed start says whether it released the entry: it did, or
says that it could not, just if the error is of a kind that tells so. Otherwise it has done nothing
but read. -/
theorem released_iff_of_fails (course : s.FailsAfterRecord m notes error) :
    ((s.Released m notes ∨ SaysNotUndone error) ↔ error.tellsOfUndoing = true) ∧
      (error.tellsOfUndoing = false → AskedOnly (s.ledger.ReadsSnapshot s.schema) notes) := by
  cases course with
  | unread asks untold =>
      refine ⟨⟨?_, fun told => absurd told (by simp [untold])⟩, fun _ => asks⟩
      rintro (released | ⟨cause, rollback, rfl⟩)
      · exact absurd released (not_released_of_reads asks)
      · cases untold
  | @rejected reads erasing cause outcome asks erases =>
      cases outcome with
      | ok value =>
          refine ⟨⟨fun _ => rfl, fun _ => .inl ⟨m.name, .inl rfl, ?_⟩⟩,
            fun untold => by cases untold⟩
          exact (Ledger.erased_of_dialogue erases).mono (List.subset_append_right ..)
      | error rollback =>
          exact ⟨⟨fun _ => rfl, fun _ => .inr ⟨_, _, rfl⟩⟩, fun untold => by cases untold⟩
  | @undone forward back cause outcome asks undoes =>
      cases outcome with
      | ok value =>
          obtain ⟨active, tells, erased⟩ := erased_of_rollback undoes
          have part := List.subset_append_right forward back
          refine ⟨⟨fun _ => rfl, fun _ => .inl ⟨active.name, ?_, erased.mono part⟩⟩,
            fun untold => by cases untold⟩
          exact .inr ⟨active, tells.mono part, rfl⟩
      | error rollback =>
          exact ⟨⟨fun _ => rfl, fun _ => .inr ⟨_, _, rfl⟩⟩, fun untold => by cases untold⟩

/-- A start that fails after the server has recorded its migration has released the entry since, or
says that it could not, if and only if its error is of a kind that tells of an undoing. With any
other error it has only tried to read the snapshot since, and the entry is left as it is. -/
theorem start_released_iff (shown : (s.start m).Shows notes (.error error))
    (recorded : notes = before ++ .asked (s.ledger.insertion s.schema m) (.ok answer) :: after) :
    ((s.Released m after ∨ SaysNotUndone error) ↔ error.tellsOfUndoing = true) ∧
      (error.tellsOfUndoing = false → AskedOnly (s.ledger.ReadsSnapshot s.schema) after) := by
  subst recorded
  generalize split : before ++ Note.asked (s.ledger.insertion s.schema m) (.ok answer) :: after =
    notes at shown
  cases dialogue_start shown.dialogue with
  | unrecorded _ never => exact absurd ⟨answer, split ▸ by simp⟩ never
  | recorded _ notBefore goesOn =>
      cases goesOn with
      | fails course =>
          cases Ledger.recorded_once split.symm notBefore (not_recorded_of_fails course)
          exact released_iff_of_fails course

/-- What is noted of the start of a migration that is not allowed to create its table. -/
def refusedNotes : List Note :=
  (usual.start .createsUsers).notesWith (refusingTables (.ofName "public") .createsUsers)

/-- A start whose first change is refused releases its entry. -/
theorem released_of_refused_table :
    (usual.start .createsUsers).Shows refusedNotes
      (.error (.startFailed (.database (.server ⟨"42501", "permission denied"⟩)))) ∧
    (usual.Released .createsUsers (refusedNotes.drop 2) ∨
      SaysNotUndone (.startFailed (.database (.server ⟨"42501", "permission denied"⟩)))) := by
  have shown : (usual.start .createsUsers).Shows refusedNotes
      (.error (.startFailed (.database (.server ⟨"42501", "permission denied"⟩)))) :=
    shows_of_outcomeWith rfl
  have recorded : refusedNotes = refusedNotes.take 1 ++
      .asked (usual.ledger.insertion usual.schema .createsUsers) (.ok (.ofRow [none])) ::
        refusedNotes.drop 2 := rfl
  exact ⟨shown, (start_released_iff shown recorded).1.mpr rfl⟩

/-- A server whose ledger holds a snapshot that cannot be read, for the parent of every entry. -/
def unreadable : Request → Except ServerError Answer
  | .ledger _ (.insertMigration _ _ _) => .ok (.ofRow [some (.string "parent")])
  | .ledger _ (.recordedSnapshot _ _) => .ok (.ofRow [some (.bool true)])
  | request => reporting (.ofName "public") .createsUsers (fun _ => .ok .none) request

/-- A start that cannot read the snapshot of the parent leaves its entry as it is, and does not say
so. -/
theorem not_released_of_unreadable :
    ∃ before after answer, (usual.start .createsUsers).Shows
      (before ++ .asked (usual.ledger.insertion usual.schema .createsUsers) (.ok answer) :: after)
      (.error .serialization) ∧
    ¬(usual.Released .createsUsers after ∨ SaysNotUndone .serialization) := by
  have shown : (usual.start .createsUsers).Shows
      ((usual.start .createsUsers).notesWith unreadable) (.error .serialization) :=
    shows_of_outcomeWith rfl
  have split : (usual.start .createsUsers).notesWith unreadable =
      [.asked (usual.ledger.request (.isActive usual.schema))
        (.ok (.ofRow [some (.bool false)]))] ++
        .asked (usual.ledger.insertion usual.schema .createsUsers)
          (.ok (.ofRow [some (.string "parent")])) ::
        [.asked (usual.ledger.request (.recordedSnapshot usual.schema "parent"))
          (.ok (.ofRow [some (.bool true)]))] := rfl
  have asked : AskedOnly (usual.ledger.ReadsSnapshot usual.schema)
      [.asked (usual.ledger.request (.recordedSnapshot usual.schema "parent"))
        (.ok (.ofRow [some (.bool true)]))] := by
    intro request reply member
    cases List.mem_singleton.mp member
    exact .inr ⟨_, rfl⟩
  rw [split] at shown
  refine ⟨_, _, _, shown, ?_⟩
  rintro (released | ⟨_, _, impossible⟩)
  · exact not_released_of_reads asked released
  · cases impossible

end ExpandContract.MigrationSession
