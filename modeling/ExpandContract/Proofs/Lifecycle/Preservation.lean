import ExpandContract.Proofs.Catalogue.Losing
import ExpandContract.Proofs.Ledger.Answers
import ExpandContract.Proofs.Lifecycle.Compensation
import ExpandContract.Proofs.Migration.Stalling

/-!
# What a rollback leaves in place

A rollback finds the objects of the migration by their names alone, so it may drop an object that
was there before the start. This module says for which migrations it never does, wherever the start
has failed and whoever has called the rollback (`Spares`): those that are fresh for the catalogue
(`spares_iff_fresh`). A migration may be valid without being fresh, because it may drop or rename an
object and then give the name to a new one.
-/

set_option autoImplicit false

namespace ExpandContract.MigrationSession

open Session Procedure Sql

variable {s : MigrationSession} {m : Migration} {snapshot played : Schema} {notes : List Note}

/-- A start that goes on with a snapshot and may fail at any point, and a rollback after it. -/
def startAndRollback (s : MigrationSession) (m : Migration) (snapshot : Schema) :
    Procedure Unit :=
  (s.startWith m snapshot).attempt.bind fun _ => s.rollback

/-- Whatever the server replies, as long as it tells no other migration to be the active one, no
accepted change takes away a table, a column or an index that the snapshot shows. -/
def Spares (s : MigrationSession) (m : Migration) (snapshot : Schema) : Prop :=
  ∀ notes outcome, (s.startAndRollback m snapshot).Shows notes outcome →
    (∀ active, s.ledger.Tells s.schema active notes → active = m) →
      ∀ accepted, accepted <+: acceptedChanges notes →
        (Catalogue.ofSchema snapshot).Keeps ((Catalogue.ofSchema snapshot).after accepted)

/-! ## Fresh migrations -/

/-- The changes that starts and rollbacks of a migration make: those of its operations, and others
that are not about the objects of a catalogue. -/
def Makes (s : MigrationSession) (m : Migration) (statement : Change) : Prop :=
  (∃ op ∈ m.operations, op.Starts (s.phaseContext m) statement ∨
    statement ∈ op.undo (s.phaseContext m)) ∨ ∀ c : Catalogue, c.apply statement = c

theorem makes_of_undoPlan {statement : Change} (member : statement ∈ s.undoPlan m) :
    s.Makes m statement := by
  rcases List.mem_append.mp member with version | undoes
  · split at version
    · cases List.mem_singleton.mp version
      exact .inr fun _ => rfl
    · cases version
  · obtain ⟨op, among, undoes⟩ := List.mem_flatMap.mp undoes
    exact .inl ⟨op, among, .inr undoes⟩

theorem makes_of_expand (asked : AskedOnly (s.ExpandRequest m) notes) {statement : Change}
    {reply : Except ServerError Answer} (member : Note.asked (.change statement) reply ∈ notes) :
    s.Makes m statement := by
  have expands := asked _ reply member
  generalize same : Request.change statement = request at expands
  cases expands with
  | starts among starts =>
      cases same
      exact .inl ⟨_, among, .inl starts⟩
  | snapshot reads => exact absurd (same ▸ reads.reads) (not_reads_change statement)
  | hook hook =>
      obtain ⟨_, _, _, _, isRaw⟩ := hook
      cases same.trans isRaw
      exact .inr fun _ => rfl
  | version =>
      cases same
      exact .inr fun _ => rfl
  | backfill fills =>
      subst same
      cases fills

theorem makes_of_rollback {outcome : Except Error Unit}
    (dialogue : s.rollback.Dialogue notes outcome)
    (told : ∀ active, s.ledger.Tells s.schema active notes → active = m) {statement : Change}
    {reply : Except ServerError Answer} (member : Note.asked (.change statement) reply ∈ notes) :
    s.Makes m statement := by
  rcases undoes_of_dialogue dialogue with ⟨still, _⟩ | ⟨active, undoes⟩
  · exact absurd member (still statement reply)
  · cases told active undoes.tells
    rcases undoes.asks statement reply member with inPlan | ⟨version, rfl⟩
    · exact makes_of_undoPlan inPlan
    · exact .inr fun _ => rfl

theorem makes_of_goesOn {result : Except Error (List Backfill.Progress)}
    (goesOn : s.GoesOn m notes result)
    (told : ∀ active, s.ledger.Tells s.schema active notes → active = m) {statement : Change}
    {reply : Except ServerError Answer} (member : Note.asked (.change statement) reply ∈ notes) :
    s.Makes m statement := by
  have unread {reads : List Note} (asked : AskedOnly (s.ledger.ReadsSnapshot s.schema) reads)
      (member : Note.asked (.change statement) reply ∈ reads) : s.Makes m statement :=
    absurd (asked _ reply member).reads (not_reads_change statement)
  cases goesOn with
  | succeeds asked => exact makes_of_expand asked member
  | fails course =>
      cases course with
      | unread asked _ => exact unread asked member
      | rejected asked erases =>
          rcases List.mem_append.mp member with early | late
          · exact unread asked early
          · cases Ledger.asksOnly_rollback _ _ erases _ reply late
      | @undone forward back _ _ asked undoes =>
          rcases List.mem_append.mp member with early | late
          · exact makes_of_expand asked early
          · apply makes_of_rollback undoes _ late
            intro active tells
            exact told active (tells.mono (List.subset_append_right ..))

/-- One change after the other, the objects of the catalogue are spared. -/
theorem spared_of_makes {before c : Catalogue} {statement : Change} (fresh : Fresh before m)
    (spared : Spared before c) (makes : s.Makes m statement) :
    Spared before (c.apply statement) := by
  rcases makes with ⟨op, among, starts | undoes⟩ | neutral
  · exact spared_of_starts spared starts
  · exact spared_of_undo fresh spared among undoes
  · rw [neutral c]
    exact spared

/-- A fresh migration is started and rolled back without a loss. -/
theorem spares_of_fresh (fresh : Fresh (.ofSchema snapshot) m) : s.Spares m snapshot := by
  intro notes outcome shown told accepted beginning
  have makes {statement : Change} {reply : Except ServerError Answer}
      (member : Note.asked (.change statement) reply ∈ notes) : s.Makes m statement := by
    obtain ⟨first, rest, tried, rfl, started, rolled⟩ := dialogue_attempt_bind.mp shown.dialogue
    rcases List.mem_append.mp member with early | late
    · have goesOn := dialogue_startWith .nil started
      apply makes_of_goesOn goesOn _ early
      intro active tells
      exact told active (tells.mono (List.subset_append_left ..))
    · apply makes_of_rollback rolled _ late
      intro active tells
      exact told active (tells.mono (List.subset_append_right ..))
  apply Spared.keeps
  apply Catalogue.after_induction (Spared (.ofSchema snapshot)) (.refl _)
  intro c statement member spared
  obtain ⟨answer, asked⟩ := mem_acceptedChanges.mp (beginning.subset member)
  exact spared_of_makes fresh spared (makes asked)

/-! ## Migrations that are not fresh -/

/-- A server that refuses the changes of starts and accepts all others. -/
def refusingStarts (snapshot : Schema) (m : Migration) : Request → Except ServerError Answer :=
  reporting snapshot m fun statement =>
    if statement.expands then .error ⟨"42501", "permission denied"⟩ else .ok .none

theorem refusesStarts_refusingStarts : RefusesStarts (refusingStarts snapshot m) where
  refuses statement expands := ⟨_, if_pos expands, by decide⟩
  accepts statement undoes := ⟨_, if_neg (by simp [undoes])⟩

section Refused

variable {answer : Request → Except ServerError Answer}
  (refuses : ∀ statement : Change, statement.expands = true → Refuses answer statement)
  (reads : (s.ledger.readSchema s.schema).Stalls answer False)
include refuses reads

theorem stalls_startOperations {ctx : PhaseContext} {operations : List Operation}
    (ofUser : ∀ op ∈ operations, op.isRawSql = true → ∀ sql, Refuses answer (.raw sql))
    (snapshot : Schema) :
    (s.startOperations ctx operations snapshot).Stalls answer
      (∃ op ∈ operations, op.startsChange = true) := by
  induction operations generalizing snapshot with
  | nil => exact (Stalls.done _).mono fun ⟨_, member, _⟩ => by cases member
  | cons op rest ih =>
      have first : (op.start ctx snapshot).Stalls answer (op.startsChange = true) :=
        op.stalls_start refuses (ofUser op List.mem_cons_self)
      have between (started : Started) : (s.snapshotAfter op started).Stalls answer False := by
        unfold snapshotAfter
        split
        · exact reads
        · exact .done _
      have later := ih fun other member => ofUser other (List.mem_cons_of_mem _ member)
      rw [startOperations_cons]
      refine .mono (.bind first fun started => .bind_idle (between started) fun snapshot =>
        .bind (later snapshot) fun _ => .done _) ?_
      rintro ⟨other, member, asks⟩
      rcases List.mem_cons.mp member with rfl | member
      · exact .inl asks
      · exact .inr (.inl ⟨other, member, asks⟩)

/-- An expansion that has a change to ask for fails, and has changed nothing. -/
theorem stalls_expand
    (ofUser : ∀ op ∈ m.operations, op.isRawSql = true → ∀ sql, Refuses answer (.raw sql))
    (unhooked : s.config.hooks = []) (asks : ∃ op ∈ m.operations, op.startsChange = true) :
    (s.expand m snapshot).Stalls answer True := by
  unfold expand
  simp only [runPhaseHooks_eq unhooked, pure_bind]
  exact .bind_failed
    ((stalls_startOperations refuses reads ofUser snapshot).mono fun _ => asks) _

end Refused

theorem stalls_readSchema {l : Ledger} {name : String}
    {changes : Change → Except ServerError Answer} :
    (l.readSchema name).Stalls (reporting snapshot m changes) False :=
  Ledger.yields_readSchema.mono fun _ _ ⟨shown, ended⟩ => ⟨by rw [shown]; rfl, False.elim⟩

section Refused

variable {answer : Request → Except ServerError Answer} (refusing : RefusesStarts answer)
include refusing

theorem carries_undoChanges (known : ∀ op ∈ m.operations, op.isRawSql = false) :
    (s.undoChanges m).Carries answer (s.undoPlan m) := by
  have undone {operations : List Operation} (among : operations ⊆ m.operations) :
      (rollbackOperations (s.phaseContext m) operations).Carries answer
        (operations.flatMap (Operation.undo (s.phaseContext m))) := by
    induction operations with
    | nil => exact .done
    | cons op rest ih =>
        obtain ⟨first, others⟩ := List.cons_subset.mp among
        exact .bind (op.carries_rollback refusing (known op first)) (ih others)
  unfold undoChanges undoPlan
  split
  · exact .bind (refusing.carries_change rfl) (undone fun _ member => member)
  · exact .bind .done (undone fun _ member => member)

end Refused

/-- A rollback then undoes the whole migration. -/
theorem carries_rollback (known : ∀ op ∈ m.operations, op.isRawSql = false) :
    s.rollback.Carries (refusingStarts snapshot m) (s.undoPlan m) := by
  have erased : (s.ledger.rollback s.schema m.name).Carries (refusingStarts snapshot m) [] :=
    Ledger.yields_rollback.mono fun _ _ ⟨shown, ended⟩ => ⟨by rw [shown]; rfl, ended⟩
  have restored : s.restorePreviousVersion.Carries (refusingStarts snapshot m) [] := by
    unfold restorePreviousVersion
    split
    · exact .done
    · exact .bind_yields Ledger.yields_previousVersion rfl .done
  rw [rollback_eq]
  refine .bind_yields Ledger.yields_activeMigration rfl ?_
  have whole := Carries.bind (carries_undoChanges (s := s) refusesStarts_refusingStarts known)
    (Carries.bind restored erased)
  rw [List.append_nil, List.append_nil] at whole
  exact whole

/-- The start of a valid migration that has a change to make fails at its first one, and is rolled
back nevertheless. -/
theorem ends_startAndRollback (known : ∀ op ∈ m.operations, op.isRawSql = false)
    (unhooked : s.config.hooks = []) (validated : m.validated snapshot = .ok played)
    (asks : ∃ op ∈ m.operations, op.startsChange = true) :
    (s.startAndRollback m snapshot).Ends (.answering (refusingStarts snapshot m)) fun events _ =>
      s.undoPlan m <+: acceptedAmong (refusingStarts snapshot m) events := by
  have rolled : s.rollback.attempt.Ends (.answering (refusingStarts snapshot m))
      fun events tried => tried = .ok (.ok ()) ∧
        acceptedAmong (refusingStarts snapshot m) events = s.undoPlan m :=
    (Ends.attempt (carries_rollback known)).mono
      fun _ _ ⟨_, tried, same, ended⟩ => ⟨by rw [tried, ended], same⟩
  have undone (cause : Error) : (s.undoStart cause : Procedure (List Table)).Ends
      (.answering (refusingStarts snapshot m)) fun events outcome =>
        acceptedAmong (refusingStarts snapshot m) events = s.undoPlan m ∧
          ∃ error, outcome = .error error := by
    refine Ends.bind rolled ?_ ?_
    · rintro events _ ⟨⟨⟩, same⟩
      exact .fail ⟨by rw [List.append_nil]; exact same, _, rfl⟩
    · rintro events error ⟨impossible, _⟩
      cases impossible
  have changed : (s.expandOrUndo m snapshot).Ends (.answering (refusingStarts snapshot m))
      fun events outcome => acceptedAmong (refusingStarts snapshot m) events = s.undoPlan m ∧
        ∃ error, outcome = .error error := by
    rw [expandOrUndo_of_validated validated]
    have stalls : (s.expand m snapshot).Stalls (refusingStarts snapshot m) True := by
      apply stalls_expand refusesStarts_refusingStarts.refuses stalls_readSchema _ unhooked asks
      intro op member raw
      rw [known op member] at raw
      cases raw
    refine Ends.bind stalls.attempt ?_ ?_
    · rintro events _ ⟨_, ⟨⟩, quiet, fails⟩
      obtain ⟨cause, rfl⟩ := fails trivial
      refine (undone cause).mono ?_
      rintro later outcome ⟨same, failed⟩
      exact ⟨by rw [acceptedAmong_append, quiet, same]; rfl, failed⟩
    · rintro events error ⟨_, impossible, _⟩
      cases impossible
  have started : (s.startWith m snapshot).Ends (.answering (refusingStarts snapshot m))
      fun events _ => acceptedAmong (refusingStarts snapshot m) events = s.undoPlan m := by
    refine Ends.bind changed ?_ ?_
    · rintro events value ⟨_, _, impossible⟩
      cases impossible
    · rintro events error ⟨same, _⟩
      exact same
  refine Ends.bind started.attempt ?_ ?_
  · rintro events _ ⟨_, _, same⟩
    refine (carries_rollback known).mono ?_
    rintro later outcome ⟨_, _⟩
    rw [acceptedAmong_append, same]
    exact List.prefix_append _ _
  · rintro events error ⟨_, impossible, _⟩
    cases impossible

/-- The changes that undo an operation stand together in those that undo the migration. -/
theorem undoPlan_split {op : Operation} (member : op ∈ m.operations) :
    ∃ earlier later, s.undoPlan m = earlier ++ op.undo (s.phaseContext m) ++ later := by
  obtain ⟨first, rest, among⟩ := List.append_of_mem member
  refine ⟨(if s.config.keepsVersionSchema m then
    [.dropVersionSchema (m.versionSchemaName s.schema)] else []) ++
      first.flatMap (Operation.undo (s.phaseContext m)),
    rest.flatMap (Operation.undo (s.phaseContext m)), ?_⟩
  rw [undoPlan, among, List.flatMap_append, List.flatMap_cons]
  simp only [List.append_assoc]

/-- A migration that is not fresh loses something that was there before, with the server that
refuses what starts do. -/
theorem fresh_of_spares (known : ∀ op ∈ m.operations, op.isRawSql = false)
    (unhooked : s.config.hooks = []) (validated : m.validated snapshot = .ok played)
    (leaves : LeavesParking (.ofSchema snapshot) m) (spares : s.Spares m snapshot) :
    Fresh (.ofSchema snapshot) m := by
  apply fresh_of_undo_keeps (s.phaseContext m) leaves (Catalogue.untouched_ofSchema snapshot)
  intro op member makes
  obtain ⟨events, outcome, shown, whole⟩ :=
    (ends_startAndRollback known unhooked validated
      ⟨op, member, op.startsChange_of_makesObject makes⟩).shows
  obtain ⟨earlier, later, plan⟩ := undoPlan_split (s := s) member
  refine ⟨(Catalogue.ofSchema snapshot).after earlier, ?_, ?_⟩
  · apply Catalogue.after_induction (fun c => c.Within (.ofSchema snapshot)) (.refl _)
    intro c statement undoes within
    have inPlan : statement ∈ s.undoPlan m := by
      rw [plan]
      exact List.mem_append_left _ (List.mem_append_left _ undoes)
    rcases List.mem_append.mp inPlan with version | undoes
    · split at version
      · cases List.mem_singleton.mp version
        exact within
      · cases version
    · obtain ⟨other, _, undoes⟩ := List.mem_flatMap.mp undoes
      exact within_of_undo leaves within undoes
  · rw [← Catalogue.after_append]
    refine spares _ outcome shown (fun active tells => Ledger.eq_of_tells_reporting tells) _ ?_
    exact (List.prefix_append _ later).trans (plan ▸ whole)

/-- A valid migration without SQL of the user loses nothing that was there before, wherever
its start has failed, if it is fresh for the catalogue. This is the only case, provided
that parked names are left alone and no hooks interfere: any other migration loses
something with some server. -/
theorem spares_iff_fresh (known : ∀ op ∈ m.operations, op.isRawSql = false)
    (validated : m.validated snapshot = .ok played) :
    (Fresh (.ofSchema snapshot) m → s.Spares m snapshot) ∧
      (s.config.hooks = [] → LeavesParking (.ofSchema snapshot) m →
        (s.Spares m snapshot ↔ Fresh (.ofSchema snapshot) m)) :=
  ⟨spares_of_fresh, fun unhooked leaves =>
    ⟨fresh_of_spares known unhooked validated leaves, spares_of_fresh⟩⟩

/-- A migration that adds a column to the table of users. -/
def addsEmail : Migration :=
  { name := "add_email"
    versionSchema := none
    operations := [.addColumn
      { table := "users"
        column := { ColumnDefinition.ofType "email" "text" with nullable := true }
        up := none }] }

theorem fresh_addsEmail : Fresh (.ofSchema .withUsers) addsEmail := by
  refine ⟨?_, ?_, ?_⟩
  · intro op member
    cases List.mem_singleton.mp member
  · intro op member name _ table found
    cases List.mem_singleton.mp member
    by_cases same : name = "users"
    · subst same
      cases found
      exact ⟨rfl, rfl⟩
    · have none : (Catalogue.ofSchema .withUsers).tables.find? name = Option.none := by
        change ((NameMap.empty.insert "users" _).map StoredTable.ofTable).find? name = Option.none
        rw [NameMap.find?_map, NameMap.find?_insert_of_ne _ same]
        rfl
      rw [none] at found
      cases found
  · intro op member
    cases List.mem_singleton.mp member

/-- A column that is added under a new name can be taken back without a loss. -/
theorem spares_addsEmail :
    (∀ op ∈ addsEmail.operations, op.isRawSql = false) ∧
      (∃ played, addsEmail.validated .withUsers = .ok played) ∧
        usual.Spares addsEmail .withUsers := by
  have known : ∀ op ∈ addsEmail.operations, op.isRawSql = false := by decide
  obtain ⟨played, validated⟩ : ∃ played, addsEmail.validated .withUsers = .ok played := ⟨_, rfl⟩
  exact ⟨known, ⟨played, validated⟩, (spares_iff_fresh known validated).1 fresh_addsEmail⟩

/-- A migration that drops the table of users and creates it anew. -/
def recreatesUsers : Migration :=
  { name := "recreate_users"
    versionSchema := none
    operations := [.dropTable { name := "users" },
      .createTable { name := "users", columns := [.ofType "id" "bigint"], comment := none }] }

/-- What is noted of it, and of the rollback, if the server refuses to create tables. -/
def recreationNotes : List Note :=
  (usual.startAndRollback recreatesUsers .withUsers).notesWith
    (refusingTables .withUsers recreatesUsers)

/-- The first undoing brings the old table back under its name, and the second one drops it. -/
theorem acceptedChanges_recreation :
    acceptedChanges recreationNotes =
      [.renameTable "public" "users" "_pgshift_del_users" false,
        .dropVersionSchema "public_recreate_users",
        .renameTable "public" "_pgshift_del_users" "users" true, .dropTable "public" "users"] ++
      [.dropVersionSchema "public_recreate_users",
        .renameTable "public" "_pgshift_del_users" "users" true, .dropTable "public" "users"] := rfl

/-- The table of users is lost when the migration that creates it anew fails to do so, though the
migration is valid. -/
theorem not_spares_recreatesUsers :
    (∃ played, recreatesUsers.validated .withUsers = .ok played) ∧
      ¬usual.Spares recreatesUsers .withUsers := by
  refine ⟨⟨_, rfl⟩, fun spares => ?_⟩
  have shown : (usual.startAndRollback recreatesUsers .withUsers).Shows recreationNotes (.ok ()) :=
    shows_of_outcomeWith rfl
  have keeps := spares _ _ shown (fun active tells => Ledger.eq_of_tells_reporting tells) _
    (acceptedChanges_recreation ▸ List.prefix_append _ _)
  obtain ⟨place, held, there, _⟩ := keeps "users" _ rfl
  cases there

end ExpandContract.MigrationSession
