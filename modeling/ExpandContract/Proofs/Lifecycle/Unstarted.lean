import ExpandContract.Proofs.Lifecycle.Preservation
import ExpandContract.Proofs.Lifecycle.Undoing

/-!
# What a rollback undoes that was never started

A start that fails once its migration is valid is rolled back (`Compensated`). Nothing is recorded
about how far it got, so the rollback works through all operations of the active migration, from the
first to the last. It is meant to undo what the start has done. An operation of which the server has
accepted no change has done nothing, and still its undoing is asked for: a table that the start
failed to create is dropped, and SQL that undoes other SQL is run though that was refused
(`undone_though_refused`).

Nothing else is undone than what was started (`UndoesOnlyStarted`) if every operation with something
to undo was started before the failure (`AllStarted`). A start whose operations have all gone
through is such a case (`startAccepted_of_passed`). Where the rollback succeeds this is the only
case, and every migration that may start and has something to undo can fail before it was started
(`undoes_only_started_iff`).
-/

set_option autoImplicit false

namespace ExpandContract.MigrationSession

open Session Procedure Sql

variable {s : MigrationSession} {m active : Migration} {snapshot : Schema} {error : Error}
  {notes forward back : List Note} {place : Nat} {op : Operation}

/-! ## Operations that were started -/

/-- What a start does with a snapshot before it starts the operation at a place. -/
def startBefore (s : MigrationSession) (m : Migration) (snapshot : Schema) (place : Nat) :
    Procedure Schema :=
  (s.runPhaseHooks .beforeStart).bind fun _ =>
    (s.startOperations (s.phaseContext m) (m.operations.take place) snapshot).bind fun result =>
      .done result.2

/-- The server has accepted a change that the operation at a place asked for when it was started. -/
def StartAccepted (s : MigrationSession) (m : Migration) (snapshot : Schema) (place : Nat)
    (forward : List Note) : Prop :=
  ∃ op between share, m.operations[place]? = some op ∧
    Behind (s.startBefore m snapshot place) between (op.start (s.phaseContext m) between) share
      forward ∧
    acceptedChanges share ≠ []

/-- The rollback asks for no change to undo an operation that was not started. -/
def UndoesOnlyStarted (s : MigrationSession) (m : Migration) (snapshot : Schema)
    (forward back : List Note) : Prop :=
  ∀ active place, s.AsksToUndo active place back →
    active = m ∧ s.StartAccepted m snapshot place forward

/-- Every operation that the rollback has to undo was started. -/
def AllStarted (s : MigrationSession) (m : Migration) (snapshot : Schema)
    (forward back : List Note) : Prop :=
  ∀ active, s.RollsBack active back → ∀ place op, (s.undoable active)[place]? = some op →
    op.undo (s.phaseContext active) ≠ [] → active = m ∧ s.StartAccepted m snapshot place forward

theorem undoesOnlyStarted_of_allStarted (all : s.AllStarted m snapshot forward back) :
    s.UndoesOnlyStarted m snapshot forward back := by
  intro active place asks
  obtain ⟨rolls, op, found, undoes⟩ := undo_of_asksToUndo asks
  exact all active rolls place op found undoes

theorem allStarted_of_undoesOnlyStarted (dialogue : s.rollback.Dialogue back (.ok ()))
    (only : s.UndoesOnlyStarted m snapshot forward back) :
    s.AllStarted m snapshot forward back :=
  fun active rolls place _ found undoes =>
    only active place (asksToUndo_of_rollback dialogue rolls (getElem?_of_undoable found) undoes)

/-! ## Operations that have gone through -/

/-- Where operations are started one after the other, the start of each of them stands behind those
of the operations before it. -/
theorem behind_of_startOperations {ctx : PhaseContext} {operations : List Operation}
    {result : List Table × Schema}
    (dialogue : (s.startOperations ctx operations snapshot).Dialogue notes (.ok result))
    (found : operations[place]? = some op) :
    ∃ earlier share later tables between started, notes = earlier ++ (share ++ later) ∧
      (s.startOperations ctx (operations.take place) snapshot).Dialogue earlier
        (.ok (tables, between)) ∧ (op.start ctx between).Dialogue share (.ok started) := by
  induction operations generalizing place snapshot notes result with
  | nil => cases found
  | cons first rest ih =>
      rw [startOperations_cons] at dialogue
      obtain ⟨own, later, started, rfl, begun, follows⟩ := dialogue_bind_ok.mp dialogue
      cases place with
      | zero =>
          cases found
          exact ⟨[], own, later, [], snapshot, started, rfl, ⟨rfl, rfl⟩, begun⟩
      | succ place =>
          obtain ⟨reading, later, between, rfl, read, follows⟩ := dialogue_bind_ok.mp follows
          obtain ⟨others, last, _, rfl, passed, rfl, _⟩ := dialogue_bind_ok.mp follows
          obtain ⟨earlier, share, later, tables, there, other, rfl, before, part⟩ := ih passed found
          refine ⟨own ++ (reading ++ earlier), share, later, started.backfill.toList ++ tables,
            there, other, by simp only [List.append_assoc, List.append_nil], ?_, part⟩
          rw [List.take_succ_cons, startOperations_cons]
          refine dialogue_bind_ok.mpr ⟨own, _, started, rfl, begun, ?_⟩
          refine dialogue_bind_ok.mpr ⟨reading, _, between, rfl, read, ?_⟩
          exact before.map fun result => (started.backfill.toList ++ result.1, result.2)

/-- If the failure came behind the operations, all of them that ask for changes were started. -/
theorem startAccepted_of_passed {hooked started : List Note} {result : List Table × Schema}
    (hooks : (s.runPhaseHooks .beforeStart).Dialogue hooked (.ok ()))
    (passed : (s.startOperations (s.phaseContext m) m.operations snapshot).Dialogue started
      (.ok result))
    (found : m.operations[place]? = some op) (asks : op.startsChange = true) (rest : List Note) :
    s.StartAccepted m snapshot place (hooked ++ (started ++ rest)) := by
  obtain ⟨earlier, share, later, tables, between, _, rfl, before, part⟩ :=
    behind_of_startOperations passed found
  refine ⟨op, between, share, found, ?_, op.changes_start asks _ _ _ part⟩
  refine ⟨hooked ++ earlier, later ++ rest, _, by simp only [List.append_assoc], ?_, part⟩
  exact dialogue_bind_ok.mpr ⟨hooked, earlier, (), rfl, hooks, before.map Prod.snd⟩

/-! ## A server that refuses changes -/

/-- A server that reports a snapshot and an active migration, and refuses every change but the drop
of a version schema. -/
def refusingChanges (snapshot : Schema) (m : Migration) : Request → Except ServerError Answer :=
  reporting snapshot m fun
    | .dropVersionSchema _ => .ok .none
    | _ => .error ⟨"42501", "permission denied"⟩

theorem refuses_refusingChanges {statement : Change}
    (kept : ∀ name, statement ≠ .dropVersionSchema name) :
    Refuses (refusingChanges snapshot m) statement := by
  refine ⟨⟨"42501", "permission denied"⟩, ?_, by decide⟩
  cases statement with
  | dropVersionSchema name => exact absurd rfl (kept name)
  | _ => rfl

/-- With such a server no operation is started. -/
theorem not_startAccepted {events : List Event} {before after : List Note}
    (split : before ++ (forward ++ after) =
      Server.notes (.answering (refusingChanges snapshot m)) () events) :
    ¬s.StartAccepted active snapshot place forward := by
  rintro ⟨op, between, share, _, ⟨earlier, later, _, rfl, _, part⟩, accepted⟩
  obtain ⟨statement, member⟩ := List.exists_mem_of_ne_nil _ accepted
  obtain ⟨answer, asked⟩ := mem_acceptedChanges.mp member
  obtain ⟨_, starts, same⟩ := op.asksOnly_start share _ part _ _ asked
  cases same
  have refuses : Refuses (refusingChanges snapshot m) statement :=
    refuses_refusingChanges fun name => op.ne_dropVersionSchema_of_starts name starts
  obtain ⟨cause, refused, _⟩ := refuses
  have among : .asked (.change statement) (.ok answer) ∈
      Server.notes (.answering (refusingChanges snapshot m)) () events := by
    rw [← split]
    simp [asked]
  cases (eq_of_asked_answering among).trans refused

/-- A change that undoes an operation of the list has been asked for. -/
def AsksUndo (ctx : PhaseContext) (operations : List Operation) (events : List Event) : Prop :=
  ∃ op ∈ operations, ∃ statement ∈ op.undo ctx, .request (.change statement) ∈ events

/-- Where the first operation has nothing to undo and another one has, the rollback goes on behind
the first. -/
theorem undoes_behind {ctx : PhaseContext} {operations : List Operation} (plan : op.undo ctx = [])
    (undoes : ∃ other ∈ (op :: operations).takeWhile fun op => !op.refusesUndo ctx,
      other.undo ctx ≠ []) :
    op.refusesUndo ctx = false ∧
      ∃ other ∈ operations.takeWhile fun op => !op.refusesUndo ctx, other.undo ctx ≠ [] := by
  obtain ⟨other, member, more⟩ := undoes
  rw [List.takeWhile_cons] at member
  split at member
  case isFalse => cases member
  case isTrue passes =>
    refine ⟨Bool.not_eq_true' _ ▸ passes, other, ?_, more⟩
    exact (List.mem_cons.mp member).resolve_left fun same => more (same ▸ plan)

theorem breaks_rollbackOperations {answer : Request → Except ServerError Answer}
    {ctx : PhaseContext} {operations : List Operation}
    (refuses : ∀ op ∈ operations, ∀ statement ∈ op.undo ctx, Refuses answer statement)
    (undoes : ∃ op ∈ operations.takeWhile fun op => !op.refusesUndo ctx, op.undo ctx ≠ []) :
    (rollbackOperations ctx operations).Breaks (.answering answer) fun events _ =>
      AsksUndo ctx operations events := by
  induction operations with
  | nil =>
      obtain ⟨_, impossible, _⟩ := undoes
      cases impossible
  | cons op rest ih =>
      obtain ⟨refusesNow, refusesLater⟩ := List.forall_mem_cons.mp refuses
      cases plan : op.undo ctx with
      | nil =>
          obtain ⟨passes, later⟩ := undoes_behind plan undoes
          change ((op.rollback ctx).bind fun _ => rollbackOperations ctx rest).Breaks _ _
          rw [op.rollback_eq_done plan passes]
          refine (ih refusesLater later).mono ?_
          rintro events outcome ⟨error, failed, another, member, shown⟩
          exact ⟨error, failed, another, List.mem_cons_of_mem _ member, shown⟩
      | cons statement more =>
          have undoes : statement ∈ op.undo ctx := plan ▸ List.mem_cons_self
          refine Breaks.bind ((op.breaks_rollback plan (refusesNow statement undoes)).mono ?_)
          rintro _ outcome ⟨error, failed, rfl⟩
          exact ⟨error, failed, op, List.mem_cons_self, statement, undoes,
            List.mem_singleton_self _⟩

/-- A rollback comes to the first operation that it has to undo. -/
theorem breaks_rollback (undoes : ∃ op ∈ s.undoable m, op.undo (s.phaseContext m) ≠ []) :
    s.rollback.Breaks (.answering (refusingChanges snapshot m)) fun events _ =>
      AsksUndo (s.phaseContext m) m.operations events := by
  have later {first rest : List Event}
      (asked : AsksUndo (s.phaseContext m) m.operations rest) :
      AsksUndo (s.phaseContext m) m.operations (first ++ rest) := by
    obtain ⟨op, member, statement, undoes, shown⟩ := asked
    exact ⟨op, member, statement, undoes, List.mem_append_right _ shown⟩
  have dropped : (s.dropOwnVersion m).Ends (.answering (refusingChanges snapshot m))
      fun _ outcome => outcome = .ok () := by
    unfold dropOwnVersion
    split
    · exact (Carries.change rfl).mono fun _ _ ⟨_, same⟩ => same
    · exact .done rfl
  have rolled : (rollbackOperations (s.phaseContext m) m.operations).Breaks
      (.answering (refusingChanges snapshot m)) fun events _ =>
        AsksUndo (s.phaseContext m) m.operations events := by
    refine breaks_rollbackOperations (fun op _ statement member => ?_) undoes
    exact refuses_refusingChanges (op.ne_version_of_mem_undo member).1
  have undone : (s.undoChanges m).Breaks (.answering (refusingChanges snapshot m))
      fun events _ => AsksUndo (s.phaseContext m) m.operations events := by
    rw [undoChanges_eq]
    refine Ends.bind dropped ?_ ?_
    · rintro events _ _
      exact rolled.mono fun _ _ ⟨error, failed, asked⟩ => ⟨error, failed, later asked⟩
    · rintro events error impossible
      cases impossible
  rw [rollback_eq]
  refine .bind_yields Ledger.yields_activeMigration (Breaks.bind undone |>.mono ?_)
  rintro events outcome ⟨error, failed, asked⟩
  exact ⟨error, failed, later asked⟩

theorem yields_record :
    (s.record m).Yields (.answering (refusingChanges snapshot m))
      [.request (s.ledger.request (.isActive s.schema)),
        .request (s.ledger.request (.insertMigration s.schema m.name m.toJson)),
        .request (s.ledger.request (.readSchema s.schema))] snapshot := by
  refine Ledger.yields_isActive.bind_yields (Ledger.yields_start.mono ?_)
  rintro _ _ ⟨rfl, rfl⟩
  exact ⟨rfl, rfl⟩

/-- The notes of a session with this server. -/
abbrev refusedRun (snapshot : Schema) (m : Migration) (events : List Event) : List Note :=
  Server.notes (.answering (refusingChanges snapshot m)) () events

/-- These are the events of an expansion that failed, and those of a rollback that has asked for a
change to undo an operation. -/
def UndoesRefused (s : MigrationSession) (m : Migration) (snapshot : Schema)
    (events : List Event) (error : Error) : Prop :=
  ∃ forward back cause rolled, events = forward ++ back ∧ error = .ofUndoing cause rolled ∧
    (s.expand m snapshot).Dialogue (refusedRun snapshot m forward) (.error cause) ∧
    s.rollback.Dialogue (refusedRun snapshot m back) rolled ∧
    AsksUndo (s.phaseContext m) m.operations back

/-- A start fails at the first change that it asks for, and the rollback comes to an operation that
it has to undo. -/
theorem breaks_startWith (unhooked : s.config.hooks = [])
    (admitted : s.verdict m snapshot = .ok ())
    (asks : ∃ op ∈ m.operations, op.startsChange = true)
    (undoes : ∃ op ∈ s.undoable m, op.undo (s.phaseContext m) ≠ []) :
    (s.startWith m snapshot).Breaks (.answering (refusingChanges snapshot m))
      (s.UndoesRefused m snapshot) := by
  have refuses (statement : Change) (expands : statement.expands = true) :
      Refuses (refusingChanges snapshot m) statement := by
    refine refuses_refusingChanges ?_
    rintro name rfl
    cases expands
  have stalls : (s.expand m snapshot).Stalls (refusingChanges snapshot m) True :=
    stalls_expand refuses stalls_readSchema
      (fun _ _ _ _ => refuses_refusingChanges nofun) unhooked asks
  have undone (cause : Error) : (s.undoStart cause : Procedure (List Table)).Breaks
      (.answering (refusingChanges snapshot m)) fun events error =>
        ∃ rolled, error = .ofUndoing cause rolled ∧
          s.rollback.Dialogue (refusedRun snapshot m events) rolled ∧
          AsksUndo (s.phaseContext m) m.operations events := by
    refine Ends.bind (breaks_rollback undoes).dialogue.attempt ?_ ?_
    · rintro events _ ⟨_, ⟨⟩, ⟨rollback, rfl, asked⟩, dialogue⟩
      refine .fail ⟨_, rfl, .error rollback, rfl, ?_, ?_⟩
      · rwa [List.append_nil]
      · rwa [List.append_nil]
    · rintro events error ⟨_, impossible, _⟩
      cases impossible
  have expanded : (s.expandOrUndo m snapshot).Breaks (.answering (refusingChanges snapshot m))
      (s.UndoesRefused m snapshot) := by
    rw [expandOrUndo_of_verdict admitted]
    refine Ends.bind (Ends.dialogue stalls).attempt ?_ ?_
    · rintro forward _ ⟨_, ⟨⟩, ⟨_, fails⟩, dialogue⟩
      obtain ⟨cause, rfl⟩ := fails trivial
      refine (undone cause).mono ?_
      rintro back outcome ⟨error, failed, rolled, told, rolls, asked⟩
      exact ⟨error, failed, forward, back, cause, rolled, rfl, told, dialogue, rolls, asked⟩
    · rintro events error ⟨_, impossible, _⟩
      cases impossible
  exact Breaks.bind expanded

/-- A migration that may start, and has something to undo, can fail in such a way that the rollback
undoes an operation that was not started. -/
theorem exists_undone_unstarted (unhooked : s.config.hooks = [])
    (admitted : s.verdict m snapshot = .ok ())
    (asks : ∃ op ∈ m.operations, op.startsChange = true)
    (undoes : ∃ op ∈ s.undoable m, op.undo (s.phaseContext m) ≠ []) :
    ∃ forward back notes outcome error, (s.start m).Shows notes (.error error) ∧
      s.Compensated m snapshot forward back notes outcome error ∧
      (∀ told, s.ledger.Tells s.schema told notes → told = m) ∧
      ¬s.UndoesOnlyStarted m snapshot forward back := by
  have started : (s.start m).Breaks (.answering (refusingChanges snapshot m))
      fun events error => ∃ before after, events = before ++ after ∧
        (s.record m).Dialogue (refusedRun snapshot m before) (.ok snapshot) ∧
        s.UndoesRefused m snapshot after error := by
    rw [start_eq_record]
    refine Ends.bind yields_record.dialogue ?_ ?_
    · rintro before _ ⟨⟨_, ⟨⟩⟩, recorded⟩
      refine (breaks_startWith unhooked admitted asks undoes).mono ?_
      rintro after outcome ⟨error, failed, refused⟩
      exact ⟨error, failed, before, after, rfl, recorded, refused⟩
    · rintro events error ⟨⟨_, impossible⟩, _⟩
      cases impossible
  obtain ⟨events, _, shown, error, rfl, before, after, rfl, recorded, refused⟩ := started.shows
  obtain ⟨forward, back, cause, rolled, rfl, rfl, expands, rolls, asked⟩ := refused
  have split : refusedRun snapshot m (before ++ (forward ++ back)) =
      refusedRun snapshot m before ++
        (refusedRun snapshot m forward ++ refusedRun snapshot m back) := by
    simp only [refusedRun, Server.notes_append]
  refine ⟨refusedRun snapshot m forward, refusedRun snapshot m back, _, rolled, _, shown,
    ⟨⟨_, recorded, split⟩, ⟨cause, dialogue_bind.mpr (.inr ⟨cause, rfl, expands⟩), rfl⟩, rolls⟩,
    fun told tells => Ledger.eq_of_tells_reporting tells, fun only => ?_⟩
  obtain ⟨op, member, statement, undoes, made⟩ := asked
  obtain ⟨reply, noted⟩ : ∃ reply, Note.asked (.change statement) reply ∈
      refusedRun snapshot m back := asked_of_request made
  obtain ⟨kept, other⟩ := op.ne_version_of_mem_undo undoes
  obtain ⟨active, place, asks⟩ := asksToUndo_of_asked kept other rolls noted
  exact not_startAccepted split.symm (only active place asks).2

/-! ## The condition -/

/-- A start that fails has changed nothing, or it has been rolled back. The rollback undoes nothing
but what was started if everything that it has to undo was started, and where it succeeds only then.
Whatever a migration has to undo, it can fail before that was started. -/
theorem undoes_only_started_iff (s : MigrationSession) (m : Migration) :
    (∀ notes error, (s.start m).Shows notes (.error error) → Unchanging notes ∨
      ∃ snapshot forward back outcome,
        s.Compensated m snapshot forward back notes outcome error) ∧
    (∀ snapshot forward back notes outcome error,
      s.Compensated m snapshot forward back notes outcome error →
        (s.AllStarted m snapshot forward back → s.UndoesOnlyStarted m snapshot forward back) ∧
        (outcome = .ok () → s.UndoesOnlyStarted m snapshot forward back →
          s.AllStarted m snapshot forward back)) ∧
    ∀ snapshot, s.config.hooks = [] → s.verdict m snapshot = .ok () →
      (∃ op ∈ m.operations, op.startsChange = true) →
      (∃ op ∈ s.undoable m, op.undo (s.phaseContext m) ≠ []) →
        ∃ forward back notes outcome error, (s.start m).Shows notes (.error error) ∧
          s.Compensated m snapshot forward back notes outcome error ∧
          (∀ told, s.ledger.Tells s.schema told notes → told = m) ∧
          ¬s.UndoesOnlyStarted m snapshot forward back := by
  refine ⟨fun notes error shown => compensated_of_dialogue shown.dialogue, ?_, ?_⟩
  · intro snapshot forward back notes outcome error compensated
    refine ⟨undoesOnlyStarted_of_allStarted, ?_⟩
    rintro rfl
    exact allStarted_of_undoesOnlyStarted compensated.undoes
  · exact fun _ => exists_undone_unstarted

/-- A server that refuses to make version schemas, and accepts any other change. -/
def refusingVersions : Request → Except ServerError Answer :=
  reporting (.ofName "public") .createsUsers fun
    | .makeVersionSchema _ => .error ⟨"53100", "No space left on device"⟩
    | _ => .ok .none

theorem compensated_refusedVersion :
    usual.Compensated .createsUsers (.ofName "public")
      ((usual.expandAndFill .createsUsers (.ofName "public")).notesWith refusingVersions)
      (usual.rollback.notesWith refusingVersions)
      ((usual.start .createsUsers).notesWith refusingVersions) (.ok ())
      (.startFailed (.database (.server ⟨"53100", "No space left on device"⟩))) where
  records := ⟨(usual.record .createsUsers).notesWith refusingVersions,
    (shows_of_outcomeWith rfl).dialogue, rfl⟩
  fails := ⟨_, (shows_of_outcomeWith rfl).dialogue, rfl⟩
  undoes := (shows_of_outcomeWith rfl).dialogue

/-- The failure came behind the only operation, so that had been started. -/
theorem allStarted_refusedVersion :
    usual.AllStarted .createsUsers (.ofName "public")
      ((usual.expandAndFill .createsUsers (.ofName "public")).notesWith refusingVersions)
      (usual.rollback.notesWith refusingVersions) := by
  intro active rolls place op found _
  have told : active = .createsUsers := by
    refine rollsBack_unique rolls
      ⟨(usual.ledger.activeMigration usual.schema).notesWith refusingVersions, _, rfl, ?_⟩
    exact (shows_of_outcomeWith rfl).dialogue
  subst told
  refine ⟨rfl, ?_⟩
  have passed : (usual.startOperations (usual.phaseContext .createsUsers)
      Migration.createsUsers.operations (.ofName "public")).Dialogue
      (notesWith _ refusingVersions) (.ok ([], .withUsers)) :=
    (shows_of_outcomeWith rfl).dialogue
  have hooks : (usual.runPhaseHooks .beforeStart).Dialogue [] (.ok ()) := ⟨rfl, rfl⟩
  cases place with
  | zero => exact startAccepted_of_passed hooks passed rfl rfl _
  | succ place => cases found

/-- What the rollback undoes here was started; had the table been refused, it would
not have been. -/
theorem only_started_undone_of_refusedVersion :
    (usual.start .createsUsers).Shows
      ((usual.start .createsUsers).notesWith refusingVersions)
      (.error (.startFailed (.database (.server ⟨"53100", "No space left on device"⟩)))) ∧
    usual.UndoesOnlyStarted .createsUsers (.ofName "public")
      ((usual.expandAndFill .createsUsers (.ofName "public")).notesWith refusingVersions)
      (usual.rollback.notesWith refusingVersions) ∧
    ∃ forward back notes outcome error, (usual.start .createsUsers).Shows notes (.error error) ∧
      usual.Compensated .createsUsers (.ofName "public") forward back notes outcome error ∧
      (∀ told, usual.ledger.Tells usual.schema told notes → told = .createsUsers) ∧
      ¬usual.UndoesOnlyStarted .createsUsers (.ofName "public") forward back := by
  obtain ⟨_, holds, fails⟩ := undoes_only_started_iff usual .createsUsers
  refine ⟨shows_of_outcomeWith rfl,
    (holds _ _ _ _ _ _ compensated_refusedVersion).1 allStarted_refusedVersion, ?_⟩
  refine fails _ rfl rfl ⟨_, List.mem_singleton_self _, rfl⟩ ⟨_, List.mem_singleton_self _, ?_⟩
  exact List.cons_ne_nil _ _

/-! ## Undone though refused -/

/-- A start has failed, no change of the start of an operation was accepted, and yet one was that
undoes the operation. -/
def UndoneUnstarted (s : MigrationSession) (m : Migration) (op : Operation) : Prop :=
  ∃ notes error, (s.start m).Shows notes (.error error) ∧
    (∀ statement answer, op.Starts (s.phaseContext m) statement →
      Note.asked (.change statement) (.ok answer) ∉ notes) ∧
    ∃ statement ∈ op.undo (s.phaseContext m), ∃ answer,
      Note.asked (.change statement) (.ok answer) ∈ notes

theorem undoneUnstarted_of_accepted {answer : Request → Except ServerError Answer}
    {accepted : List Change}
    (ended : (s.start m).outcomeWith answer = some (.error error))
    (same : acceptedChanges ((s.start m).notesWith answer) = accepted)
    (unstarted : ∀ statement ∈ accepted, ¬op.Starts (s.phaseContext m) statement)
    (undone : ∃ statement ∈ op.undo (s.phaseContext m), statement ∈ accepted) :
    s.UndoneUnstarted m op := by
  refine ⟨_, error, shows_of_outcomeWith ended, ?_, ?_⟩
  · intro statement reply starts asked
    exact unstarted statement (same ▸ mem_acceptedChanges.mpr ⟨reply, asked⟩) starts
  · obtain ⟨statement, undoes, member⟩ := undone
    exact ⟨statement, undoes, mem_acceptedChanges.mp (same ▸ member)⟩

/-- SQL that makes a table, with SQL that drops it. -/
def audit : RawSql :=
  { up := "CREATE TABLE audit (id int)", down := some "DROP TABLE audit", onComplete := false }

/-- A migration that runs this SQL. -/
def audits : Migration :=
  { name := "audit", versionSchema := none, operations := [.rawSql audit] }

/-- A server that refuses to make the table and accepts any other change. -/
def refusingAudit : Request → Except ServerError Answer :=
  reporting (.ofName "public") audits fun statement =>
    if statement = .raw "CREATE TABLE audit (id int)" then .error ⟨"42501", "permission denied"⟩
    else .ok .none

/-- A session that does not check migrations. -/
def unchecked : MigrationSession :=
  { usual with config := { usual.config with skipValidation := true } }

theorem undoneUnstarted_audit : usual.UndoneUnstarted audits (.rawSql audit) := by
  have accepted : acceptedChanges ((usual.start audits).notesWith refusingAudit) =
      [.dropVersionSchema "public_audit", .raw "DROP TABLE audit"] := rfl
  refine undoneUnstarted_of_accepted rfl accepted ?_ ?_
  · rintro statement member (_ | _ | _ | _ | _ | _ | ⟨_, sent⟩)
    cases sent
    exact absurd member (by decide)
  · exact ⟨.raw "DROP TABLE audit", List.mem_singleton_self _, by decide⟩

/-- The only operation of a migration that creates a table of users. -/
def createsUsersTable : Operation :=
  .createTable { name := "users", columns := [.ofType "id" "int"], comment := none }

theorem undoneUnstarted_createsUsers :
    unchecked.UndoneUnstarted .createsUsers createsUsersTable := by
  have accepted : acceptedChanges ((unchecked.start .createsUsers).notesWith
      (refusingTables .withUsers .createsUsers)) =
      [.dropVersionSchema "public_create_users", .dropTable "public" "users"] := rfl
  refine undoneUnstarted_of_accepted rfl accepted ?_ ?_
  · rintro statement member starts
    cases starts
    exact absurd member (by simp)
  · exact ⟨.dropTable "public" "users", List.mem_singleton_self _, by decide⟩

/-- SQL is undone though it was refused, and where migrations are not checked a table is dropped
though it could not be created. -/
theorem undone_though_refused :
    usual.UndoneUnstarted audits (.rawSql audit) ∧
      unchecked.UndoneUnstarted .createsUsers createsUsersTable :=
  ⟨undoneUnstarted_audit, undoneUnstarted_createsUsers⟩

end ExpandContract.MigrationSession
