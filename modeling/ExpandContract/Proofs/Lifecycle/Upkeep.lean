import ExpandContract.Proofs.Lifecycle.Contention
import ExpandContract.Proofs.Lifecycle.Completion
import ExpandContract.Proofs.Lifecycle.Succession

/-!
# Which versions are served

Migrations are started, completed and rolled back in any order, and some calls are refused: a start
while another migration is in progress, a start under a recorded name, a start that is not valid, or
a completion where there is nothing to complete. With a server that keeps books, each call is
followed through to what it makes of them (`turns_start`, `turns_complete`, `turns_rollback`), and
the books stay sound in all of them (`sound_of_calls`). So the version schemas that are there are
those of the latest complete migration and of the one in progress (`served_versions_are_due`).

There is one exception. A rollback drops the version schema before it undoes the operations, and a
completion drops the one of the version before. Where the transformer refuses a text behind that, or
the session is cancelled, the migration stays in progress without it (`version_lost_halfway`). The
next rollback or completion that goes through puts that right.
-/

set_option autoImplicit false

namespace ExpandContract

open Session Procedure Sql

/-! ## Calls that may stop halfway -/

/-- The call has succeeded and left some books; or it has stopped at others, for a text that is
refused. -/
def EndsOrStops (refused : Prop) (whole stopped : Books) (outcome : Except Error Unit)
    (left : Books) : Prop :=
  outcome = .ok () ∧ left = whole ∨
    refused ∧ (∃ reason, outcome = .error (.transform reason)) ∧ left = stopped

section Stopping

variable {σ : Type} {runner : Runner σ} {books : σ → Books} {b whole last stopped : Books}
  {refused : Prop} {p : Procedure Unit}

theorem Session.Procedure.LeavesBooks.endsOrStops (leaves : p.LeavesBooks runner books b refused) :
    p.Turns runner books b (EndsOrStops refused b b) := by
  refine Turns.mono leaves ?_
  rintro outcome _ ⟨rfl, fails⟩
  cases outcome with
  | ok _ => exact .inl ⟨rfl, rfl⟩
  | error error =>
      obtain ⟨holds, reason, rfl⟩ := fails error rfl
      exact .inr ⟨holds, ⟨reason, rfl⟩, rfl⟩

/-- What cannot stop may follow. -/
theorem Session.Procedure.Turns.stops_bind {q : Procedure Unit}
    (first : p.Turns runner books b (EndsOrStops refused whole stopped))
    (rest : q.Turns runner books whole fun outcome left => outcome = .ok () ∧ left = last) :
    (p.bind fun _ => q).Turns runner books b (EndsOrStops refused last stopped) := by
  refine .bind first ?_ ?_
  · rintro _ _ (⟨_, rfl⟩ | ⟨_, ⟨_, impossible⟩, _⟩)
    · exact rest.mono fun _ _ => .inl
    · cases impossible
  · rintro _ _ (⟨impossible, _⟩ | ⟨holds, ⟨reason, same⟩, left⟩)
    · cases impossible
    · cases same
      exact .inr ⟨holds, ⟨reason, rfl⟩, left⟩

end Stopping

/-- The call starts a migration of the pool, or completes or rolls back the one in progress. -/
inductive LifecycleCall.Moves (pool : Set Migration) : {α : Type} → LifecycleCall α → Prop where
  | start {m : Migration} (known : m ∈ pool) : Moves pool (.start m)
  | complete : Moves pool .complete
  | rollback : Moves pool .rollback

namespace MigrationSession

variable {s : MigrationSession} {σ : Type} {runner : Runner σ} {kept : String → String}
  {books : σ → Books} {b : Books} {m : Migration} {pool : Set Migration}

/-- The name under which the server keeps the version schema of a migration. -/
def keptName (s : MigrationSession) (kept : String → String) (m : Migration) : String :=
  kept (m.versionSchemaName s.schema)

theorem keepsVersionSchema_of (enabled : s.config.disableVersionSchemas = false)
    (always : s.config.noVersionSchemaForRawSql = false) (m : Migration) :
    s.config.keepsVersionSchema m = true := by
  unfold Config.keepsVersionSchema
  rw [enabled, always]
  rfl

section Calls

variable (keeps : Bookkeeping runner.server s.ledger s.schema kept books)
  (enabled : s.config.disableVersionSchemas = false)
  (always : s.config.noVersionSchemaForRawSql = false)
include keeps

theorem turns_makeVersionSchema (snapshot : Schema) :
    (s.makeVersionSchema snapshot (m.versionSchemaName s.schema)).Turns runner books b
      fun outcome next => outcome = .ok () ∧ next = b.withVersion (s.keptName kept m) true :=
  keeps.turns_change

/-! ## The version before -/

include enabled in
/-- The version schema of the version before is dropped. -/
theorem turns_retirePrevious (named : b.Named) :
    s.retirePrevious.Turns runner books b fun outcome next =>
      outcome = .ok () ∧ next = b.withPrevious (s.keptName kept) false := by
  unfold retirePrevious dropPreviousVersionSchema Books.withPrevious
  rw [if_neg (by simp [enabled])]
  refine .bind_ok keeps.turns_previousVersion ?_
  cases previous : b.previous with
  | none => exact .done ⟨rfl, rfl⟩
  | some p => exact .bind_ok (keeps.turns_migrationNamed (named p previous)) keeps.turns_change

include enabled always in
/-- The version schema of the version before is there, or it is made. -/
theorem turns_restorePreviousVersion (named : b.Named) :
    s.restorePreviousVersion.Turns runner books b fun outcome next =>
      outcome = .ok () ∧ next = b.withPrevious (s.keptName kept) true := by
  rw [restorePreviousVersion_eq enabled]
  unfold Books.withPrevious
  refine .bind_ok keeps.turns_previousVersion ?_
  cases previous : b.previous with
  | none => exact .done ⟨rfl, rfl⟩
  | some p =>
      refine .bind_ok (keeps.turns_migrationNamed (named p previous)) ?_
      unfold restoreVersion
      rw [if_pos (keepsVersionSchema_of enabled always p)]
      refine .bind keeps.turns_hasSchema ?_ ?_
      · rintro there _ ⟨⟨_, ⟨⟩, truthful⟩, rfl⟩
        cases there with
        | true => exact .done ⟨rfl, (Books.withVersion_eq_self (truthful rfl)).symm⟩
        | false =>
            refine .bind keeps.turns_readSchema ?_ ?_
            · rintro live _ ⟨_, rfl⟩
              exact turns_makeVersionSchema keeps live
            · rintro _ _ ⟨⟨_, ⟨⟩⟩, _⟩
      · rintro _ _ ⟨⟨_, ⟨⟩, _⟩, _⟩

/-! ## Rollbacks -/

include enabled always in
theorem turns_undoChanges :
    (s.undoChanges m).Turns runner books b
      (EndsOrStops (RefusesLate s.config.transformer m.operations)
        (b.withVersion (s.keptName kept m) false) (b.withVersion (s.keptName kept m) false)) := by
  unfold undoChanges
  rw [if_pos (keepsVersionSchema_of enabled always m)]
  exact .bind_ok keeps.turns_change (leavesBooks_rollbackOperations keeps m.operations).endsOrStops

include enabled always in
/-- A rollback of the migration in progress goes through, or stops for a text that is refused. -/
theorem turns_rollback (active : b.active = some m) (named : b.Named) :
    s.rollback.Turns runner books b
      (EndsOrStops (RefusesLate s.config.transformer m.operations)
        (b.rolledBack (s.keptName kept) m) (b.withVersion (s.keptName kept m) false)) := by
  have finished : (s.finishRollback m).Turns runner books (b.withVersion (s.keptName kept m) false)
      fun outcome left => outcome = .ok () ∧ left = b.rolledBack (s.keptName kept) m := by
    refine .bind_ok (turns_restorePreviousVersion keeps enabled always named) ?_
    refine keeps.turns_rollback ?_
    rw [Books.withPrevious_active]
    exact active
  have told := keeps.turns_activeMigration (b := b)
  rw [active] at told
  rw [rollback_eq]
  exact .bind_ok told ((turns_undoChanges keeps enabled always).stops_bind finished)

/-! ## Completions -/

variable (unhooked : s.config.hooks = [])

include enabled always unhooked in
theorem turns_contractTables :
    (s.contractTables m).Turns runner books b
      (EndsOrStops (RefusesLate s.config.transformer m.operations)
        (if m.effectUnknown then b.withVersion (s.keptName kept m) true else b) b) := by
  have contracted : (completeOperations (s.phaseContext m) m.operations).Turns runner books b
      (EndsOrStops (RefusesLate s.config.transformer m.operations) b b) :=
    (leavesBooks_completeOperations keeps m.operations).endsOrStops
  unfold contractTables
  simp only [runPhaseHooks_eq unhooked, keepsVersionSchema_of enabled always, Bool.and_true,
    pure_bind]
  refine .bind keeps.turns_readSchema ?_ ?_
  · rintro _ _ ⟨_, rfl⟩
    refine contracted.stops_bind ?_
    cases m.effectUnknown with
    | false => exact .done ⟨rfl, rfl⟩
    | true =>
        refine .bind keeps.turns_readSchema ?_ ?_
        · rintro refreshed _ ⟨_, rfl⟩
          exact .bind_ok (turns_makeVersionSchema keeps refreshed) (.done ⟨rfl, rfl⟩)
        · rintro _ _ ⟨⟨_, ⟨⟩⟩, _⟩
  · rintro _ _ ⟨⟨_, ⟨⟩⟩, _⟩

include enabled always unhooked in
/-- A completion of the migration in progress goes through, or stops for a text that is refused. -/
theorem turns_complete (active : b.active = some m) (named : b.Named) :
    s.complete.Turns runner books b
      (EndsOrStops (RefusesLate s.config.transformer m.operations)
        (b.contracted (s.keptName kept) m) (b.withPrevious (s.keptName kept) false)) := by
  have told := keeps.turns_activeMigration (b := b)
  rw [active] at told
  have prepared : (prepareOperations (s.phaseContext m) m.operations).Turns runner books b
      fun outcome left => outcome = .ok () ∧ left = b := by
    have kept : (prepareOperations (s.phaseContext m) m.operations).LeavesBooks runner books b
        False := leavesBooks_prepareOperations keeps m.operations
    refine Turns.mono kept ?_
    rintro (error | _) _ ⟨rfl, fails⟩
    · cases (fails error rfl).1
    · exact ⟨rfl, rfl⟩
  rw [complete_eq]
  refine .bind_ok told (.bind_ok prepared ?_)
  refine .bind_ok (turns_retirePrevious keeps enabled named) ?_
  rw [contract_eq]
  refine (turns_contractTables keeps enabled always unhooked).stops_bind ?_
  refine keeps.turns_complete ?_
  cases m.effectUnknown <;> simpa using active

/-! ## Starts -/

include enabled always in
/-- What is left of a start that has failed is rolled back, or it gets stuck at a text that is
refused. It does not matter whether the version schema has been made. -/
theorem turns_undoStart {α : Type} {current : Books} {cause : Error}
    (same : current.withVersion (s.keptName kept m) false =
      (b.withActive m).withVersion (s.keptName kept m) false)
    (named : (b.withActive m).Named) :
    (s.undoStart cause : Procedure α).Turns runner books current
      (b.StartEnds (s.keptName kept) s.config.transformer m) := by
  have active : current.active = some m := congrArg Books.active same
  have currentNamed : (current.withVersion (s.keptName kept m) false).Named := same ▸ named
  refine .attempt_bind (turns_rollback keeps enabled always active currentNamed) ?_
  rintro _ _ (⟨rfl, rfl⟩ | ⟨late, ⟨reason, rfl⟩, rfl⟩)
  · refine .fail ?_
    unfold Books.rolledBack
    rw [same]
    exact .undone _
  · refine .fail ?_
    rw [same]
    exact .stuck late

theorem turns_rejectMigration {α : Type} (cause : ValidationError) (free : b.active = none) :
    (s.rejectMigration m cause : Procedure α).Turns runner books (b.withActive m)
      (b.StartEnds (s.keptName kept) s.config.transformer m) := by
  refine .attempt_bind (keeps.turns_rollback rfl) ?_
  rintro _ _ ⟨rfl, rfl⟩
  refine .fail ?_
  rw [Books.erase_withActive free]
  exact .unchanged _

include enabled always unhooked in
/-- An expansion makes the version schema, unless it fails before. -/
theorem turns_expand (snapshot : Schema) :
    (s.expand m snapshot).Turns runner books b fun outcome next =>
      match outcome with
      | .ok _ => next = b.withVersion (s.keptName kept m) true
      | .error _ => next = b := by
  have started : (s.startOperations (s.phaseContext m) m.operations snapshot).Turns runner books b
      fun _ next => next = b := by
    refine keeps.turns_of_spares ?_ spares_startOperations (orderly_startOperations _ _ _)
    refine asksOnly_startOperations (fun _ _ _ _ => sparesLedger_change _) fun _ reads => ?_
    exact sparesLedger_of_reads reads.reads
  unfold expand
  simp only [runPhaseHooks_eq unhooked, keepsVersionSchema_of enabled always, pure_bind, if_true]
  refine .bind started ?_ ?_
  · rintro ⟨tables, final⟩ _ rfl
    exact .bind_ok (turns_makeVersionSchema keeps final) (.done rfl)
  · rintro _ _ left
    exact left

include enabled always unhooked in
theorem turns_expandOrUndo (snapshot : Schema) (free : b.active = none)
    (named : (b.withActive m).Named) :
    (s.expandOrUndo m snapshot).Turns runner books (b.withActive m)
      (b.StartEnds (s.keptName kept) s.config.transformer m) := by
  unfold expandOrUndo
  split
  · exact turns_rejectMigration keeps _ free
  · refine .attempt_bind (turns_expand keeps enabled always unhooked snapshot) ?_
    rintro (cause | tables) _ left
    · rw [left]
      exact turns_undoStart keeps enabled always rfl named
    · exact .done left

include enabled always in
theorem turns_fillTables (named : (b.withActive m).Named) (tables : List Table) :
    (s.fillTables tables).Turns runner books
      ((b.withActive m).withVersion (s.keptName kept m) true)
      (b.StartEnds (s.keptName kept) s.config.transformer m) := by
  induction tables with
  | nil => exact .done rfl
  | cons table rest ih =>
      have filled : (Backfill.run s.config.backfill s.schema table).Turns runner books
          ((b.withActive m).withVersion (s.keptName kept m) true) fun _ next =>
            next = (b.withActive m).withVersion (s.keptName kept m) true := by
        have asks := Backfill.asksOnly_run s.config.backfill s.schema table
        refine keeps.turns_of_spares (asks.mono ?_) (asks.mono ?_) (Backfill.orderly_run _ _ _)
        · rintro _ fills ⟨_, _, _, rfl⟩
          cases fills
        · rintro _ fills _ rfl
          cases fills
      refine .attempt_bind filled ?_
      rintro (cause | progress) _ rfl
      · exact turns_undoStart keeps enabled always Books.withVersion_withVersion named
      · refine .bind ih ?_ ?_
        · rintro others _ left
          exact .done left
        · rintro error _ fails
          exact fails

/-- A start where another migration is in progress is refused. -/
theorem turns_start_of_active (active : b.active.isSome = true) :
    (s.start m).Turns runner books b fun outcome next =>
      (∃ error, outcome = .error error) ∧ next = b := by
  have told := keeps.turns_isActive (b := b)
  rw [active] at told
  rw [start_eq]
  refine .bind_ok told ?_
  refine .bind keeps.turns_activeMigration ?_ ?_
  · rintro _ _ ⟨_, rfl⟩
    exact .fail ⟨⟨_, rfl⟩, rfl⟩
  · rintro error _ ⟨_, rfl⟩
    exact ⟨⟨error, rfl⟩, rfl⟩

include enabled always unhooked in
/-- A start where no migration is in progress is refused if the name is recorded, and else it is
recorded. -/
theorem turns_start (free : b.active = none) (named : (b.withActive m).Named) :
    (s.start m).Turns runner books b fun outcome next =>
      ((∃ error, outcome = .error error) ∧ next = b) ∨
        (∀ other ∈ b.completed, other.name ≠ m.name) ∧
          b.StartEnds (s.keptName kept) s.config.transformer m outcome next := by
  have told := keeps.turns_isActive (b := b)
  rw [free] at told
  rw [start_eq]
  refine .bind_ok told ?_
  by_cases taken : ∃ other ∈ b.completed, other.name = m.name
  · refine .bind (keeps.turns_start_of_taken free taken) ?_ ?_
    · rintro _ _ ⟨⟨_, ⟨⟩⟩, _⟩
    · rintro error _ ⟨_, rfl⟩
      exact .inl ⟨⟨error, rfl⟩, rfl⟩
  · have fresh : ∀ other ∈ b.completed, other.name ≠ m.name :=
      fun other member same => taken ⟨other, member, same⟩
    refine .bind (keeps.turns_start free fresh) ?_ ?_
    · rintro snapshot _ ⟨_, rfl⟩
      refine Turns.mono ?_ fun _ _ ends => .inr ⟨fresh, ends⟩
      refine .bind (turns_expandOrUndo keeps enabled always unhooked snapshot free named) ?_ ?_
      · rintro tables _ rfl
        exact turns_fillTables keeps enabled always named tables
      · rintro error _ fails
        exact fails
    · rintro _ _ ⟨⟨_, ⟨⟩⟩, _⟩

/-! ## Any call -/

theorem turns_of_free {f : Migration → Procedure Unit} (free : b.active = none) :
    ((s.ledger.activeMigration s.schema).bind f).Turns runner books b fun outcome next =>
      (∃ error, outcome = .error error) ∧ next = b := by
  have told := keeps.turns_activeMigration (b := b)
  rw [free] at told
  refine .bind told ?_ ?_
  · rintro _ _ ⟨⟨⟩, _⟩
  · rintro error _ ⟨_, rfl⟩
    exact ⟨⟨error, rfl⟩, rfl⟩

include enabled always unhooked in
/-- Every call makes of the books what a call can make of them. -/
theorem turns_perform {α : Type} {call : LifecycleCall α} (moves : call.Moves pool)
    (tidy : b.Tidy (s.keptName kept) pool) (names : Set.InjOn Migration.name pool) :
    (s.perform call).Turns runner books b
      (b.Passes (s.keptName kept) s.config.transformer pool) := by
  have named := Books.named_of_known tidy.known names
  cases moves with
  | start known =>
      cases active : b.active with
      | some other =>
          exact (turns_start_of_active keeps (Option.isSome_of_eq_some active)).mono
            fun _ _ => .of_refused
      | none =>
          refine (turns_start keeps enabled always unhooked active
            (Books.named_of_known (tidy.known_withActive known) names)).mono ?_
          rintro _ _ (refused | ⟨fresh, ends⟩)
          · exact .of_refused refused
          · exact .start known active (fun member => fresh _ member rfl) ends
  | complete =>
      cases active : b.active with
      | none =>
          rw [perform, complete_eq]
          exact (turns_of_free keeps active).mono fun _ _ => .of_refused
      | some m =>
          refine (turns_complete keeps enabled always unhooked active named).mono ?_
          rintro _ _ (⟨rfl, rfl⟩ | ⟨late, ⟨reason, rfl⟩, rfl⟩)
          · exact .completed active
          · exact .notCompleted active late
  | rollback =>
      cases active : b.active with
      | none =>
          rw [perform, rollback_eq]
          exact (turns_of_free keeps active).mono fun _ _ => .of_refused
      | some m =>
          refine (turns_rollback keeps enabled always active named).mono ?_
          rintro _ _ (⟨rfl, rfl⟩ | ⟨late, ⟨reason, rfl⟩, rfl⟩)
          · exact .rolledBack active
          · exact .notRolledBack active late

end Calls

/-! ## Calls one after the other -/

/-- Calls made one after the other, each to its end; `errors` are those of the calls that failed. -/
inductive Calls (s : MigrationSession) (runner : Runner σ) (pool : Set Migration)
    (begun : World σ) : List Error → World σ → Prop where
  | none : Calls s runner pool begun [] begun
  | success {α : Type} {call : LifecycleCall α} {errors : List Error} {world after : World σ}
      {value : α} (earlier : Calls s runner pool begun errors world) (moves : call.Moves pool)
      (ran : (s.perform call).run runner world = (some (.ok value), after)) :
      Calls s runner pool begun errors after
  | failure {α : Type} {call : LifecycleCall α} {errors : List Error} {world after : World σ}
      {error : Error} (earlier : Calls s runner pool begun errors world) (moves : call.Moves pool)
      (ran : (s.perform call).run runner world = (some (.error error), after)) :
      Calls s runner pool begun (errors ++ [error]) after

/-- The names of the version schemas that are to be there. -/
def dueNames (s : MigrationSession) (kept : String → String) (b : Books) : List String :=
  b.current.map (s.keptName kept)

section Runs

variable {errors : List Error} {begun after : World σ}
  (keeps : Bookkeeping runner.server s.ledger s.schema kept books)
  (enabled : s.config.disableVersionSchemas = false)
  (always : s.config.noVersionSchemaForRawSql = false)
  (unhooked : s.config.hooks = [])
  (names : Set.InjOn Migration.name pool) (versions : Set.InjOn (s.keptName kept) pool)
  (live : begun.clock.cancelAt = none) (blank : books begun.state.server = .empty)
include keeps enabled always unhooked names versions live blank

/-- After every call the books are sound, and nobody has cancelled the session. -/
theorem sound_of_calls (calls : s.Calls runner pool begun errors after) :
    after.clock.cancelAt = none ∧
      (books after.state.server).Sound (s.keptName kept) s.config.transformer pool
        (∃ error ∈ errors, error.tellsOfRefusal = true) := by
  induction calls with
  | none =>
      rw [blank]
      exact ⟨live, Books.sound_empty⟩
  | success _ moves ran ih =>
      obtain ⟨lives, sound⟩ := ih
      obtain ⟨still, passes⟩ := turns_perform keeps enabled always unhooked moves sound.tidy names
        _ _ _ lives rfl ran
      refine ⟨still, (passes.sound sound versions).mono ?_⟩
      rintro (earlier | ⟨_, ⟨⟩, _⟩)
      exact earlier
  | failure _ moves ran ih =>
      obtain ⟨lives, sound⟩ := ih
      obtain ⟨still, passes⟩ := turns_perform keeps enabled always unhooked moves sound.tidy names
        _ _ _ lives rfl ran
      refine ⟨still, (passes.sound sound versions).mono ?_⟩
      rintro (⟨error, member, tells⟩ | ⟨_, ⟨⟩, tells⟩)
      · exact ⟨error, List.mem_append_left _ member, tells⟩
      · exact ⟨_, List.mem_append_right _ (List.mem_singleton_self _), tells⟩

/-- After every call the version schemas that are there are among those of the latest complete
migration and of the one in progress. They are these and no others, unless a migration is in
progress of which a text is refused that is sent late, and a call has failed for such a text. -/
theorem served_versions_are_due (calls : s.Calls runner pool begun errors after) :
    (∀ name, (books after.state.server).served name = true →
      name ∈ s.dueNames kept (books after.state.server)) ∧
    ((∀ error ∈ errors, error.tellsOfRefusal = false) ∨
        ¬(books after.state.server).Stuck s.config.transformer →
      ∀ name, (books after.state.server).served name = true ↔
        name ∈ s.dueNames kept (books after.state.server)) := by
  obtain ⟨_, tidy, served⟩ :=
    sound_of_calls keeps enabled always unhooked names versions live blank calls
  have among (name : String) (there : (books after.state.server).served name = true) :
      name ∈ s.dueNames kept (books after.state.server) := by
    obtain ⟨m, member, same⟩ := tidy.served name there
    exact List.mem_map.mpr ⟨m, member, same⟩
  refine ⟨among, fun unspoiled name => ⟨among name, fun due => ?_⟩⟩
  have whole : (books after.state.server).Whole (s.keptName kept) := by
    refine served.resolve_right ?_
    rintro ⟨⟨error, member, tells⟩, stuck⟩
    rcases unspoiled with untold | free
    · exact Bool.false_ne_true ((untold error member).symm.trans tells)
    · exact free stuck
  obtain ⟨m, member, rfl⟩ := List.mem_map.mp due
  exact whole m member

end Runs

/-! ## With a bookkeeper -/

/-- A session with a bookkeeper. -/
def withBookkeeper (cancels : Request → Bool) : Runner Books :=
  .plain .standard (bookkeeper cancels) 5

/-- The session that begins with empty books. -/
def blankWorld : World Books :=
  .start .empty

/-- Where a call with a bookkeeper ends. -/
def afterCall {α : Type} (s : MigrationSession) (cancels : Request → Bool)
    (world : World Books) (call : LifecycleCall α) : World Books :=
  ((s.perform call).run (withBookkeeper cancels) world).2

/-- A migration that runs SQL of the user, and can be undone. -/
def auditTrail : Migration :=
  { name := "audit_trail"
    versionSchema := none
    operations := [.rawSql { up := "CREATE TABLE audit (id int)", down := some "DROP TABLE audit"
                             onComplete := false }] }

/-- Where the users have been created, and the audit trail is in progress. -/
def handedOn : World Books :=
  let users := usual.afterCall (fun _ => false) blankWorld (.start .createsUsers)
  let complete := usual.afterCall (fun _ => false) users .complete
  let again := usual.afterCall (fun _ => false) complete (.start .createsUsers)
  usual.afterCall (fun _ => false) again (.start auditTrail)

/-- A start of the same migration is refused in between, and both versions are served in the end. -/
theorem both_versions_served_during_handover :
    usual.Calls (withBookkeeper fun _ => false) {.createsUsers, auditTrail} blankWorld
      [.duplicateMigration "public" "create_users"] handedOn ∧
    ∀ name, handedOn.state.server.served name = true ↔
      name ∈ ["public_create_users", "public_audit_trail"] := by
  have calls : usual.Calls (withBookkeeper fun _ => false) {.createsUsers, auditTrail} blankWorld
      [.duplicateMigration "public" "create_users"] handedOn :=
    .success (.failure (.success (.success .none (.start (.inl rfl)) rfl) .complete rfl)
      (.start (.inl rfl)) rfl) (.start (.inr rfl)) rfl
  have apart {f : Migration → String} (differ : f .createsUsers ≠ f auditTrail) :
      Set.InjOn f {.createsUsers, auditTrail} := by
    rintro _ (rfl | rfl) _ (rfl | rfl) same
    · rfl
    · exact absurd same differ
    · exact absurd same.symm differ
    · rfl
  refine ⟨calls, ?_⟩
  refine (served_versions_are_due (keeps_bookkeeper _ _) rfl rfl rfl (apart (by decide))
    (apart (by decide)) rfl rfl calls).2 (.inl ?_)
  rintro _ member
  cases List.mem_singleton.mp member
  rfl

/-- A session whose transformer refuses to drop anything. -/
def undropping : MigrationSession :=
  { usual with config := { usual.config with transformer := .ofRules (some "DROP") none } }

/-- Whether the request drops a version schema. -/
def dropsVersion : Request → Bool
  | .change (.dropVersionSchema _) => true
  | _ => false

/-- A rollback that stops halfway has dropped the version schema of a migration that stays in
progress: where the text is refused that undoes SQL of the user, and where the session is cancelled
while the version schema is dropped. -/
theorem version_lost_halfway :
    (Bookkeeping (bookkeeper fun _ => false) undropping.ledger undropping.schema id id ∧
      ¬∀ errors after,
        undropping.Calls (withBookkeeper fun _ => false) {auditTrail} blankWorld errors after →
          ∀ name, after.state.server.served name = true ↔
            name ∈ undropping.dueNames id after.state.server) ∧
    ¬∀ errors after,
      usual.Calls (withBookkeeper dropsVersion) {auditTrail} blankWorld errors after →
        ∀ name, after.state.server.served name = true ↔
          name ∈ usual.dueNames id after.state.server := by
  refine ⟨⟨keeps_bookkeeper _ _, ?_⟩, ?_⟩
  · intro served
    have calls : undropping.Calls (withBookkeeper fun _ => false) {auditTrail} blankWorld
        [.transform "DROP is not allowed"]
        (undropping.afterCall (fun _ => false)
          (undropping.afterCall (fun _ => false) blankWorld (.start auditTrail)) .rollback) :=
      .failure (.success .none (.start (Set.mem_singleton _)) rfl) .rollback rfl
    have there := (served _ _ calls "public_audit_trail").mpr (List.mem_singleton.mpr rfl)
    cases there
  · intro served
    have calls : usual.Calls (withBookkeeper dropsVersion) {auditTrail} blankWorld [.cancelled]
        (usual.afterCall dropsVersion
          (usual.afterCall dropsVersion blankWorld (.start auditTrail)) .rollback) :=
      .failure (.success .none (.start (Set.mem_singleton _)) rfl) .rollback rfl
    have there := (served _ _ calls "public_audit_trail").mpr (List.mem_singleton.mpr rfl)
    cases there

end MigrationSession

end ExpandContract
