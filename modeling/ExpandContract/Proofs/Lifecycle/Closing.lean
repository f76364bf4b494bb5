import ExpandContract.Proofs.Ledger.Standing
import ExpandContract.Proofs.Lifecycle.Completion
import ExpandContract.Proofs.Session.Persevering

/-!
# The last step of a migration

A migration is closed by its completion or by a rollback. Both calls write the ledger, and both do
it last (`ledger_written_last`): everything else has been accepted by then, all hooks have
succeeded, and nothing follows. So a call that fails has left the entry as it stood, and the
migration is still active. It may be completed again, or rolled back.
-/

set_option autoImplicit false

namespace ExpandContract

open Session Procedure Sql

/-! ## Operations -/

section Operations

variable {ctx : PhaseContext}

theorem PhaseContext.perseveres_transform {sql : String} : (ctx.transform sql).Perseveres := by
  unfold PhaseContext.transform
  split
  · exact .done _
  · exact .fail _

theorem RawSql.perseveres_runText {sql : String} : (runText ctx sql).Perseveres :=
  .bind PhaseContext.perseveres_transform fun _ => .change _

theorem Operation.perseveres_prepare (op : Operation) : (op.prepare ctx).Perseveres := by
  cases op with
  | addColumn op => exact .forM (fun _ => .change _) _
  | _ => exact .done _

theorem AddColumn.perseveres_complete (op : AddColumn) : (op.complete ctx).Perseveres := by
  refine .guarded (.change _) (.bind (.change _) fun _ => .guarded (.change _) ?_)
  split
  · exact .change _
  · exact .done _

theorem RawSql.perseveres_complete (op : RawSql) : (op.complete ctx).Perseveres := by
  unfold RawSql.complete
  split
  · exact perseveres_runText
  · exact .done _

theorem Operation.perseveres_complete (op : Operation) : (op.complete ctx).Perseveres := by
  cases op with
  | createTable op => exact .done _
  | dropTable op => exact .change _
  | addColumn op => exact op.perseveres_complete
  | dropColumn op => exact .guarded (.change _) (.change _)
  | renameColumn op => exact .change _
  | createIndex op => exact .done _
  | dropIndex op => exact .change _
  | rawSql op => exact op.perseveres_complete

theorem DropColumn.perseveres_rollback (op : DropColumn) : (op.rollback ctx).Perseveres := by
  unfold DropColumn.rollback
  split
  · exact .change _
  · exact .done _

theorem RawSql.perseveres_rollback (op : RawSql) : (op.rollback ctx).Perseveres := by
  unfold RawSql.rollback
  cases op.down with
  | none => exact .done _
  | some down => exact perseveres_runText

theorem Operation.perseveres_rollback (op : Operation) : (op.rollback ctx).Perseveres := by
  cases op with
  | createTable op => exact .change _
  | dropTable op => exact .change _
  | addColumn op => exact .bind (.change _) fun _ => .change _
  | dropColumn op => exact op.perseveres_rollback
  | renameColumn op => exact .done _
  | createIndex op => exact .change _
  | dropIndex op => exact .done _
  | rawSql op => exact op.perseveres_rollback

end Operations

/-! ## Reading the ledger -/

namespace Ledger

variable {l : Ledger} {schema name : String}

theorem perseveres_activeMigration : (l.activeMigration schema).Perseveres := by
  refine .bind (.fetch? _) fun found => ?_
  cases found with
  | none => exact .fail _
  | some row => exact .ofExcept _

theorem perseveres_migrationNamed : (l.migrationNamed schema name).Perseveres := by
  refine .bind (.fetch? _) fun found => ?_
  cases found with
  | none => exact .fail _
  | some row => exact .ofExcept _

theorem perseveres_previousVersion {includeInferred : Bool} :
    (l.previousVersion schema includeInferred).Perseveres := by
  refine .bind (.fetch? _) fun found => ?_
  cases found with
  | none => exact .done _
  | some row => exact .ofExcept _

theorem perseveres_readSchema : (l.readSchema schema).Perseveres := by
  refine .bind (.fetch? _) fun found => ?_
  cases found with
  | none => exact .fail _
  | some row => exact .ofExcept _

end Ledger

namespace MigrationSession

variable {s : MigrationSession} {m : Migration} {notes : List Note}

theorem spares_of_follows {p : Procedure Unit} {plan : List Change} (follows : p.Follows plan) :
    p.AsksOnly SparesLedger := by
  refine follows.asks.mono ?_
  rintro _ ⟨statement, _, rfl⟩
  exact sparesLedger_change statement

/-! ## Completions -/

theorem perseveres_makeVersionSchema {snapshot : Schema} {name : String} :
    (s.makeVersionSchema snapshot name).Perseveres :=
  .change _

theorem perseveres_prepareOperations {ctx : PhaseContext} {operations : List Operation} :
    (prepareOperations ctx operations).Perseveres := by
  induction operations with
  | nil => exact .done _
  | cons op rest ih => exact .bind op.perseveres_prepare fun _ => ih

theorem perseveres_completeOperations {ctx : PhaseContext} {operations : List Operation} :
    (completeOperations ctx operations).Perseveres := by
  induction operations with
  | nil => exact .done _
  | cons op rest ih => exact .bind op.perseveres_complete fun _ => ih

theorem perseveres_retirePrevious : s.retirePrevious.Perseveres := by
  unfold retirePrevious
  split
  · exact .done _
  · refine .bind Ledger.perseveres_previousVersion fun version => ?_
    cases version with
    | none => exact .done _
    | some name => exact .bind Ledger.perseveres_migrationNamed fun _ => .change _

theorem performs_contractTables :
    (s.contractTables m).Performs
      (hooksOf .beforeComplete s.config.hooks ++ hooksOf .afterComplete s.config.hooks) := by
  refine .after Ledger.perseveres_readSchema fun _ => ?_
  refine .bind (.runHooks _) fun _ => ?_
  refine .after perseveres_completeOperations fun _ => ?_
  dsimp only
  split
  · exact .after Ledger.perseveres_readSchema fun _ =>
      .after perseveres_makeVersionSchema fun _ => .runHooks _
  · exact .runHooks _

theorem performs_completionSteps :
    (s.completionSteps m).Performs
      (hooksOf .beforeComplete s.config.hooks ++ hooksOf .afterComplete s.config.hooks) :=
  .after perseveres_prepareOperations fun _ =>
    .after perseveres_retirePrevious fun _ => performs_contractTables

theorem spares_completionSteps : (s.completionSteps m).AsksOnly SparesLedger := by
  refine asksOnly_completionSteps.mono ?_
  intro request asks
  cases asks with
  | reads reads => exact sparesLedger_of_reads reads
  | prepares _ _ => exact sparesLedger_change _
  | retires => exact sparesLedger_change _
  | hook hook =>
      obtain ⟨_, _, _, _, rfl⟩ := hook
      exact sparesLedger_change _
  | contracts _ _ => exact sparesLedger_change _
  | shows => exact sparesLedger_change _

/-! ## Rollbacks -/

theorem perseveres_rollbackOperations {ctx : PhaseContext} {operations : List Operation} :
    (rollbackOperations ctx operations).Perseveres := by
  induction operations with
  | nil => exact .done _
  | cons op rest ih => exact .bind op.perseveres_rollback fun _ => ih

theorem perseveres_undoChanges : (s.undoChanges m).Perseveres := by
  refine .bind ?_ fun _ => perseveres_rollbackOperations
  split
  · exact .change _
  · exact .done _

theorem perseveres_restorePreviousVersion : s.restorePreviousVersion.Perseveres := by
  unfold restorePreviousVersion
  split
  · exact .done _
  · refine .bind Ledger.perseveres_previousVersion fun version => ?_
    cases version with
    | none => exact .done _
    | some name =>
        refine .bind Ledger.perseveres_migrationNamed fun previous => ?_
        dsimp only
        split
        · exact .done _
        · refine .bind (.bind (.fetchOne _) fun _ => .ofExcept _) fun isThere => ?_
          cases isThere with
          | true => exact .done _
          | false => exact .bind Ledger.perseveres_readSchema fun _ => perseveres_makeVersionSchema

theorem spares_restorePreviousVersion : s.restorePreviousVersion.AsksOnly SparesLedger := by
  refine asksOnly_restorePreviousVersion (fun _ => sparesLedger_of_reads) (fun name => ?_)
    fun _ => sparesLedger_change _
  rintro ⟨_, _, _, ⟨⟩⟩

/-- What a rollback of a migration does before the entry is erased. -/
def rollbackSteps (s : MigrationSession) (m : Migration) : Procedure Unit := do
  s.undoChanges m
  s.restorePreviousVersion

theorem perseveres_rollbackSteps : (s.rollbackSteps m).Perseveres :=
  .bind perseveres_undoChanges fun _ => perseveres_restorePreviousVersion

theorem spares_rollbackSteps : (s.rollbackSteps m).AsksOnly SparesLedger :=
  .bind (spares_of_follows follows_undoChanges) fun _ => spares_restorePreviousVersion

/-- Where all of that succeeds, the changes that undo the migration have been accepted, in their
order. -/
theorem accepted_of_rollbackSteps (dialogue : (s.rollbackSteps m).Dialogue notes (.ok ())) :
    (s.undoPlan m).Sublist (acceptedChanges notes) := by
  obtain ⟨undoing, _, _, rfl, undone, _⟩ := dialogue_bind_ok.mp dialogue
  rw [acceptedChanges_append, follows_undoChanges.whole undoing undone]
  exact List.sublist_append_left ..

/-! ## Both calls -/

/-- The two ways to close a migration. -/
inductive Closing where
  | completion
  | rollback
deriving DecidableEq, Repr

namespace Closing

/-- The call. -/
def call (s : MigrationSession) : Closing → Procedure Unit
  | .completion => s.complete
  | .rollback => s.rollback

/-- What the call does between reading which migration is active and writing the ledger. -/
def steps (s : MigrationSession) (m : Migration) : Closing → Procedure Unit
  | .completion => s.completionSteps m
  | .rollback => s.rollbackSteps m

/-- The changes that the call has to make, in their order. -/
def plan (s : MigrationSession) (m : Migration) : Closing → List Change
  | .completion => s.completionPlan m
  | .rollback => s.undoPlan m

/-- The phases whose hooks the call runs. -/
def phases : Closing → List HookPhase
  | .completion => [.beforeComplete, .afterComplete]
  | .rollback => []

/-- The hooks that the call runs, in their order. -/
def hooks (s : MigrationSession) (c : Closing) : List Hook :=
  c.phases.flatMap fun phase => hooksOf phase s.config.hooks

/-- The query with which the call writes the ledger. -/
def query (s : MigrationSession) (m : Migration) : Closing → Ledger.Query
  | .completion => .markDone s.schema m.name
  | .rollback => .erase s.schema m.name

/-- The request with which the call writes the ledger. -/
def entry (s : MigrationSession) (m : Migration) (c : Closing) : Request :=
  s.ledger.request (c.query s m)

/-- Where the entry of the migration stands once it is closed. -/
def leaves : Closing → Ledger.Standing
  | .completion => .complete
  | .rollback => .absent

variable {c : Closing} {outcome : Except Error Unit}

/-- The write of the call, which fails where no entry is found. -/
def write (s : MigrationSession) (m : Migration) (c : Closing) : Procedure Unit := do
  match ← fetch? (c.entry s m) with
  | some _ => return ()
  | none => Procedure.fail (.noActiveMigration s.schema)

theorem call_eq :
    c.call s = (s.ledger.activeMigration s.schema).bind fun m =>
      (c.steps s m).bind fun _ => c.write s m := by
  change c.call s = s.ledger.activeMigration s.schema >>= fun m =>
    c.steps s m >>= fun _ => c.write s m
  cases c with
  | completion =>
      exact complete_eq_steps
  | rollback =>
      change s.rollback = _
      rw [rollback_eq]
      simp only [steps, rollbackSteps, LawfulMonad.bind_assoc]
      rfl

theorem performs_steps : (c.steps s m).Performs (c.hooks s) := by
  cases c with
  | completion =>
      have both : hooks s .completion =
          hooksOf .beforeComplete s.config.hooks ++ hooksOf .afterComplete s.config.hooks := by
        simp [hooks, phases]
      rw [both]
      exact performs_completionSteps
  | rollback => exact .of_perseveres perseveres_rollbackSteps

theorem spares_steps : (c.steps s m).AsksOnly SparesLedger := by
  cases c with
  | completion => exact spares_completionSteps
  | rollback => exact spares_rollbackSteps

theorem accepted_of_steps (dialogue : (c.steps s m).Dialogue notes (.ok ())) :
    (c.plan s m).Sublist (acceptedChanges notes) := by
  cases c with
  | completion => exact accepted_of_completionSteps dialogue
  | rollback => exact accepted_of_rollbackSteps dialogue

/-! ## The write -/

/-- The write is repeated until it is accepted, and succeeds just where an entry is found; or it is
refused, and the call fails. -/
theorem dialogue_write (dialogue : (c.write s m).Dialogue notes outcome) :
    (∃ refusals answer, Refusals (c.entry s m) refusals ∧
      notes = refusals ++ [.asked (c.entry s m) (.ok answer)] ∧
      (outcome = .ok () ↔ answer.rows ≠ [])) ∨
    (∃ error, outcome = .error error) ∧ Refusals (c.entry s m) notes := by
  rcases dialogue_bind.mp dialogue with ⟨first, rest, found, rfl, fetched, follows⟩ |
    ⟨error, rfl, fails⟩
  · rcases dialogue_fetch? fetched with ⟨refusals, answer, same, refused, rfl⟩ | ⟨_, impossible, _⟩
    · cases same
      refine .inl ⟨refusals, answer, refused, ?_⟩
      cases rows : answer.rows with
      | nil =>
          rw [rows] at follows
          obtain ⟨rfl, rfl⟩ := follows
          exact ⟨List.append_nil _, by simp⟩
      | cons row others =>
          rw [rows] at follows
          obtain ⟨rfl, rfl⟩ := follows
          exact ⟨List.append_nil _, by simp⟩
    · cases impossible
  · rcases dialogue_fetch? fails with ⟨_, _, impossible, _⟩ | ⟨_, _, refused, _⟩
    · cases impossible
    · exact .inr ⟨⟨error, rfl⟩, refused⟩

/-- The accepted write closes the entry of the migration, if it has found one. -/
theorem standing?_entry {schema name : String} {answer : Answer} :
    s.ledger.standing? schema name (.asked (c.entry s m) (.ok answer)) =
      if answer.rows ≠ [] ∧ s.schema = schema ∧ m.name = name then some c.leaves else none := by
  cases c <;> simp [entry, query, leaves, Ledger.request, Ledger.standing?, Ledger.Query.standing?]

/-- A write that fails has found no entry, and leaves every entry as it stands. -/
theorem standingAfter_of_failed_write {error : Error}
    (dialogue : (c.write s m).Dialogue notes (.error error)) :
    (∀ request answer, .asked request (.ok answer) ∈ notes → answer.rows = []) ∧
      ∀ schema name standing, s.ledger.standingAfter schema name standing notes = standing := by
  rcases dialogue_write dialogue with ⟨refusals, answer, refused, rfl, found⟩ | ⟨_, refused⟩
  · have none : answer.rows = [] := by simpa using found
    constructor
    · intro request other member
      rcases List.mem_append.mp member with early | last
      · obtain ⟨_, impossible⟩ := refused _ early
        cases impossible
      · cases List.mem_singleton.mp last
        exact none
    · intro schema name standing
      rw [Ledger.standingAfter_append, Ledger.standingAfter_of_refusals refused]
      refine Ledger.standingAfter_of_none fun note member => ?_
      rw [List.mem_singleton.mp member, standing?_entry, if_neg (by simp [none])]
  · constructor
    · intro request answer member
      obtain ⟨_, impossible⟩ := refused _ member
      cases impossible
    · exact fun _ _ _ => Ledger.standingAfter_of_refusals refused

/-- A write that succeeds closes the entry. -/
theorem standingAfter_of_write (dialogue : (c.write s m).Dialogue notes (.ok ()))
    (standing : Ledger.Standing) :
    s.ledger.standingAfter s.schema m.name standing notes = c.leaves := by
  rcases dialogue_write dialogue with ⟨refusals, answer, refused, rfl, found⟩ | ⟨⟨_, impossible⟩, _⟩
  · rw [Ledger.standingAfter_append, Ledger.standingAfter_of_refusals refused]
    change (s.ledger.standing? s.schema m.name
      (.asked (c.entry s m) (.ok answer))).getD standing = _
    rw [standing?_entry, if_pos ⟨found.mp rfl, rfl, rfl⟩]
    rfl
  · cases impossible

/-- All that the call has to do before its write has been done: the server has told the migration,
every request has been accepted, none of them wrote the ledger, the changes of the call are among
them in their order, and the hooks have succeeded. -/
structure WorkDone (s : MigrationSession) (m : Migration) (c : Closing) (notes : List Note) :
    Prop where
  tells : s.ledger.Tells s.schema m notes
  spares : AskedOnly SparesLedger notes
  persevered : Persevering notes
  accepted : (c.plan s m).Sublist (acceptedChanges notes)
  hooks : ∀ hook ∈ c.hooks s, hook.Succeeded notes

/-- The call fails without a write, or it writes the ledger when all else has been done. -/
theorem dialogue_call (dialogue : (c.call s).Dialogue notes outcome) :
    (AskedOnly SparesLedger notes ∧ ∃ error, outcome = .error error) ∨
      ∃ m work writing, notes = work ++ writing ∧ c.WorkDone s m work ∧
        (c.write s m).Dialogue writing outcome := by
  rw [call_eq] at dialogue
  have spared {first : List Note} {result : Except Error Migration}
      (told : (s.ledger.activeMigration s.schema).Dialogue first result) :
      AskedOnly SparesLedger first :=
    (Ledger.asksOnly_activeMigration first result told).mono fun _ => sparesLedger_of_reads
  rcases dialogue_bind.mp dialogue with ⟨first, rest, m, rfl, told, follows⟩ | ⟨error, rfl, fails⟩
  · rcases dialogue_bind.mp follows with
      ⟨middle, last, _, rfl, worked, writes⟩ | ⟨error, rfl, fails⟩
    · refine .inr ⟨m, first ++ middle, last, (List.append_assoc ..).symm, ?_, writes⟩
      obtain ⟨persevered, succeeded⟩ := performs_steps middle () worked
      constructor
      · exact (Ledger.tells_of_dialogue told).mono (List.subset_append_left ..)
      · exact (spared told).append (spares_steps middle _ worked)
      · exact (Ledger.perseveres_activeMigration first m told).append persevered
      · rw [acceptedChanges_append]
        exact (accepted_of_steps worked).trans (List.sublist_append_right ..)
      · exact fun hook member => (succeeded hook member).mono (List.subset_append_right ..)
    · exact .inl ⟨(spared told).append (spares_steps rest _ fails), error, rfl⟩
  · exact .inl ⟨spared fails, error, rfl⟩

/-- Behind notes that spare the ledger, a write is one of what follows them. -/
theorem split_of_writes {work writing before after : List Note} {request : Request}
    {reply : Except ServerError Answer} (spares : AskedOnly SparesLedger work)
    (writes : request.WritesLedger)
    (split : work ++ writing = before ++ .asked request reply :: after) :
    ∃ earlier, before = work ++ earlier ∧ writing = earlier ++ .asked request reply :: after := by
  rcases split_around split with ⟨earlier, rfl, same⟩ | ⟨later, rfl, rfl⟩
  · exact ⟨earlier, rfl, same⟩
  · exact absurd writes (spares request reply (by simp))

/-- What stands around an attempt of a request that is repeated until it is accepted. -/
theorem attempts_around {request : Request} {refusals last before after : List Note} {note : Note}
    (refused : Refusals request refusals)
    (ends : last = [] ∨ ∃ answer, last = [.asked request (.ok answer)])
    (split : refusals ++ last = before ++ note :: after) :
    Refusals request before ∧ (∀ other ∈ note :: after, ∃ reply, other = .asked request reply) ∧
      ∀ answer, note = .asked request (.ok answer) → after = [] := by
  rcases List.append_eq_append_iff.mp split with ⟨earlier, rfl, same⟩ | ⟨later, rfl, same⟩
  · obtain rfl | ⟨answer, rfl⟩ := ends
    · exact absurd same (by simp)
    · cases earlier with
      | nil =>
          cases same
          exact ⟨by simpa using refused, by simp, fun _ _ => rfl⟩
      | cons other earlier => exact absurd (List.cons.inj same).2 (by simp)
  · have early : Refusals request before :=
      fun other member => refused other (List.mem_append_left _ member)
    cases later with
    | nil =>
        obtain rfl | ⟨answer, rfl⟩ := ends
        · cases same
        · cases same
          exact ⟨early, by simp, fun _ _ => rfl⟩
    | cons other later =>
        rw [List.cons_append] at same
        obtain ⟨rfl, rfl⟩ := List.cons.inj same
        obtain ⟨cause, rfl⟩ := refused note (by simp)
        refine ⟨early, ?_, by rintro _ ⟨⟩⟩
        rw [← List.cons_append]
        refine List.forall_mem_append.mpr ⟨fun other member => ?_, ?_⟩
        · obtain ⟨cause, rfl⟩ := refused other (List.mem_append_right _ member)
          exact ⟨_, rfl⟩
        · obtain rfl | ⟨answer, rfl⟩ := ends
          · simp
          · simp

/-- A completion and a rollback write the ledger last. When the write is sent, all else has been
done, and nothing but the same write is sent afterwards, nor anything at all once it is accepted.
So where the call fails, no accepted write has found an entry, and every entry stands as it stood;
where it succeeds, the entry of the active migration is closed. -/
theorem ledger_written_last (c : Closing) (shown : (c.call s).Shows notes outcome) :
    (∀ before request reply after, notes = before ++ .asked request reply :: after →
      request.WritesLedger →
        ∃ m work refusals, before = work ++ refusals ∧ c.WorkDone s m work ∧
          request = c.entry s m ∧ Refusals request refusals ∧
          (∀ note ∈ after, ∃ reply, note = .asked request reply) ∧
          ∀ answer, reply = .ok answer → after = []) ∧
    ((∃ error, outcome = .error error) →
      (∀ request answer, .asked request (.ok answer) ∈ notes → request.WritesLedger →
        answer.rows = []) ∧
      ∀ schema name standing, s.ledger.standingAfter schema name standing notes = standing) ∧
    (outcome = .ok () → ∃ m, s.ledger.Tells s.schema m notes ∧
      ∀ standing, s.ledger.standingAfter s.schema m.name standing notes = c.leaves) := by
  rcases dialogue_call shown.dialogue with
    ⟨spares, error, rfl⟩ | ⟨m, work, writing, rfl, done, writes⟩
  · -- The call has failed before its write.
    refine ⟨?_, fun _ => ⟨?_, fun _ _ _ => Ledger.standingAfter_of_spares spares⟩, by rintro ⟨⟩⟩
    · rintro before request reply after rfl writes
      exact absurd writes (spares request reply (by simp))
    · intro request answer member writes
      exact absurd writes (spares request _ member)
  · have attempts : ∃ refusals last, writing = refusals ++ last ∧
        Refusals (c.entry s m) refusals ∧
        (last = [] ∨ ∃ answer, last = [.asked (c.entry s m) (.ok answer)]) := by
      rcases dialogue_write writes with ⟨refusals, answer, refused, rfl, _⟩ | ⟨_, refused⟩
      · exact ⟨refusals, _, rfl, refused, .inr ⟨answer, rfl⟩⟩
      · exact ⟨writing, [], by simp, refused, .inl rfl⟩
    refine ⟨?_, ?_, ?_⟩
    · intro before request reply after split isWrite
      obtain ⟨earlier, rfl, rfl⟩ := split_of_writes done.spares isWrite split
      obtain ⟨refusals, last, same, refused, ends⟩ := attempts
      obtain ⟨early, all, ended⟩ := attempts_around refused ends same.symm
      obtain ⟨_, isEntry⟩ := all _ List.mem_cons_self
      cases isEntry
      refine ⟨m, work, earlier, rfl, done, rfl, early, ?_, ?_⟩
      · exact fun note member => all note (List.mem_cons_of_mem _ member)
      · rintro answer rfl
        exact ended answer rfl
    · rintro ⟨error, rfl⟩
      obtain ⟨unfound, unmoved⟩ := standingAfter_of_failed_write writes
      constructor
      · intro request answer member isWrite
        rcases List.mem_append.mp member with early | late
        · exact absurd isWrite (done.spares request _ early)
        · exact unfound request answer late
      · intro schema name standing
        rw [Ledger.standingAfter_append, Ledger.standingAfter_of_spares done.spares]
        exact unmoved schema name standing
    · rintro rfl
      refine ⟨m, done.tells.mono (List.subset_append_left ..), fun standing => ?_⟩
      rw [Ledger.standingAfter_append]
      exact standingAfter_of_write writes _

end Closing

/-- A server that cancels the record of a completion, and otherwise answers in a given way. -/
def interrupting (answer : Request → Except ServerError Answer) :
    Request → Except ServerError Answer
  | .ledger _ (.markDone _ _) => .error ⟨"57014", "canceling statement due to user request"⟩
  | request => answer request

/-- What is noted of a completion that is not recorded. -/
def interruptedEnd (s : MigrationSession) (previous m : Migration) : List Note :=
  s.complete.notesWith (interrupting (succeeding previous m))

/-- A migration that renames a column of the users and drops the orders. -/
def renamesAndDrops : Migration :=
  { name := "rename_and_drop"
    versionSchema := none
    operations := [.renameColumn { table := "users", source := "id", target := "number" },
      .dropTable { name := "orders" }] }

/-- The completion that is not recorded has renamed the column and dropped the table, and its entry
is still in progress. -/
theorem standing_of_interrupted_completion :
    usual.complete.Shows (usual.interruptedEnd (initialVersion none) renamesAndDrops)
        (.error (.database (.server ⟨"57014", "canceling statement due to user request"⟩))) ∧
      (∃ work refusals,
        (usual.interruptedEnd (initialVersion none) renamesAndDrops).dropLast = work ++ refusals ∧
          Closing.completion.WorkDone usual renamesAndDrops work) ∧
      Closing.completion.plan usual renamesAndDrops =
        [.renameColumn "public" "users" "id" "number", .dropTable "public" (parkedName "orders")] ∧
      usual.ledger.standingAfter "public" "rename_and_drop" .inProgress
        (usual.interruptedEnd (initialVersion none) renamesAndDrops) = .inProgress := by
  have shown : (Closing.completion.call usual).Shows
      (usual.interruptedEnd (initialVersion none) renamesAndDrops)
      (.error (.database (.server ⟨"57014", "canceling statement due to user request"⟩))) :=
    shows_of_outcomeWith rfl
  obtain ⟨writes, fails, _⟩ := Closing.ledger_written_last .completion shown
  obtain ⟨m, work, refusals, split, done, same, _⟩ :=
    writes (usual.interruptedEnd (initialVersion none) renamesAndDrops).dropLast
      (usual.ledger.request (.markDone "public" "rename_and_drop")) _ [] rfl ⟨_, _, rfl, rfl⟩
  have among : work ⊆ usual.interruptedEnd (initialVersion none) renamesAndDrops :=
    fun _ member => List.mem_of_mem_dropLast (split ▸ List.mem_append_left _ member)
  have told : m = renamesAndDrops := by
    refine Ledger.eq_of_told_answering ?_ (done.tells.mono among)
    rfl
  exact ⟨shown, ⟨work, refusals, split, told ▸ done⟩, rfl, (fails ⟨_, rfl⟩).2 _ _ _⟩

end MigrationSession

end ExpandContract
