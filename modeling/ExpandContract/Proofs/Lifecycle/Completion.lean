import ExpandContract.Proofs.Catalogue.Holdings
import ExpandContract.Proofs.Lifecycle.Compensation
import ExpandContract.Proofs.Lifecycle.Versions
import ExpandContract.Proofs.Migration.Contraction
import ExpandContract.Proofs.Session.Viewing

/-!
# What a completion asks for

A completion reads which migration is active, does the work (`completionSteps`) and records it. The
work asks for the changes of the operations and for little else (`CompletionRequest`): it reads the
ledger, drops the version schema before, makes its own anew where SQL of the user may have changed
what it shows, and runs hooks. Where the work succeeds, every change of the operations has been
accepted. In a view that shows nothing but changes of tables, a completion goes through those of its
operations in their order (`viewed_of_complete`).
-/

set_option autoImplicit false

namespace ExpandContract.MigrationSession

open Session Procedure Sql

variable {s : MigrationSession} {m : Migration} {notes : List Note}

/-! ## The work of a completion -/

/-- What a completion does with the tables, and with the version schema that shows them. -/
def contractTables (s : MigrationSession) (m : Migration) : Procedure Unit := do
  let _ ← s.ledger.readSchema s.schema
  s.runPhaseHooks .beforeComplete
  completeOperations (s.phaseContext m) m.operations
  if m.effectUnknown && s.config.keepsVersionSchema m then
    let refreshed ← s.ledger.readSchema s.schema
    s.makeVersionSchema refreshed (m.versionSchemaName s.schema)
  s.runPhaseHooks .afterComplete

theorem contract_eq :
    s.contract m = (s.contractTables m).bind fun _ => s.ledger.complete s.schema m.name := by
  change s.contract m = s.contractTables m >>= fun _ => s.ledger.complete s.schema m.name
  unfold contract contractTables
  cases m.effectUnknown && s.config.keepsVersionSchema m <;>
    simp only [Bool.false_eq_true, if_false, if_true, LawfulMonad.bind_assoc]

theorem follows_prepareOperations {ctx : PhaseContext} {operations : List Operation} :
    (prepareOperations ctx operations).Follows
      (operations.flatMap (Operation.preparation ctx)) := by
  induction operations with
  | nil => exact .done
  | cons op rest ih =>
      rw [List.flatMap_cons]
      exact .bind op.follows_prepare ih

theorem follows_completeOperations {ctx : PhaseContext} {operations : List Operation} :
    (completeOperations ctx operations).Follows
      (operations.flatMap (Operation.contraction ctx)) := by
  induction operations with
  | nil => exact .done
  | cons op rest ih =>
      rw [List.flatMap_cons]
      exact .bind op.follows_complete ih

/-- What a completion of a migration does before it is recorded. -/
def completionSteps (s : MigrationSession) (m : Migration) : Procedure Unit := do
  prepareOperations (s.phaseContext m) m.operations
  s.retirePrevious
  s.contractTables m

theorem complete_eq_steps :
    s.complete = (s.ledger.activeMigration s.schema).bind fun m =>
      (s.completionSteps m).bind fun _ => s.ledger.complete s.schema m.name := by
  change s.complete = s.ledger.activeMigration s.schema >>= fun m =>
    s.completionSteps m >>= fun _ => s.ledger.complete s.schema m.name
  rw [complete_eq]
  simp only [contract_eq, completionSteps, LawfulMonad.bind_assoc]
  rfl

/-! ## Its requests -/

/-- The requests of a completion of a migration, but for the one that records it. -/
inductive CompletionRequest (s : MigrationSession) (m : Migration) : Request → Prop where
  | reads {request : Request} (reads : s.ledger.Reads request) : CompletionRequest s m request
  | prepares {op : Operation} {statement : Change} (member : op ∈ m.operations)
      (prepares : statement ∈ op.preparation (s.phaseContext m)) :
      CompletionRequest s m (.change statement)
  | retires {name : String} : CompletionRequest s m (.change (.dropVersionSchema name))
  | hook {request : Request} (hook : s.HookRequest request) : CompletionRequest s m request
  | contracts {op : Operation} {statement : Change} (member : op ∈ m.operations)
      (contracts : statement ∈ op.contraction (s.phaseContext m)) :
      CompletionRequest s m (.change statement)
  | shows {version : VersionSchema} : CompletionRequest s m (.change (.makeVersionSchema version))

theorem asksOnly_retirePrevious : s.retirePrevious.AsksOnly (s.CompletionRequest m) := by
  unfold retirePrevious
  split
  · exact .done _
  · refine .bind (Ledger.asksOnly_previousVersion.mono fun _ => .reads) fun version => ?_
    cases version with
    | none => exact .done _
    | some name =>
        exact .bind (Ledger.asksOnly_migrationNamed.mono fun _ => .reads) fun _ => .change .retires

theorem asksOnly_contractTables : (s.contractTables m).AsksOnly (s.CompletionRequest m) := by
  have reading : (s.ledger.readSchema s.schema).AsksOnly (s.CompletionRequest m) :=
    Ledger.asksOnly_readSchema.mono fun _ reads => .reads reads.reads
  have hooked (phase : HookPhase) : (s.runPhaseHooks phase).AsksOnly (s.CompletionRequest m) :=
    asksOnly_runPhaseHooks.mono fun _ => .hook
  have contracted : (completeOperations (s.phaseContext m) m.operations).AsksOnly
      (s.CompletionRequest m) := by
    refine follows_completeOperations.asks.mono ?_
    rintro _ ⟨statement, among, rfl⟩
    obtain ⟨op, member, contracts⟩ := List.mem_flatMap.mp among
    exact .contracts member contracts
  refine .bind reading fun _ => .bind (hooked _) fun _ => .bind contracted fun _ => ?_
  dsimp only
  split
  · exact .bind reading fun _ => .bind (.change .shows) fun _ => hooked _
  · exact hooked _

theorem asksOnly_completionSteps : (s.completionSteps m).AsksOnly (s.CompletionRequest m) := by
  have prepared : (prepareOperations (s.phaseContext m) m.operations).AsksOnly
      (s.CompletionRequest m) := by
    refine follows_prepareOperations.asks.mono ?_
    rintro _ ⟨statement, among, rfl⟩
    obtain ⟨op, member, prepares⟩ := List.mem_flatMap.mp among
    exact .prepares member prepares
  exact .bind prepared fun _ => .bind asksOnly_retirePrevious fun _ => asksOnly_contractTables

/-- A completion that is told a migration asks for what the completion of that migration asks for,
and for its record. -/
theorem asked_of_complete {outcome : Except Error Unit}
    (dialogue : s.complete.Dialogue notes outcome)
    (told : ∀ active, s.ledger.Tells s.schema active notes → active = m) :
    AskedOnly (fun request => s.CompletionRequest m request ∨
      request = s.ledger.request (.markDone s.schema m.name)) notes := by
  have reads {first : List Note} {result : Except Error Migration}
      (reading : (s.ledger.activeMigration s.schema).Dialogue first result) :
      AskedOnly (fun request => s.CompletionRequest m request ∨
        request = s.ledger.request (.markDone s.schema m.name)) first :=
    (Ledger.asksOnly_activeMigration first result reading).mono fun _ reads => .inl (.reads reads)
  rw [complete_eq_steps] at dialogue
  rcases dialogue_bind.mp dialogue with ⟨first, rest, active, rfl, tells, follows⟩ | ⟨_, _, fails⟩
  · cases told active ((Ledger.tells_of_dialogue tells).mono (List.subset_append_left ..))
    refine (reads tells).append ?_
    refine AsksOnly.bind (asksOnly_completionSteps.mono fun _ => .inl) ?_ rest _ follows
    exact fun _ => Ledger.asksOnly_complete.mono fun _ => .inr
  · exact reads fails

/-! ## Its changes of tables -/

/-- The changes of a completion to tables, in their order. -/
def completionPlan (s : MigrationSession) (m : Migration) : List Change :=
  m.operations.flatMap (Operation.preparation (s.phaseContext m)) ++
    m.operations.flatMap (Operation.contraction (s.phaseContext m))

theorem accepted_of_contractTables (dialogue : (s.contractTables m).Dialogue notes (.ok ())) :
    (m.operations.flatMap (Operation.contraction (s.phaseContext m))).Sublist
      (acceptedChanges notes) := by
  obtain ⟨read, _, _, rfl, _, follows⟩ := dialogue_bind_ok.mp dialogue
  obtain ⟨hooked, _, _, rfl, _, follows⟩ := dialogue_bind_ok.mp follows
  obtain ⟨contracting, rest, _, rfl, contracted, _⟩ := dialogue_bind_ok.mp follows
  rw [acceptedChanges_append, acceptedChanges_append, acceptedChanges_append,
    follows_completeOperations.whole contracting contracted]
  exact (List.sublist_append_left ..).trans
    ((List.sublist_append_right ..).trans (List.sublist_append_right ..))

/-- Where the work of a completion succeeds, all of its changes to tables have been accepted, in
their order. -/
theorem accepted_of_completionSteps (dialogue : (s.completionSteps m).Dialogue notes (.ok ())) :
    (s.completionPlan m).Sublist (acceptedChanges notes) := by
  obtain ⟨preparing, _, _, rfl, prepared, follows⟩ := dialogue_bind_ok.mp dialogue
  obtain ⟨retiring, contracting, _, rfl, _, contracted⟩ := dialogue_bind_ok.mp follows
  rw [acceptedChanges_append, acceptedChanges_append,
    follows_prepareOperations.whole preparing prepared, completionPlan]
  exact (List.Sublist.refl _).append
    ((accepted_of_contractTables contracted).trans (List.sublist_append_right ..))

/-- Where a completion succeeds, all changes that contract the schema have been accepted. -/
theorem contracted_of_complete (dialogue : s.complete.Dialogue notes (.ok ()))
    (told : ∀ active, s.ledger.Tells s.schema active notes → active = m) {op : Operation}
    (member : op ∈ m.operations) {statement : Change}
    (contracts : statement ∈ op.contraction (s.phaseContext m)) :
    statement ∈ acceptedChanges notes := by
  rw [complete_eq_steps] at dialogue
  obtain ⟨first, _, active, rfl, tells, follows⟩ := dialogue_bind_ok.mp dialogue
  cases told active ((Ledger.tells_of_dialogue tells).mono (List.subset_append_left ..))
  obtain ⟨worked, _, _, rfl, works, _⟩ := dialogue_bind_ok.mp follows
  have planned : statement ∈ s.completionPlan m :=
    List.mem_append_right _ (List.mem_flatMap.mpr ⟨op, member, contracts⟩)
  have among : statement ∈ acceptedChanges worked :=
    (accepted_of_completionSteps works).subset planned
  simp only [acceptedChanges_append, List.mem_append, among, true_or, or_true]

section View

variable {γ : Type} {view : Change → List γ}
  (blind : ∀ statement : Change, statement.Neutral → view statement = [])
include blind

theorem realizes_runPhaseHooks (phase : HookPhase) : (s.runPhaseHooks phase).Realizes view [] := by
  refine .spares asksOnly_runPhaseHooks ?_
  rintro statement ⟨_, _, _, _, isRaw⟩
  cases isRaw
  exact blind _ trivial

omit blind in
theorem realizes_of_reads {α : Type} {p : Procedure α} (reads : p.AsksOnly s.ledger.Reads) :
    p.Realizes view [] :=
  .spares reads fun statement asked => absurd asked (not_reads_change statement)

/-- Of the work of a completion, a view shows what it shows of the preparations and contractions, if
it shows nothing of changes that are not about tables. -/
theorem realizes_completionSteps :
    (s.completionSteps m).Realizes view ((s.completionPlan m).flatMap view) := by
  have hooks (phase : HookPhase) : (s.runPhaseHooks phase).Realizes view [] :=
    realizes_runPhaseHooks blind phase
  have reading : (s.ledger.readSchema s.schema).Realizes view [] :=
    realizes_of_reads (Ledger.asksOnly_readSchema.mono fun _ reads => reads.reads)
  have retired : s.retirePrevious.Realizes view [] := by
    unfold retirePrevious
    split
    · exact .done _
    · refine .after (realizes_of_reads Ledger.asksOnly_previousVersion) fun version => ?_
      cases version with
      | none => exact .done _
      | some name =>
          exact .after (realizes_of_reads Ledger.asksOnly_migrationNamed) fun _ =>
            .unseen (blind _ trivial)
  have contracted : (s.contractTables m).Realizes view
      ((m.operations.flatMap (Operation.contraction (s.phaseContext m))).flatMap view) := by
    refine .after reading fun _ => .after (hooks _) fun _ => ?_
    refine .before (.of_follows follows_completeOperations) fun _ => ?_
    dsimp only
    split
    · exact .after reading fun _ => .after (.unseen (blind _ trivial)) fun _ => hooks _
    · exact hooks _
  rw [completionPlan, List.flatMap_append]
  exact .bind (.of_follows follows_prepareOperations) fun _ => .after retired fun _ => contracted

/-- Where a completion is told this migration, a view shows a beginning of that, and all of it if
the completion succeeds. -/
theorem viewed_of_complete {outcome : Except Error Unit}
    (dialogue : s.complete.Dialogue notes outcome)
    (told : ∀ active, s.ledger.Tells s.schema active notes → active = m) :
    viewed view notes <+: (s.completionPlan m).flatMap view ∧
      (outcome = .ok () → viewed view notes = (s.completionPlan m).flatMap view) := by
  have begins : (s.ledger.activeMigration s.schema).Realizes view [] :=
    realizes_of_reads Ledger.asksOnly_activeMigration
  rw [complete_eq_steps] at dialogue
  rcases dialogue_bind.mp dialogue with ⟨read, rest, active, rfl, tells, follows⟩ | ⟨_, rfl, fails⟩
  · cases told active ((Ledger.tells_of_dialogue tells).mono (List.subset_append_left ..))
    have records : (s.ledger.complete s.schema m.name).Realizes view [] := by
      refine .spares Ledger.asksOnly_complete ?_
      rintro statement ⟨⟩
    have works : ((s.completionSteps m).bind fun _ => s.ledger.complete s.schema m.name).Realizes
        view ((s.completionPlan m).flatMap view) :=
      .before (realizes_completionSteps blind) fun _ => records
    rw [viewed_append, begins.whole read m tells]
    refine ⟨works.prefixed rest outcome follows, ?_⟩
    rintro rfl
    exact works.whole rest () follows
  · rw [List.prefix_nil.mp (begins.prefixed _ _ fails)]
    exact ⟨List.nil_prefix, nofun⟩

end View

end ExpandContract.MigrationSession
