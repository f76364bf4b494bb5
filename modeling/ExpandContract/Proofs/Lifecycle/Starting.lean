import ExpandContract.Proofs.Lifecycle.Completion
import ExpandContract.Proofs.Lifecycle.Unfolding

/-!
# A start in a view

A start goes through the operations of a migration in their order. A view that shows nothing of
hooks and version schemas shows of a start just what it shows of its operations: if each of them
realizes a plan of its own, a start that succeeds realizes these plans, one after the other
(`MigrationSession.viewed_of_start`). A start that fails is undone, and what is done about it is
no part of any plan. But a kind of change with which no operation is undone is asked for in the
order of the plans, whether or not the start succeeds (`MigrationSession.asksNext_start`).
-/

set_option autoImplicit false

namespace ExpandContract

open Session Procedure Sql

/-! ## Operations in a view -/

section Operations

variable {γ : Type} {view : Change → List γ} {ctx : PhaseContext} {schema : Schema}

/-- The start of an operation of whose changes the view shows nothing. -/
theorem Operation.realizes_nothing {op : Operation}
    (blind : ∀ statement, op.Starts ctx statement → view statement = []) :
    (op.start ctx schema).Realizes view [] := by
  refine .spares op.asksOnly_start ?_
  rintro statement ⟨_, starts, ⟨⟩⟩
  exact blind statement starts

/-- The pending checks of a column have the names by which the later phases know them. -/
theorem AddColumn.names_of_pendingChecks {op : AddColumn} {notes : List Note}
    {checks : List PendingCheck} (dialogue : (op.pendingChecks ctx).Dialogue notes (.ok checks)) :
    checks.map (·.name) = op.pendingNames := by
  unfold pendingChecks at dialogue
  unfold pendingNames
  cases constrained : op.column.check with
  | none =>
      rw [constrained] at dialogue
      obtain ⟨_, same⟩ := dialogue
      cases same
      cases op.column.nullable <;> rfl
  | some check =>
      rw [constrained] at dialogue
      obtain ⟨_, _, _, _, _, _, same⟩ := dialogue_bind_ok.mp dialogue
      cases same
      cases op.column.nullable <;> rfl

/-- A column that is added first shows as a column, and then as a trigger if it is computed. -/
theorem AddColumn.realizes_start {op : AddColumn} {column trigger : List γ}
    (adds : ∀ spec checks, spec.name = op.shadow → checks.map (·.name) = op.pendingNames →
      view (.addColumn ctx.schema op.table spec checks) = column)
    (plain : op.up = none → trigger = [])
    (computes : op.up ≠ none → ∀ expression,
      view (.createSyncTrigger (op.trigger ctx expression)) = trigger) :
    (op.start ctx schema).Realizes view (column ++ trigger) := by
  have shaped : (op.column.shadowSpec ctx op.shadow).Realizes view [] :=
    .silent (.bind PhaseContext.asksOnly_transformOption fun _ => .done _)
  have checked : (op.pendingChecks ctx).Realizes view [] := .silent asksOnly_pendingChecks
  refine shaped.bind_of fun notes spec found => checked.bind_of fun asked checks pending => ?_
  rw [← adds spec checks (ColumnDefinition.dialogue_shadowSpec found)
    (names_of_pendingChecks pending)]
  refine .bind (.change _) fun _ => ?_
  cases computed : op.up with
  | none =>
      rw [plain computed]
      cases schema.table? op.table <;> exact .done _
  | some up =>
      refine .after (.silent PhaseContext.asksOnly_transform) fun sent => ?_
      rw [← computes (by simp [computed]) sent]
      refine .before (.change _) fun _ => ?_
      cases schema.table? op.table <;> exact .done _

end Operations

namespace MigrationSession

variable {s : MigrationSession} {m : Migration} {snapshot : Schema} {notes : List Note}
  {progress : List Backfill.Progress}

/-- The changes of a rollback undo operations, or are about version schemas. -/
theorem undo_of_rollbackRequest {statement : Change}
    (rolls : s.RollbackRequest (.change statement)) :
    statement.Neutral ∨ ∃ m : Migration, ∃ op ∈ m.operations,
      statement ∈ op.undo (s.phaseContext m) := by
  generalize same : Request.change statement = request at rolls
  cases rolls with
  | @undo m _ member =>
      cases same
      rcases List.mem_append.mp member with version | undoes
      · split at version
        · cases List.mem_singleton.mp version
          exact .inl trivial
        · cases version
      · obtain ⟨op, among, undoes⟩ := List.mem_flatMap.mp undoes
        exact .inr ⟨m, op, among, undoes⟩
  | finish finishes =>
      cases finishes with
      | reads reads => exact absurd (same ▸ reads) (not_reads_change statement)
      | hasSchema => cases same
      | version =>
          cases same
          exact .inl trivial
      | erase => cases same

section View

variable {γ : Type} {view : Change → List γ} {plan : Operation → List γ} {kind : Change → Prop}

/-! ## Starts that succeed -/

theorem realizes_startOperations {ctx : PhaseContext} {operations : List Operation}
    (starts : ∀ op ∈ operations, ∀ schema, (op.start ctx schema).Realizes view (plan op)) :
    (s.startOperations ctx operations snapshot).Realizes view (operations.flatMap plan) := by
  induction operations generalizing snapshot with
  | nil => exact .done _
  | cons op rest ih =>
      obtain ⟨now, later⟩ := List.forall_mem_cons.mp starts
      rw [List.flatMap_cons]
      refine .bind (now snapshot) fun started => ?_
      have others (schema : Schema) :
          ((s.startOperations ctx rest schema).bind fun result =>
            .done (started.backfill.toList ++ result.1, result.2)).Realizes view
              (rest.flatMap plan) :=
        .before (ih later) fun _ => .done _
      split
      · have reads : (s.ledger.readSchema s.schema).AsksOnly s.ledger.Reads :=
          Ledger.asksOnly_readSchema.mono fun _ reads => reads.reads
        exact .after (realizes_of_reads reads) fun schema => others schema
      · exact others started.schema

section Blind

variable (blind : ∀ statement : Change, statement.Neutral → view statement = [])
include blind

/-- Of an expansion, a view shows what it shows of the starts of the operations. -/
theorem realizes_expand
    (starts : ∀ op ∈ m.operations, ∀ schema,
      (op.start (s.phaseContext m) schema).Realizes view (plan op)) :
    (s.expand m snapshot).Realizes view (m.operations.flatMap plan) := by
  have hooks (phase : HookPhase) : (s.runPhaseHooks phase).Realizes view [] :=
    realizes_runPhaseHooks blind phase
  refine .after (hooks _) fun _ => .before (realizes_startOperations starts) fun result => ?_
  refine .after (hooks _) fun _ => ?_
  dsimp only
  split
  · exact .after (.unseen (blind _ trivial)) fun _ => .done _
  · exact .done _

/-- Of a start that succeeds, a view shows what it shows of the starts of the operations. -/
theorem viewed_of_start
    (starts : ∀ op ∈ m.operations, ∀ schema,
      (op.start (s.phaseContext m) schema).Realizes view (plan op))
    (dialogue : (s.start m).Dialogue notes (.ok progress)) :
    viewed view notes = m.operations.flatMap plan := by
  rw [start_eq] at dialogue
  obtain ⟨looking, _, active, rfl, looked, follows⟩ := dialogue_bind_ok.mp dialogue
  have still : viewed view looking = [] :=
    (realizes_of_reads Ledger.asksOnly_isActive).whole looking active looked
  cases active with
  | true =>
      obtain ⟨_, _, impossible⟩ := dialogue_refuseStart follows
      cases impossible
  | false =>
      obtain ⟨starting, _, snapshot, rfl, started, goes⟩ := dialogue_bind_ok.mp follows
      have recorded : viewed view starting = [] := by
        refine (Realizes.spares Ledger.asksOnly_start ?_).whole starting snapshot started
        rintro statement (reads | same)
        · exact absurd reads (not_reads_change statement)
        · cases same
      obtain ⟨forward, filling, tables, rfl, expanded, filled⟩ := dialogue_bind_ok.mp goes
      have quiet : viewed view filling = [] := by
        rw [viewed, achieves_fillTables tables filling progress filled]
        rfl
      unfold expandOrUndo at expanded
      split at expanded
      · obtain ⟨_, _, impossible⟩ := dialogue_rejectMigration expanded
        cases impossible
      · obtain ⟨expanding, _, outcome, rfl, made, ends⟩ := dialogue_attempt_bind.mp expanded
        cases outcome with
        | error cause => exact (not_ok_undoStart ends).elim
        | ok found =>
            obtain ⟨rfl, _⟩ := ends
            rw [viewed_append, viewed_append, viewed_append, still, recorded, quiet,
              List.append_nil, List.append_nil, (realizes_expand blind starts).whole _ found made]
            rfl

end Blind

/-! ## The order of requests -/

theorem spares_of_reads {α : Type} {p : Procedure α} (reads : p.AsksOnly s.ledger.Reads) :
    p.AsksOnly (NoneOf kind) := by
  refine reads.mono ?_
  rintro _ asked statement rfl
  exact absurd asked (not_reads_change statement)

theorem asksNext_startOperations {ctx : PhaseContext} {operations : List Operation}
    (starts : ∀ op ∈ operations, ∀ schema, (op.start ctx schema).Realizes view (plan op))
    (asks : ∀ op ∈ operations, ∀ schema, (op.start ctx schema).AsksNext view kind (plan op)) :
    (s.startOperations ctx operations snapshot).AsksNext view kind (operations.flatMap plan) := by
  induction operations generalizing snapshot with
  | nil => exact .done _
  | cons op rest ih =>
      obtain ⟨now, later⟩ := List.forall_mem_cons.mp starts
      obtain ⟨asksNow, asksLater⟩ := List.forall_mem_cons.mp asks
      rw [List.flatMap_cons]
      refine .bind (asksNow snapshot) (now snapshot) fun started => ?_
      have others (schema : Schema) :
          ((s.startOperations ctx rest schema).bind fun result =>
            .done (started.backfill.toList ++ result.1, result.2)).AsksNext view kind
              (rest.flatMap plan) :=
        .before (ih later asksLater) fun _ => .done _
      split
      · have reads : (s.ledger.readSchema s.schema).AsksOnly s.ledger.Reads :=
          Ledger.asksOnly_readSchema.mono fun _ reads => reads.reads
        exact .after (spares_of_reads reads) (realizes_of_reads reads) fun schema => others schema
      · exact others started.schema

section Kind

variable (blind : ∀ statement : Change, statement.Neutral → view statement = [] ∧ ¬kind statement)
  (forward : ∀ (ctx : PhaseContext) (op : Operation), ∀ statement ∈ op.undo ctx, ¬kind statement)
  (starts : ∀ op ∈ m.operations, ∀ schema,
    (op.start (s.phaseContext m) schema).Realizes view (plan op))
  (asks : ∀ op ∈ m.operations, ∀ schema,
    (op.start (s.phaseContext m) schema).AsksNext view kind (plan op))

include blind forward in
theorem spares_undoStart {α : Type} {cause : Error} :
    (s.undoStart cause : Procedure α).AsksOnly (NoneOf kind) := by
  have undone : s.rollback.AsksOnly (NoneOf kind) := by
    refine asksOnly_rollback.mono ?_
    rintro _ asked statement rfl
    rcases undo_of_rollbackRequest asked with neutral | ⟨m, op, _, undoes⟩
    · exact (blind statement neutral).2
    · exact forward _ op statement undoes
  refine .bind undone.attempt fun outcome => ?_
  cases outcome <;> exact .fail _

include blind forward in
theorem spares_fillTables {tables : List Table} : (s.fillTables tables).AsksOnly (NoneOf kind) := by
  induction tables with
  | nil => exact .done _
  | cons table rest ih =>
      have filled : (Backfill.run s.config.backfill s.schema table).AsksOnly (NoneOf kind) := by
        refine (Backfill.asksOnly_run _ _ _).mono ?_
        rintro _ asked statement rfl
        cases asked
      refine .bind filled.attempt fun outcome => ?_
      cases outcome with
      | ok progress => exact .bind ih fun _ => .done _
      | error cause => exact spares_undoStart blind forward

include blind starts asks

theorem asksNext_expand :
    (s.expand m snapshot).AsksNext view kind (m.operations.flatMap plan) := by
  have hooks (phase : HookPhase) : (s.runPhaseHooks phase).AsksOnly (NoneOf kind) := by
    refine asksOnly_runPhaseHooks.mono ?_
    rintro _ ⟨_, _, _, _, isRaw⟩ statement rfl
    cases isRaw
    exact (blind (.raw _) trivial).2
  refine .after (hooks _) (realizes_runPhaseHooks (fun _ neutral => (blind _ neutral).1) _)
    fun _ => .before (asksNext_startOperations starts asks) fun result => ?_
  refine .bind (hooks _) fun _ => ?_
  dsimp only
  split
  · refine .bind (.change ?_) fun _ => .done _
    rintro _ ⟨⟩
    exact (blind (.makeVersionSchema _) trivial).2
  · exact .done _

include forward

/-- Whatever becomes of a start, it asks for changes of the kind in the order of the plans. -/
theorem asksNext_start : (s.start m).AsksNext view kind (m.operations.flatMap plan) := by
  rw [start_eq]
  refine .after (spares_of_reads Ledger.asksOnly_isActive)
    (realizes_of_reads Ledger.asksOnly_isActive) fun active => ?_
  cases active with
  | true =>
      exact .spares (spares_of_reads (.bind Ledger.asksOnly_activeMigration fun _ => .fail _))
  | false =>
      have noChange (statement : Change) :
          ¬s.ledger.StartRequest s.schema m (.change statement) := by
        rintro (reads | same)
        · exact not_reads_change statement reads
        · cases same
      have recorded : (s.ledger.start s.schema m).AsksOnly (NoneOf kind) := by
        refine Ledger.asksOnly_start.mono ?_
        rintro _ asked statement rfl
        exact absurd asked (noChange statement)
      have unseen : (s.ledger.start s.schema m).Realizes view [] :=
        .spares Ledger.asksOnly_start fun statement asked => absurd asked (noChange statement)
      refine .after recorded unseen fun snapshot =>
        .before ?_ fun tables => spares_fillTables blind forward
      unfold expandOrUndo
      split
      · have erased : (s.ledger.rollback s.schema m.name).AsksOnly (NoneOf kind) := by
          refine Ledger.asksOnly_rollback.mono ?_
          rintro _ rfl statement ⟨⟩
        refine .spares (.bind erased.attempt fun outcome => ?_)
        cases outcome <;> exact .fail _
      · refine .before (.attempt (asksNext_expand blind starts asks)) fun outcome => ?_
        cases outcome with
        | ok tables => exact .done _
        | error cause => exact spares_undoStart blind forward

end Kind

end View

end MigrationSession

end ExpandContract
