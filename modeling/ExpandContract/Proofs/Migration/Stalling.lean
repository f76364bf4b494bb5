import ExpandContract.Proofs.Migration.Requests
import ExpandContract.Proofs.Session.Accepted

/-!
# Operations that are refused and undone

A server may refuse every change that a start makes. With such a server the start of an operation
changes nothing, and it fails if the operation has anything to ask for (`Operation.stalls_start`).
Where the server accepts the changes that undo a start, the rollback of the operation is carried out
as if it had been started (`Operation.carries_rollback`).
-/

set_option autoImplicit false

namespace ExpandContract

open Session Procedure Sql

/-- Whether the change is of a kind that starts make. -/
def Sql.Change.expands : Change → Bool
  | .createTable _ _ _ _ _ _ => true
  | .dropTable _ _ => false
  | .renameTable _ _ _ ifExists => !ifExists
  | .addColumn _ _ _ _ => true
  | .dropColumns _ _ _ _ => false
  | .renameColumn _ _ _ _ => false
  | .validateConstraint _ _ _ => false
  | .setNotNull _ _ _ _ => false
  | .renameConstraint _ _ _ _ => false
  | .createSyncTrigger _ => true
  | .dropSyncTrigger _ _ _ => false
  | .createIndex _ _ _ _ _ => true
  | .dropIndex _ _ => false
  | .makeVersionSchema _ => false
  | .dropVersionSchema _ => false
  | .raw _ => false

/-- Whether the start of the operation asks for a change. -/
def Operation.startsChange : Operation → Bool
  | .createTable _ => true
  | .dropTable _ => true
  | .addColumn _ => true
  | .dropColumn op => op.down.isSome
  | .renameColumn _ => false
  | .createIndex _ => true
  | .dropIndex _ => false
  | .rawSql op => !op.onComplete

theorem Operation.startsChange_of_makesObject {op : Operation} (makes : op.makesObject = true) :
    op.startsChange = true := by
  cases op with
  | createTable op => rfl
  | addColumn op => rfl
  | createIndex op => rfl
  | _ => cases makes

/-- A server that answers in this way refuses the change, for a cause that does not pass. -/
def Refuses (answer : Request → Except ServerError Answer) (statement : Change) : Prop :=
  ∃ cause, answer (.change statement) = .error cause ∧ cause.code ≠ Error.refusedLockCode

/-- A server that answers in this way refuses the changes of starts, and accepts all others. -/
structure RefusesStarts (answer : Request → Except ServerError Answer) : Prop where
  refuses : ∀ statement : Change, statement.expands = true → Refuses answer statement
  accepts : ∀ statement : Change, statement.expands = false →
    ∃ reply, answer (.change statement) = .ok reply

variable {answer : Request → Except ServerError Answer} {ctx : PhaseContext} {schema : Schema}

theorem Refuses.stalls_change {statement : Change} (refused : Refuses answer statement) :
    (change statement).Stalls answer True := by
  obtain ⟨cause, refused, lasting⟩ := refused
  exact .change refused lasting

/-! ## Texts of the user -/

theorem PhaseContext.stalls_transform (sql : String) : (ctx.transform sql).Stalls answer False := by
  unfold PhaseContext.transform
  split
  · exact .done _
  · exact .fail _

theorem PhaseContext.stalls_transformOption (sql : Option String) :
    (ctx.transformOption sql).Stalls answer False := by
  cases sql with
  | none => exact .done _
  | some sql => exact .bind_idle (stalls_transform sql) fun _ => .done _

theorem ColumnDefinition.stalls_specs (columns : List ColumnDefinition) :
    (columns.mapM fun (c : ColumnDefinition) => c.spec ctx).Stalls answer False := by
  induction columns with
  | nil => exact .done _
  | cons c rest ih =>
      rw [List.mapM_cons]
      have spec : (c.spec ctx).Stalls answer False :=
        .bind_idle (PhaseContext.stalls_transformOption _) fun _ =>
          .bind_idle (PhaseContext.stalls_transformOption _) fun _ => .done _
      exact .bind_idle spec fun _ => .bind_idle ih fun _ => .done _

theorem ColumnDefinition.stalls_shadowSpec (c : ColumnDefinition) (shadow : String) :
    (c.shadowSpec ctx shadow).Stalls answer False :=
  .bind_idle (PhaseContext.stalls_transformOption _) fun _ => .done _

theorem AddColumn.stalls_pendingChecks (op : AddColumn) :
    (op.pendingChecks ctx).Stalls answer False := by
  unfold AddColumn.pendingChecks
  cases op.column.check with
  | none => exact .done _
  | some check => exact .bind_idle (PhaseContext.stalls_transform check) fun _ => .done _

/-! ## Starts -/

section Starts

variable (refuses : ∀ statement : Change, statement.expands = true → Refuses answer statement)
include refuses

theorem AddColumn.stalls_start (op : AddColumn) : (op.start ctx schema).Stalls answer True := by
  refine .bind_idle (op.column.stalls_shadowSpec _) fun column => ?_
  refine .bind_idle op.stalls_pendingChecks fun checks => ?_
  exact .bind_failed (refuses _ rfl).stalls_change _

theorem DropColumn.stalls_start (op : DropColumn) :
    (op.start ctx schema).Stalls answer (op.down.isSome = true) := by
  unfold start
  cases op.down with
  | none => exact (Stalls.done _).mono fun impossible => by cases impossible
  | some down =>
      refine .bind_idle (PhaseContext.stalls_transform down) fun sent => ?_
      exact (Stalls.bind_failed (refuses _ rfl).stalls_change _).mono fun _ => trivial

theorem CreateIndex.stalls_start (op : CreateIndex) : (op.start ctx schema).Stalls answer True := by
  unfold start
  split
  · exact .bind_failed (refuses _ rfl).stalls_change _
  · split
    · exact .fail _
    · exact .bind_failed (refuses _ rfl).stalls_change _

omit refuses in
theorem RawSql.stalls_start (op : RawSql) (refused : ∀ sql, Refuses answer (.raw sql)) :
    (op.start ctx schema).Stalls answer ((!op.onComplete) = true) := by
  unfold start runText
  cases op.onComplete with
  | true => exact (Stalls.done _).mono fun impossible => by cases impossible
  | false =>
      refine .mono (.bind_failed (.bind_idle (PhaseContext.stalls_transform op.up) fun sql => ?_) _)
        fun _ => trivial
      exact (refused sql).stalls_change

/-- The start of an operation has none of its changes accepted, and fails if it was to make one. SQL
of the user has to be refused as well, if that is the operation. -/
theorem Operation.stalls_start (op : Operation)
    (ofUser : op.isRawSql = true → ∀ sql, Refuses answer (.raw sql)) :
    (op.start ctx schema).Stalls answer (op.startsChange = true) := by
  have idle {p : Procedure Started} (stalls : p.Stalls answer False) :
      p.Stalls answer (false = true) :=
    stalls.mono fun impossible => by cases impossible
  cases op with
  | createTable op =>
      refine .bind_idle (ColumnDefinition.stalls_specs _) fun columns => ?_
      exact (Stalls.bind_failed (refuses _ rfl).stalls_change _).mono fun _ => trivial
  | dropTable op =>
      exact (Stalls.bind_failed (refuses _ rfl).stalls_change _).mono fun _ => trivial
  | addColumn op => exact (op.stalls_start refuses).mono fun _ => trivial
  | dropColumn op => exact op.stalls_start refuses
  | renameColumn op =>
      change (op.start schema).Stalls answer (false = true)
      unfold RenameColumn.start
      cases op.rename schema with
      | ok schema => exact idle (.done _)
      | error cause => exact .fail _
  | createIndex op => exact (op.stalls_start refuses).mono fun _ => trivial
  | dropIndex op => exact idle (.done _)
  | rawSql op => exact op.stalls_start (ofUser rfl)

end Starts

/-! ## Rollbacks -/

section Rollbacks

variable (refusing : RefusesStarts answer)
include refusing

theorem RefusesStarts.carries_change {statement : Change} (undoes : statement.expands = false) :
    (change statement).Carries answer [statement] := by
  obtain ⟨reply, accepted⟩ := refusing.accepts statement undoes
  exact .change accepted

/-- The rollback of an operation is carried out. -/
theorem Operation.carries_rollback (op : Operation) (known : op.isRawSql = false) :
    (op.rollback ctx).Carries answer (op.undo ctx) := by
  cases op with
  | createTable op => exact refusing.carries_change rfl
  | dropTable op => exact refusing.carries_change rfl
  | addColumn op => exact .bind (refusing.carries_change rfl) (refusing.carries_change rfl)
  | dropColumn op =>
      change (op.rollback ctx).Carries answer (op.undo ctx)
      unfold DropColumn.rollback DropColumn.undo
      cases op.down with
      | none => exact .done
      | some down => exact refusing.carries_change rfl
  | renameColumn op => exact .done
  | createIndex op => exact refusing.carries_change rfl
  | dropIndex op => exact .done
  | rawSql op => cases known

end Rollbacks

end ExpandContract
