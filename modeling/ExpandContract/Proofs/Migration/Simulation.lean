import ExpandContract.Migration.Phases
import ExpandContract.Proofs.Migration.Checks
import ExpandContract.Proofs.Session.Ending

/-!
# Starts play what checks play

The check of an operation and its start are written apart, and both play the operation on a
snapshot. Where the server accepts every change and no text of the user is refused, a start goes
through on every snapshot that passes the check, and leaves the same snapshot (`gives_start`). In
particular the look-ups of the start, which may fail, do not fail behind a check.
-/

set_option autoImplicit false

namespace ExpandContract

open Session Procedure Sql Check

variable {σ : Type} {runner : Runner σ} {ctx : PhaseContext} {before after : Schema}

/-- No text of the user is refused. -/
def Sql.Transformer.AcceptsAll (t : Transformer) : Prop :=
  ∀ sql, ∃ sent, t.transform sql = .ok sent

/-! ## Texts of the user -/

theorem PhaseContext.gives_transform (accepts : ctx.transformer.AcceptsAll) (sql : String) :
    (ctx.transform sql).Gives runner fun _ _ => True := by
  obtain ⟨sent, same⟩ := accepts sql
  unfold PhaseContext.transform
  rw [same]
  exact .done trivial

theorem PhaseContext.gives_transformOption (accepts : ctx.transformer.AcceptsAll)
    (sql : Option String) : (ctx.transformOption sql).Gives runner fun _ _ => True := by
  cases sql with
  | none => exact .done trivial
  | some sql => exact .bind (gives_transform accepts sql) fun _ _ _ => .done trivial

theorem ColumnDefinition.gives_specs (accepts : ctx.transformer.AcceptsAll)
    (columns : List ColumnDefinition) :
    (columns.mapM fun (c : ColumnDefinition) => c.spec ctx).Gives runner fun _ _ => True := by
  induction columns with
  | nil => exact .done trivial
  | cons c rest ih =>
      rw [List.mapM_cons]
      have spec : (c.spec ctx).Gives runner fun _ _ => True :=
        .bind (PhaseContext.gives_transformOption accepts _) fun _ _ _ =>
          .bind (PhaseContext.gives_transformOption accepts _) fun _ _ _ => .done trivial
      exact .bind spec fun _ _ _ => .bind ih fun _ _ _ => .done trivial

theorem ColumnDefinition.gives_shadowSpec (accepts : ctx.transformer.AcceptsAll)
    (c : ColumnDefinition) (shadow : String) :
    (c.shadowSpec ctx shadow).Gives runner fun _ _ => True :=
  .bind (PhaseContext.gives_transformOption accepts _) fun _ _ _ => .done trivial

theorem AddColumn.gives_pendingChecks (accepts : ctx.transformer.AcceptsAll) (op : AddColumn) :
    (op.pendingChecks ctx).Gives runner fun _ _ => True := by
  unfold AddColumn.pendingChecks
  cases op.column.check with
  | none => exact .done trivial
  | some check =>
      exact .bind (PhaseContext.gives_transform accepts check) fun _ _ _ => .done trivial

/-! ## Operations -/

theorem gives_change (accepting : Accepting runner) (statement : Change) :
    (change statement).Gives runner fun _ _ => True :=
  (yields_change accepting statement).mono fun _ _ yields => ⟨(), yields.2, trivial⟩

theorem CreateTable.gives_start (accepting : Accepting runner)
    (accepts : ctx.transformer.AcceptsAll) (op : CreateTable)
    (checked : op.check.Passes before () after) :
    (op.start ctx before).Gives runner fun _ started => started.schema = after := by
  obtain ⟨_, _, _, _, _, rfl⟩ := op.passes_check.mp checked
  exact .bind (ColumnDefinition.gives_specs accepts _) fun _ _ _ =>
    .bind (gives_change accepting _) fun _ _ _ => .done rfl

theorem DropTable.gives_start (accepting : Accepting runner) (op : DropTable)
    (checked : op.check.Passes before () after) :
    (op.start ctx before).Gives runner fun _ started => started.schema = after := by
  obtain ⟨_, rfl⟩ := op.passes_check.mp checked
  exact .bind (gives_change accepting _) fun _ _ _ => .done rfl

theorem AddColumn.gives_start (accepting : Accepting runner)
    (accepts : ctx.transformer.AcceptsAll) (op : AddColumn)
    (checked : op.check.Passes before () after) :
    (op.start ctx before).Gives runner fun _ started => started.schema = after := by
  obtain ⟨_, _, table, found, _, _, _, _, rfl⟩ := op.passes_check.mp checked
  refine .bind (op.column.gives_shadowSpec accepts _) fun _ _ _ => ?_
  refine .bind (op.gives_pendingChecks accepts) fun _ _ _ => ?_
  refine .bind (gives_change accepting _) fun _ _ _ => ?_
  cases op.up with
  | none =>
      simp only [found]
      exact .done rfl
  | some up =>
      refine .bind (PhaseContext.gives_transform accepts up) fun _ _ _ => ?_
      refine .bind (gives_change accepting _) fun _ _ _ => ?_
      simp only [found]
      exact .done rfl

theorem DropColumn.gives_start (accepting : Accepting runner)
    (accepts : ctx.transformer.AcceptsAll) (op : DropColumn)
    (checked : op.check.Passes before () after) :
    (op.start ctx before).Gives runner fun _ started => started.schema = after := by
  obtain ⟨table, found, _, rfl⟩ := op.passes_check.mp checked
  unfold start
  simp only [found]
  cases op.down with
  | none => exact .done rfl
  | some down =>
      refine .bind (PhaseContext.gives_transform accepts down) fun _ _ _ => ?_
      exact .bind (gives_change accepting _) fun _ _ _ => .done rfl

/-- The renaming is played again, so it is played with the same outcome. -/
theorem RenameColumn.gives_start (op : RenameColumn)
    (checked : op.check.Passes before () after) :
    (op.start before).Gives runner fun _ started => started.schema = after := by
  obtain ⟨_, renamed⟩ := op.passes_check.mp checked
  unfold start
  rw [renamed]
  exact .done rfl

/-- The columns of the index are looked up again, so they are found again. -/
theorem CreateIndex.gives_start (accepting : Accepting runner) (op : CreateIndex)
    (checked : op.check.Passes before () after) :
    (op.start ctx before).Gives runner fun _ started => started.schema = after := by
  obtain ⟨_, _, _, table, columns, found, physical, rfl⟩ := op.passes_check.mp checked
  unfold start
  simp only [found, physical]
  exact .bind (gives_change accepting _) fun _ _ _ => .done rfl

theorem DropIndex.gives_start (op : DropIndex) (checked : op.check.Passes before () after) :
    (op.start before).Gives runner fun _ started => started.schema = after := by
  have removed := op.passes_check.mp checked
  unfold start
  rw [removed]
  exact .done rfl

theorem RawSql.gives_start (accepting : Accepting runner)
    (accepts : ctx.transformer.AcceptsAll) (op : RawSql)
    (checked : op.check.Passes before () after) :
    (op.start ctx before).Gives runner fun _ started => started.schema = after := by
  obtain ⟨_, _, rfl⟩ := op.passes_check.mp checked
  unfold start
  cases op.onComplete with
  | true => exact .done rfl
  | false =>
      have ran : (runText ctx op.up).Gives runner fun _ _ => True :=
        .bind (PhaseContext.gives_transform accepts op.up) fun _ _ _ => gives_change accepting _
      exact .bind ran fun _ _ _ => .done rfl

/-- On a snapshot that passes its check, the start of an operation goes through and plays on the
snapshot what the check plays. -/
theorem Operation.gives_start (accepting : Accepting runner)
    (accepts : ctx.transformer.AcceptsAll) (op : Operation)
    (checked : op.check.Passes before () after) :
    (op.start ctx before).Gives runner fun _ started => started.schema = after := by
  cases op with
  | createTable op => exact op.gives_start accepting accepts checked
  | dropTable op => exact op.gives_start accepting checked
  | addColumn op => exact op.gives_start accepting accepts checked
  | dropColumn op => exact op.gives_start accepting accepts checked
  | renameColumn op => exact op.gives_start checked
  | createIndex op => exact op.gives_start accepting checked
  | dropIndex op => exact op.gives_start checked
  | rawSql op => exact op.gives_start accepting accepts checked

end ExpandContract
