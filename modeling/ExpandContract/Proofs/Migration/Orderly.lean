import ExpandContract.Migration.Phases
import ExpandContract.Proofs.Session.Orderly

/-!
# The phases of an operation are orderly

Every phase of an operation is orderly: it makes changes one after the other, outside of
transactions, and keeps nothing between two attempts.
-/

set_option autoImplicit false

namespace ExpandContract

open Session Procedure

variable {ctx : PhaseContext} {schema : Schema}

/-! ## Texts of the user -/

theorem PhaseContext.orderly_transform {sql : String} : (ctx.transform sql).Orderly := by
  unfold PhaseContext.transform
  split
  · exact .done trivial
  · exact .fail rfl

theorem PhaseContext.orderly_transformOption {sql : Option String} :
    (ctx.transformOption sql).Orderly := by
  cases sql with
  | none => exact .done trivial
  | some sql => exact .bind orderly_transform fun _ _ => .done trivial

theorem ColumnDefinition.orderly_spec (c : ColumnDefinition) : (c.spec ctx).Orderly :=
  .bind PhaseContext.orderly_transformOption fun _ _ =>
    .bind PhaseContext.orderly_transformOption fun _ _ => .done trivial

theorem RawSql.orderly_runText {sql : String} : (RawSql.runText ctx sql).Orderly :=
  .bind PhaseContext.orderly_transform fun _ _ => .change _

/-! ## Starts -/

theorem AddColumn.orderly_pendingChecks (op : AddColumn) : (op.pendingChecks ctx).Orderly := by
  unfold AddColumn.pendingChecks
  cases op.column.check with
  | none => exact .done trivial
  | some check => exact .bind PhaseContext.orderly_transform fun _ _ => .done trivial

theorem ColumnDefinition.orderly_shadowSpec (c : ColumnDefinition) {shadow : String} :
    (c.shadowSpec ctx shadow).Orderly :=
  .bind PhaseContext.orderly_transformOption fun _ _ => .done trivial

theorem AddColumn.orderly_start (op : AddColumn) : (op.start ctx schema).Orderly := by
  refine .bind op.column.orderly_shadowSpec fun column _ => ?_
  refine .bind op.orderly_pendingChecks fun checks _ => ?_
  refine .bind (.change _) fun _ _ => ?_
  cases op.up with
  | none => cases schema.table? op.table <;> exact .done trivial
  | some up =>
      refine .bind PhaseContext.orderly_transform fun _ _ => ?_
      refine .bind (.change _) fun _ _ => ?_
      cases schema.table? op.table <;> exact .done trivial

theorem DropColumn.orderly_start (op : DropColumn) : (op.start ctx schema).Orderly := by
  unfold start
  cases op.down with
  | none => exact .done trivial
  | some down =>
      refine .bind PhaseContext.orderly_transform fun _ _ => ?_
      exact .bind (.change _) fun _ _ => .done trivial

theorem CreateIndex.orderly_start (op : CreateIndex) : (op.start ctx schema).Orderly := by
  unfold start
  split
  · exact .bind (.change _) fun _ _ => .done trivial
  · split
    · exact .fail rfl
    · exact .bind (.change _) fun _ _ => .done trivial

/-- The start of an operation is orderly. -/
theorem Operation.orderly_start (op : Operation) : (op.start ctx schema).Orderly := by
  cases op with
  | createTable op =>
      exact .bind (.mapM (fun c => ColumnDefinition.orderly_spec c) _) fun _ _ =>
        .bind (.change _) fun _ _ => .done trivial
  | dropTable op => exact .bind (.change _) fun _ _ => .done trivial
  | addColumn op => exact op.orderly_start
  | dropColumn op => exact op.orderly_start
  | renameColumn op =>
      change (op.start schema).Orderly
      unfold RenameColumn.start
      cases op.rename schema with
      | ok schema => exact .done trivial
      | error cause => exact .fail rfl
  | createIndex op => exact op.orderly_start
  | dropIndex op => exact .done trivial
  | rawSql op =>
      change (op.start ctx schema).Orderly
      unfold RawSql.start
      cases op.onComplete with
      | true => exact .done trivial
      | false => exact .bind RawSql.orderly_runText fun _ _ => .done trivial

/-! ## The other phases -/

theorem Operation.orderly_prepare (op : Operation) : (op.prepare ctx).Orderly := by
  cases op with
  | addColumn op => exact .forM (fun _ => .change _) _
  | _ => exact .done trivial

theorem AddColumn.orderly_complete (op : AddColumn) : (op.complete ctx).Orderly := by
  refine .guarded (.change _) (.bind (.change _) fun _ _ => .guarded (.change _) ?_)
  split
  · exact .change _
  · exact .done trivial

/-- The completion of an operation is orderly. -/
theorem Operation.orderly_complete (op : Operation) : (op.complete ctx).Orderly := by
  cases op with
  | createTable op => exact .done trivial
  | dropTable op => exact .change _
  | addColumn op => exact op.orderly_complete
  | dropColumn op =>
      change (op.complete ctx).Orderly
      unfold DropColumn.complete
      split
      · exact .bind (.change _) fun _ _ => .change _
      · exact .change _
  | renameColumn op => exact .change _
  | createIndex op => exact .done trivial
  | dropIndex op => exact .change _
  | rawSql op =>
      change (op.complete ctx).Orderly
      unfold RawSql.complete
      split
      · exact RawSql.orderly_runText
      · exact .done trivial

/-- The rollback of an operation is orderly. -/
theorem Operation.orderly_rollback (op : Operation) : (op.rollback ctx).Orderly := by
  cases op with
  | createTable op => exact .change _
  | dropTable op => exact .change _
  | addColumn op => exact .bind (.change _) fun _ _ => .change _
  | dropColumn op =>
      change (op.rollback ctx).Orderly
      unfold DropColumn.rollback
      split
      · exact .change _
      · exact .done trivial
  | renameColumn op => exact .done trivial
  | createIndex op => exact .change _
  | dropIndex op => exact .done trivial
  | rawSql op =>
      change (op.rollback ctx).Orderly
      unfold RawSql.rollback
      cases op.down with
      | none => exact .done trivial
      | some down => exact RawSql.orderly_runText

end ExpandContract
