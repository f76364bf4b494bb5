import ExpandContract.Proofs.Migration.Checks
import ExpandContract.Proofs.Migration.Requests
import ExpandContract.Proofs.Session.Achieving

/-!
# What the start of an operation has changed

A start that succeeds has made its changes in their order, all of them (`Operation.Expands`). On a
snapshot that passes the check of the operation it also leaves the snapshot that the check leaves
(`Operation.achieves_start`), so the changes of several operations and the snapshots between them
can be followed together (`Unfolds`).
-/

set_option autoImplicit false

namespace ExpandContract

open Session Procedure Sql Check

variable {ctx : PhaseContext} {schema before between after : Schema}

/-! ## Texts of the user -/

theorem PhaseContext.achieves_transform {sql : String} :
    (ctx.transform sql).Achieves fun changes _ => changes = [] :=
  .of_silent PhaseContext.asksOnly_transform

/-! ## Starts that succeed -/

/-- The changes that the start of an operation has made when it succeeds, in their order. -/
inductive Operation.Expands (ctx : PhaseContext) : Operation → List Change → Prop where
  | createTable {op : CreateTable} {columns : List ColumnSpec}
      {comments : List (String × String)} :
      Expands ctx (.createTable op)
        [.createTable ctx.schema op.name columns op.keyColumns op.comment comments]
  | dropTable {op : DropTable} :
      Expands ctx (.dropTable op) [.renameTable ctx.schema op.name (parkedName op.name) false]
  | addColumn {op : AddColumn} {column : ColumnSpec} {checks : List PendingCheck}
      (named : column.name = op.shadow) (plain : op.up = none) :
      Expands ctx (.addColumn op) [.addColumn ctx.schema op.table column checks]
  | fillColumn {op : AddColumn} {column : ColumnSpec} {checks : List PendingCheck}
      {expression : String} (named : column.name = op.shadow) (computed : op.up ≠ none) :
      Expands ctx (.addColumn op)
        [.addColumn ctx.schema op.table column checks,
          .createSyncTrigger (op.trigger ctx expression)]
  | hideColumn {op : DropColumn} (plain : op.down = none) : Expands ctx (.dropColumn op) []
  | dropColumn {op : DropColumn} {physical expression : String} (computed : op.down ≠ none) :
      Expands ctx (.dropColumn op) [.createSyncTrigger (op.trigger ctx physical expression)]
  | renameColumn {op : RenameColumn} : Expands ctx (.renameColumn op) []
  | createIndex {op : CreateIndex} {columns : List String} :
      Expands ctx (.createIndex op)
        [.createIndex ctx.schema op.table op.name columns op.unique]
  | dropIndex {op : DropIndex} : Expands ctx (.dropIndex op) []

/-- The table that is to be filled for an operation, with the column that the operation adds. -/
def Operation.Fills (before : Schema) (op : Operation) (table : Table) : Prop :=
  ∃ added, op = .addColumn added ∧ added.up ≠ none ∧
    ∃ exposed, before.table? added.table = some exposed ∧ table = added.extend exposed

/-- What the start of an operation has done when it succeeds on a snapshot that the check leads from
`before` to `after`. -/
structure Operation.StartsAs (ctx : PhaseContext) (op : Operation) (before after : Schema)
    (changes : List Change) (started : Started) : Prop where
  expands : op.Expands ctx changes
  schema : started.schema = after
  fills : ∀ table ∈ started.backfill, op.Fills before table

theorem CreateTable.achieves_start (op : CreateTable) (checked : op.check.Passes before () after) :
    (op.start ctx before).Achieves (Operation.StartsAs ctx (.createTable op) before after) := by
  obtain ⟨_, _, _, _, _, rfl⟩ := op.passes_check.mp checked
  refine .after (.of_silent ColumnDefinition.asksOnly_specs) fun columns => ?_
  refine .bind (.change _) ?_
  rintro _ _ rfl
  exact .done ⟨.createTable, rfl, by simp⟩

theorem DropTable.achieves_start (op : DropTable) (checked : op.check.Passes before () after) :
    (op.start ctx before).Achieves (Operation.StartsAs ctx (.dropTable op) before after) := by
  obtain ⟨_, rfl⟩ := op.passes_check.mp checked
  refine .bind (.change _) ?_
  rintro _ _ rfl
  exact .done ⟨.dropTable, rfl, by simp⟩

theorem AddColumn.achieves_start (op : AddColumn) (checked : op.check.Passes before () after) :
    (op.start ctx before).Achieves (Operation.StartsAs ctx (.addColumn op) before after) := by
  obtain ⟨_, _, table, found, _, _, _, _, rfl⟩ := op.passes_check.mp checked
  have shaped : (op.column.shadowSpec ctx op.shadow).Achieves fun changes column =>
      changes = [] ∧ column.name = op.shadow := by
    intro notes column dialogue
    refine ⟨Achieves.of_silent ?_ notes column dialogue,
      ColumnDefinition.dialogue_shadowSpec dialogue⟩
    exact .bind PhaseContext.asksOnly_transformOption fun _ => .done _
  refine .bind shaped ?_
  rintro _ column ⟨rfl, named⟩
  refine .after (.of_silent AddColumn.asksOnly_pendingChecks) fun checks => ?_
  refine .bind (.change _) ?_
  rintro _ _ rfl
  cases computed : op.up with
  | none =>
      simp only [found]
      exact .done ⟨.addColumn named computed, rfl, by simp⟩
  | some up =>
      refine .after PhaseContext.achieves_transform fun sent => ?_
      refine .bind (.change _) ?_
      rintro _ _ rfl
      simp only [found]
      refine .done ⟨.fillColumn named (by simp [computed]), rfl, ?_⟩
      intro filled member
      simp only [Option.map_some, Option.mem_def, Option.some.injEq] at member
      exact ⟨op, rfl, by simp [computed], table, found, member.symm⟩

theorem DropColumn.achieves_start (op : DropColumn) (checked : op.check.Passes before () after) :
    (op.start ctx before).Achieves (Operation.StartsAs ctx (.dropColumn op) before after) := by
  obtain ⟨table, found, _, rfl⟩ := op.passes_check.mp checked
  unfold start
  simp only [found]
  cases computed : op.down with
  | none => exact .done ⟨.hideColumn computed, rfl, by simp⟩
  | some down =>
      refine .after PhaseContext.achieves_transform fun sent => ?_
      refine .bind (.change _) ?_
      rintro _ _ rfl
      exact .done ⟨.dropColumn (by simp [computed]), rfl, by simp⟩

theorem RenameColumn.achieves_start (op : RenameColumn)
    (checked : op.check.Passes before () after) :
    (op.start before).Achieves (Operation.StartsAs ctx (.renameColumn op) before after) := by
  obtain ⟨_, renamed⟩ := op.passes_check.mp checked
  unfold start
  rw [renamed]
  exact .done ⟨.renameColumn, rfl, by simp⟩

theorem CreateIndex.achieves_start (op : CreateIndex) (checked : op.check.Passes before () after) :
    (op.start ctx before).Achieves (Operation.StartsAs ctx (.createIndex op) before after) := by
  obtain ⟨_, _, _, table, columns, found, physical, rfl⟩ := op.passes_check.mp checked
  unfold start
  simp only [found, physical]
  refine .bind (.change _) ?_
  rintro _ _ rfl
  exact .done ⟨.createIndex, rfl, by simp⟩

theorem DropIndex.achieves_start (op : DropIndex) (checked : op.check.Passes before () after) :
    (op.start before).Achieves (Operation.StartsAs ctx (.dropIndex op) before after) := by
  have removed := op.passes_check.mp checked
  unfold start
  rw [removed]
  exact .done ⟨.dropIndex, rfl, by simp⟩

/-- On a snapshot that passes its check, a start that succeeds has made its changes and leaves the
snapshot that the check leaves. -/
theorem Operation.achieves_start (op : Operation) (known : op.isRawSql = false)
    (checked : op.check.Passes before () after) :
    (op.start ctx before).Achieves (op.StartsAs ctx before after) := by
  cases op with
  | createTable op => exact op.achieves_start checked
  | dropTable op => exact op.achieves_start checked
  | addColumn op => exact op.achieves_start checked
  | dropColumn op => exact op.achieves_start checked
  | renameColumn op => exact op.achieves_start checked
  | createIndex op => exact op.achieves_start checked
  | dropIndex op => exact op.achieves_start checked
  | rawSql op => cases known

/-! ## One operation after the other -/

/-- Operations that pass their checks, from one snapshot to another, with the changes that their
starts have made. -/
inductive Unfolds (ctx : PhaseContext) : Schema → List Operation → List Change → Schema → Prop where
  | nil {schema : Schema} : Unfolds ctx schema [] [] schema
  | cons {before between after : Schema} {op : Operation} {rest : List Operation}
      {first later : List Change} (checked : op.check.Passes before () between)
      (expands : op.Expands ctx first) (others : Unfolds ctx between rest later after) :
      Unfolds ctx before (op :: rest) (first ++ later) after

/-- Where operations are started behind others, so are their changes made. -/
theorem Unfolds.append {first rest : List Operation} {changes : List Change}
    (unfolds : Unfolds ctx before (first ++ rest) changes after) :
    ∃ between early late, changes = early ++ late ∧ Unfolds ctx before first early between ∧
      Unfolds ctx between rest late after := by
  induction first generalizing before changes with
  | nil => exact ⟨before, [], changes, rfl, .nil, unfolds⟩
  | cons op others ih =>
      cases unfolds with
      | cons checked expands unfolds =>
          obtain ⟨between, early, late, rfl, unfolded, follows⟩ := ih unfolds
          exact ⟨between, _, late, (List.append_assoc ..).symm, .cons checked expands unfolded,
            follows⟩

end ExpandContract
