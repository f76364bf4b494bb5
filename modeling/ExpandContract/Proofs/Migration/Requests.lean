import ExpandContract.Migration.Phases
import ExpandContract.Proofs.Session.Plan

/-!
# What the phases of an operation ask for

The start of an operation makes changes of a few forms (`Operation.Starts`), and nothing else. Its
rollback works through a list of changes that follows from the operation alone (`Operation.undo`).
-/

set_option autoImplicit false

namespace ExpandContract

open Session Procedure Sql

variable {ctx : PhaseContext} {schema : Schema} {allowed : Request → Prop}

/-! ## Texts of the user -/

theorem PhaseContext.asksOnly_transform {sql : String} : (ctx.transform sql).AsksOnly allowed := by
  unfold PhaseContext.transform
  split
  · exact .done _
  · exact .fail _

/-- What is sent in place of a text is what the transformer says. -/
theorem PhaseContext.transform_of_dialogue {sql sent : String} {notes : List Note}
    (dialogue : (ctx.transform sql).Dialogue notes (.ok sent)) :
    ctx.transformer.transform sql = .ok sent := by
  unfold PhaseContext.transform at dialogue
  split at dialogue
  · rename_i accepted
    cases dialogue.2
    exact accepted
  · cases dialogue.2

theorem PhaseContext.asksOnly_transformOption {sql : Option String} :
    (ctx.transformOption sql).AsksOnly allowed := by
  cases sql with
  | none => exact .done _
  | some sql => exact .bind asksOnly_transform fun _ => .done _

theorem ColumnDefinition.asksOnly_spec {c : ColumnDefinition} : (c.spec ctx).AsksOnly allowed :=
  .bind PhaseContext.asksOnly_transformOption fun _ =>
    .bind PhaseContext.asksOnly_transformOption fun _ => .done _

theorem ColumnDefinition.asksOnly_specs {columns : List ColumnDefinition} :
    (columns.mapM fun (c : ColumnDefinition) => c.spec ctx).AsksOnly allowed := by
  induction columns with
  | nil => exact .done _
  | cons c rest ih =>
      rw [List.mapM_cons]
      exact .bind asksOnly_spec fun _ => .bind ih fun _ => .done _

/-! ## Starts -/

/-- The changes that the start of an operation may make. -/
inductive Operation.Starts (ctx : PhaseContext) : Operation → Change → Prop where
  | createTable {op : CreateTable} {columns : List ColumnSpec}
      {comments : List (String × String)} :
      Starts ctx (.createTable op)
        (.createTable ctx.schema op.name columns op.keyColumns op.comment comments)
  | dropTable {op : DropTable} :
      Starts ctx (.dropTable op) (.renameTable ctx.schema op.name (parkedName op.name) false)
  | addColumn {op : AddColumn} {column : ColumnSpec} {checks : List PendingCheck}
      (named : column.name = op.shadow) :
      Starts ctx (.addColumn op) (.addColumn ctx.schema op.table column checks)
  | fillColumn {op : AddColumn} {expression : String} :
      Starts ctx (.addColumn op) (.createSyncTrigger (op.trigger ctx expression))
  | dropColumn {op : DropColumn} {physical expression : String} :
      Starts ctx (.dropColumn op) (.createSyncTrigger (op.trigger ctx physical expression))
  | createIndex {op : CreateIndex} {columns : List String} :
      Starts ctx (.createIndex op)
        (.createIndex ctx.schema op.table op.name columns op.unique)
  | rawSql {op : RawSql} {sql : String} (now : op.onComplete = false)
      (sent : ctx.transformer.transform op.up = .ok sql) : Starts ctx (.rawSql op) (.raw sql)

/-- Whether the start of the operation makes a table, a column or an index. -/
def Operation.makesObject : Operation → Bool
  | .createTable _ => true
  | .dropTable _ => false
  | .addColumn _ => true
  | .dropColumn _ => false
  | .renameColumn _ => false
  | .createIndex _ => true
  | .dropIndex _ => false
  | .rawSql _ => false

theorem ColumnDefinition.dialogue_shadowSpec {c : ColumnDefinition} {shadow : String}
    {notes : List Note} {column : ColumnSpec}
    (dialogue : (c.shadowSpec ctx shadow).Dialogue notes (.ok column)) : column.name = shadow := by
  obtain ⟨_, _, _, _, _, _, same⟩ := dialogue_bind_ok.mp dialogue
  cases same
  rfl

theorem AddColumn.asksOnly_pendingChecks {op : AddColumn} :
    (op.pendingChecks ctx).AsksOnly allowed := by
  unfold AddColumn.pendingChecks
  cases op.column.check with
  | none => exact .done _
  | some check => exact .bind PhaseContext.asksOnly_transform fun _ => .done _

/-- A request for a change that the start of the operation may make. -/
def Operation.StartRequest (ctx : PhaseContext) (op : Operation) (request : Request) : Prop :=
  ∃ statement, op.Starts ctx statement ∧ request = .change statement

theorem AddColumn.asksOnly_start (op : AddColumn) :
    (op.start ctx schema).AsksOnly (Operation.StartRequest ctx (.addColumn op)) := by
  refine .bind_of (.bind PhaseContext.asksOnly_transformOption fun _ => .done _)
    fun _ column shaped => ?_
  have named := ColumnDefinition.dialogue_shadowSpec shaped
  refine .bind asksOnly_pendingChecks fun checks => ?_
  refine .bind (.change ⟨_, .addColumn named, rfl⟩) fun _ => ?_
  cases op.up with
  | none => cases schema.table? op.table <;> exact .done _
  | some up =>
      refine .bind PhaseContext.asksOnly_transform fun _ => ?_
      refine .bind (.change ⟨_, .fillColumn, rfl⟩) fun _ => ?_
      cases schema.table? op.table <;> exact .done _

theorem DropColumn.asksOnly_start (op : DropColumn) :
    (op.start ctx schema).AsksOnly (Operation.StartRequest ctx (.dropColumn op)) := by
  unfold start
  cases op.down with
  | none => exact .done _
  | some down =>
      refine .bind PhaseContext.asksOnly_transform fun _ => ?_
      exact .bind (.change ⟨_, .dropColumn, rfl⟩) fun _ => .done _

theorem RenameColumn.asksOnly_start (op : RenameColumn) : (op.start schema).AsksOnly allowed := by
  unfold start
  cases op.rename schema with
  | ok schema => exact .done _
  | error cause => exact .fail _

theorem CreateIndex.asksOnly_start (op : CreateIndex) :
    (op.start ctx schema).AsksOnly (Operation.StartRequest ctx (.createIndex op)) := by
  have made (columns : List String) :
      (change (.createIndex ctx.schema op.table op.name columns op.unique)).AsksOnly
        (Operation.StartRequest ctx (.createIndex op)) :=
    .change ⟨_, .createIndex, rfl⟩
  unfold start
  split
  · exact .bind (made _) fun _ => .done _
  · split
    · exact .fail _
    · exact .bind (made _) fun _ => .done _

theorem RawSql.asksOnly_start (op : RawSql) :
    (op.start ctx schema).AsksOnly (Operation.StartRequest ctx (.rawSql op)) := by
  unfold start
  by_cases now : op.onComplete = false
  · rw [now]
    refine .bind (.bind_of PhaseContext.asksOnly_transform fun _ sql sent => ?_) fun _ => .done _
    exact .change ⟨_, .rawSql now (PhaseContext.transform_of_dialogue sent), rfl⟩
  · rw [Bool.not_eq_false] at now
    rw [now]
    exact .done _

/-- The start of an operation makes no other changes, and asks for nothing else. -/
theorem Operation.asksOnly_start (op : Operation) :
    (op.start ctx schema).AsksOnly (op.StartRequest ctx) := by
  cases op with
  | createTable op =>
      exact .bind ColumnDefinition.asksOnly_specs fun _ =>
        .bind (.change ⟨_, .createTable, rfl⟩) fun _ => .done _
  | dropTable op => exact .bind (.change ⟨_, .dropTable, rfl⟩) fun _ => .done _
  | addColumn op => exact op.asksOnly_start
  | dropColumn op => exact op.asksOnly_start
  | renameColumn op => exact op.asksOnly_start
  | createIndex op => exact op.asksOnly_start
  | dropIndex op => exact .done _
  | rawSql op => exact op.asksOnly_start

/-! ## Rollbacks -/

/-- The trigger that a dropped column may have. -/
def DropColumn.undo (op : DropColumn) (ctx : PhaseContext) : List Change :=
  if op.down.isSome then [.dropSyncTrigger ctx.schema op.table op.column] else []

/-- The text that undoes the text of the user, where it is not refused. -/
def RawSql.undo (op : RawSql) (ctx : PhaseContext) : List Change :=
  match op.down with
  | none => []
  | some down =>
      match ctx.transformer.transform down with
      | .ok sql => [.raw sql]
      | .error _ => []

/-- The changes that undo the start of an operation. -/
def Operation.undo (ctx : PhaseContext) : Operation → List Change
  | .createTable op => [.dropTable ctx.schema op.name]
  | .dropTable op => [.renameTable ctx.schema (parkedName op.name) op.name true]
  | .addColumn op =>
      [.dropSyncTrigger ctx.schema op.table op.shadow,
        .dropColumns ctx.schema op.table [op.shadow, op.column.name] true]
  | .dropColumn op => op.undo ctx
  | .renameColumn _ => []
  | .createIndex op => [.dropIndex ctx.schema op.name]
  | .dropIndex _ => []
  | .rawSql op => op.undo ctx

theorem DropColumn.eq_of_mem_undo {op : DropColumn} {statement : Change}
    (member : statement ∈ op.undo ctx) :
    statement = .dropSyncTrigger ctx.schema op.table op.column := by
  unfold undo at member
  split at member
  · exact List.mem_singleton.mp member
  · cases member

theorem RawSql.eq_of_mem_undo {op : RawSql} {statement : Change}
    (member : statement ∈ op.undo ctx) : ∃ sql, statement = .raw sql := by
  unfold undo at member
  split at member
  · cases member
  · split at member
    · exact ⟨_, List.mem_singleton.mp member⟩
    · cases member

theorem DropColumn.follows_rollback (op : DropColumn) :
    (op.rollback ctx).Follows (op.undo ctx) := by
  unfold rollback undo
  cases op.down with
  | none => exact .done
  | some down => exact .change _

theorem RawSql.follows_rollback (op : RawSql) : (op.rollback ctx).Follows (op.undo ctx) := by
  unfold rollback runText PhaseContext.transform undo
  cases op.down with
  | none => exact .done
  | some down =>
      cases transformed : ctx.transformer.transform down with
      | ok sql =>
          simp only [transformed]
          exact .change _
      | error reason =>
          simp only [transformed]
          exact .fail _

/-- The rollback of an operation works through these changes. -/
theorem Operation.follows_rollback (op : Operation) : (op.rollback ctx).Follows (op.undo ctx) := by
  cases op with
  | createTable op => exact .change _
  | dropTable op => exact .change _
  | addColumn op => exact .bind (.change _) (.change _)
  | dropColumn op => exact op.follows_rollback
  | renameColumn op => exact .done
  | createIndex op => exact .change _
  | dropIndex op => exact .done
  | rawSql op => exact op.follows_rollback

end ExpandContract
