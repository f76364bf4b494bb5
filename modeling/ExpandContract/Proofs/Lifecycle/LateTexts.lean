import ExpandContract.Proofs.Lifecycle.Books

/-!
# Texts that are sent when a migration ends

Two texts of the user are not sent when a migration starts: the one that undoes SQL of the user, and
SQL that waits for the completion. The transformer sees them when the migration is rolled back or
completed, so it may refuse them as late as that. All else that these phases do is to make changes.
With a server that keeps books they leave the books as they are, and they fail only for a text that
is refused (`leavesBooks_rollbackOperations` and its siblings).
-/

set_option autoImplicit false

namespace ExpandContract

open Session Procedure Sql

/-! ## Refused texts -/

/-- The transformer refuses the text. -/
def Sql.Transformer.Refuses (t : Transformer) (sql : String) : Prop :=
  ∃ reason, t.transform sql = .error reason

/-- A text of the operation that is sent only when its migration is completed or rolled back. -/
inductive Operation.LateText : Operation → String → Prop where
  | undo {op : RawSql} {down : String} (given : op.down = some down) : LateText (.rawSql op) down
  | awaited {op : RawSql} (waits : op.onComplete = true) : LateText (.rawSql op) op.up

/-- The transformer refuses a late text of some of the operations. -/
def RefusesLate (t : Transformer) (operations : List Operation) : Prop :=
  ∃ op ∈ operations, ∃ sql, op.LateText sql ∧ t.Refuses sql

variable {t : Transformer} {op : Operation} {operations rest : List Operation}

theorem RefusesLate.of_head {sql : String} (late : op.LateText sql) (refused : t.Refuses sql) :
    RefusesLate t (op :: rest) :=
  ⟨op, List.mem_cons_self, sql, late, refused⟩

theorem RefusesLate.of_tail (refused : RefusesLate t rest) : RefusesLate t (op :: rest) := by
  obtain ⟨other, member, late⟩ := refused
  exact ⟨other, List.mem_cons_of_mem _ member, late⟩

/-- The effect of a migration with a late text is unknown. -/
theorem RefusesLate.effectUnknown {m : Migration} (refused : RefusesLate t m.operations) :
    m.effectUnknown = true := by
  obtain ⟨op, member, sql, late, _⟩ := refused
  exact List.any_eq_true.mpr ⟨op, member, by cases late <;> rfl⟩

/-! ## Phases that leave the books alone -/

variable {σ α β : Type} {runner : Runner σ} {books : σ → Books} {b : Books} {refused : Prop}

/-- The procedure leaves the books as they are, and fails only for a text that is refused. -/
def Session.Procedure.LeavesBooks (runner : Runner σ) (books : σ → Books) (b : Books)
    (refused : Prop) (p : Procedure α) : Prop :=
  p.Turns runner books b fun outcome next =>
    next = b ∧ ∀ error, outcome = .error error → refused ∧ ∃ reason, error = .transform reason

namespace Session.Procedure.LeavesBooks

theorem mono {p : Procedure α} {more : Prop} (leaves : p.LeavesBooks runner books b refused)
    (implies : refused → more) : p.LeavesBooks runner books b more := by
  refine Turns.mono leaves ?_
  rintro outcome next ⟨left, fails⟩
  exact ⟨left, fun error failed => (fails error failed).imp_left implies⟩

theorem done (value : α) : (Procedure.done value).LeavesBooks runner books b refused :=
  Turns.done ⟨rfl, nofun⟩

theorem bind {p : Procedure α} {f : α → Procedure β}
    (first : p.LeavesBooks runner books b refused)
    (rest : ∀ value, (f value).LeavesBooks runner books b refused) :
    (p.bind f).LeavesBooks runner books b refused := by
  refine Turns.bind first ?_ ?_
  · rintro value _ ⟨rfl, _⟩
    exact rest value
  · rintro error _ ⟨left, fails⟩
    refine ⟨left, ?_⟩
    rintro _ ⟨⟩
    exact fails error rfl

theorem guarded {condition : Prop} [Decidable condition] {p : Procedure α} {rest : Procedure β}
    (first : p.LeavesBooks runner books b refused)
    (follows : rest.LeavesBooks runner books b refused) :
    (if condition then p.bind fun _ => rest else rest).LeavesBooks runner books b refused := by
  split
  · exact first.bind fun _ => follows
  · exact follows

theorem forM {f : α → Procedure Unit}
    (each : ∀ value, (f value).LeavesBooks runner books b refused) (values : List α) :
    (values.forM f).LeavesBooks runner books b refused := by
  induction values with
  | nil => exact done _
  | cons value rest ih => exact bind (each value) fun _ => ih

end Session.Procedure.LeavesBooks

section Phases

variable {l : Ledger} {schema : String} {kept : String → String} {ctx : PhaseContext}
  (keeps : Bookkeeping runner.server l schema kept books)
include keeps

theorem Bookkeeping.leavesBooks_change {statement : Change}
    (spares : statement.versionStep? = none) :
    (Procedure.change statement).LeavesBooks runner books b refused := by
  refine Turns.mono keeps.turns_change ?_
  rintro _ _ ⟨rfl, rfl⟩
  exact ⟨Books.after_of_none spares, nofun⟩

theorem RawSql.leavesBooks_runText (sql : String) :
    (runText ctx sql).LeavesBooks runner books b (ctx.transformer.Refuses sql) := by
  unfold runText PhaseContext.transform
  cases given : ctx.transformer.transform sql with
  | ok sent => exact keeps.leavesBooks_change rfl
  | error reason => exact Turns.fail ⟨rfl, by rintro _ ⟨⟩; exact ⟨⟨reason, given⟩, reason, rfl⟩⟩

theorem Operation.leavesBooks_prepare (op : Operation) :
    (op.prepare ctx).LeavesBooks runner books b refused := by
  cases op with
  | addColumn op => exact .forM (fun _ => keeps.leavesBooks_change rfl) _
  | _ => exact .done _

theorem AddColumn.leavesBooks_complete (op : AddColumn) :
    (op.complete ctx).LeavesBooks runner books b refused := by
  refine .guarded (keeps.leavesBooks_change rfl) (.bind (keeps.leavesBooks_change rfl) fun _ =>
    .guarded (keeps.leavesBooks_change rfl) ?_)
  split
  · exact keeps.leavesBooks_change rfl
  · exact .done _

/-- The completion of an operation fails only for a text that waits for it. -/
theorem Operation.leavesBooks_complete (op : Operation) :
    (op.complete ctx).LeavesBooks runner books b
      (∃ sql, op.LateText sql ∧ ctx.transformer.Refuses sql) := by
  cases op with
  | createTable op => exact .done _
  | dropTable op => exact keeps.leavesBooks_change rfl
  | addColumn op => exact op.leavesBooks_complete keeps
  | dropColumn op =>
      change (op.complete ctx).LeavesBooks ..
      unfold DropColumn.complete
      split
      · exact .bind (keeps.leavesBooks_change rfl) fun _ => keeps.leavesBooks_change rfl
      · exact keeps.leavesBooks_change rfl
  | renameColumn op => exact keeps.leavesBooks_change rfl
  | createIndex op => exact .done _
  | dropIndex op => exact keeps.leavesBooks_change rfl
  | rawSql op =>
      change (op.complete ctx).LeavesBooks ..
      unfold RawSql.complete
      split
      · rename_i waits
        exact (RawSql.leavesBooks_runText keeps op.up).mono fun refused =>
          ⟨op.up, .awaited waits, refused⟩
      · exact .done _

/-- The rollback of an operation fails only for a text that undoes it. -/
theorem Operation.leavesBooks_rollback (op : Operation) :
    (op.rollback ctx).LeavesBooks runner books b
      (∃ sql, op.LateText sql ∧ ctx.transformer.Refuses sql) := by
  cases op with
  | createTable op => exact keeps.leavesBooks_change rfl
  | dropTable op => exact keeps.leavesBooks_change rfl
  | addColumn op => exact .bind (keeps.leavesBooks_change rfl) fun _ => keeps.leavesBooks_change rfl
  | dropColumn op =>
      change (op.rollback ctx).LeavesBooks ..
      unfold DropColumn.rollback
      split
      · exact keeps.leavesBooks_change rfl
      · exact .done _
  | renameColumn op => exact .done _
  | createIndex op => exact keeps.leavesBooks_change rfl
  | dropIndex op => exact .done _
  | rawSql op =>
      change (op.rollback ctx).LeavesBooks ..
      unfold RawSql.rollback
      cases given : op.down with
      | none => exact .done _
      | some down =>
          exact (RawSql.leavesBooks_runText keeps down).mono fun refused =>
            ⟨down, .undo given, refused⟩

namespace MigrationSession

theorem leavesBooks_prepareOperations (operations : List Operation) :
    (prepareOperations ctx operations).LeavesBooks runner books b refused := by
  induction operations with
  | nil => exact .done _
  | cons op rest ih => exact .bind (op.leavesBooks_prepare keeps) fun _ => ih

theorem leavesBooks_completeOperations (operations : List Operation) :
    (completeOperations ctx operations).LeavesBooks runner books b
      (RefusesLate ctx.transformer operations) := by
  induction operations with
  | nil => exact .done _
  | cons op rest ih =>
      refine .bind ((op.leavesBooks_complete keeps).mono ?_) fun _ => ih.mono .of_tail
      rintro ⟨sql, late, refused⟩
      exact .of_head late refused

theorem leavesBooks_rollbackOperations (operations : List Operation) :
    (rollbackOperations ctx operations).LeavesBooks runner books b
      (RefusesLate ctx.transformer operations) := by
  induction operations with
  | nil => exact .done _
  | cons op rest ih =>
      refine .bind ((op.leavesBooks_rollback keeps).mono ?_) fun _ => ih.mono .of_tail
      rintro ⟨sql, late, refused⟩
      exact .of_head late refused

end MigrationSession

end Phases

end ExpandContract
