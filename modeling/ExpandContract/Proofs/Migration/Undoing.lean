import ExpandContract.Proofs.Migration.Stalling
import ExpandContract.Proofs.Session.Achieving

/-!
# Undoing single operations

The rollback of an operation asks for the changes that undo it, in their order. It asks for nothing
if there are none (`Operation.rollback_eq_done`), or if the transformer refuses SQL of the user
(`Operation.refusesUndo`), and it fails at the first change that the server refuses
(`Operation.breaks_rollback`).
-/

set_option autoImplicit false

namespace ExpandContract

open Session Procedure Sql

variable {answer : Request → Except ServerError Answer}
  {ctx : PhaseContext} {notes : List Note} {statement : Change}

/-- Whether the transformer refuses the SQL that undoes the operation. -/
def RawSql.refusesUndo (op : RawSql) (ctx : PhaseContext) : Bool :=
  op.down.any fun down => !(ctx.transformer.transform down).toBool

/-- Whether the rollback of the operation fails before it asks for anything. -/
def Operation.refusesUndo (ctx : PhaseContext) : Operation → Bool
  | .rawSql op => op.refusesUndo ctx
  | _ => false

/-- A rollback that succeeds has had its SQL let through. -/
theorem Operation.not_refusesUndo {op : Operation}
    (dialogue : (op.rollback ctx).Dialogue notes (.ok ())) : op.refusesUndo ctx = false := by
  cases op with
  | rawSql op =>
      change (op.rollback ctx).Dialogue notes (.ok ()) at dialogue
      change op.refusesUndo ctx = false
      unfold RawSql.rollback at dialogue
      cases down : op.down with
      | none => simp [RawSql.refusesUndo, down]
      | some sql =>
          rw [down] at dialogue
          obtain ⟨_, _, sent, _, transformed, _⟩ := dialogue_bind_ok.mp dialogue
          have passes := PhaseContext.transform_of_dialogue transformed
          simp [RawSql.refusesUndo, down, passes, Except.toBool]
  | _ => rfl

theorem Operation.not_refusesUndo_of_mem_undo {op : Operation} (member : statement ∈ op.undo ctx) :
    op.refusesUndo ctx = false := by
  cases op with
  | rawSql op =>
      change statement ∈ op.undo ctx at member
      change op.refusesUndo ctx = false
      unfold RawSql.undo at member
      cases down : op.down with
      | none => simp [RawSql.refusesUndo, down]
      | some sql =>
          cases passes : ctx.transformer.transform sql with
          | ok sent => simp [RawSql.refusesUndo, down, passes, Except.toBool]
          | error reason =>
              simp only [down, passes] at member
              cases member
  | _ => rfl

/-- Of what the rollback of an operation asks for, every change is there to undo it. -/
theorem Operation.mem_undo_of_asked {op : Operation} {outcome : Except Error Unit}
    {reply : Except ServerError Answer} (dialogue : (op.rollback ctx).Dialogue notes outcome)
    (asked : .asked (.change statement) reply ∈ notes) : statement ∈ op.undo ctx := by
  obtain ⟨_, member, same⟩ := op.follows_rollback.asks notes outcome dialogue _ reply asked
  cases same
  exact member

/-- What undoes an operation is not about version schemas. -/
theorem Operation.ne_version_of_mem_undo {op : Operation} (member : statement ∈ op.undo ctx) :
    (∀ name, statement ≠ .dropVersionSchema name) ∧
      ∀ version, statement ≠ .makeVersionSchema version := by
  cases op with
  | createTable op | dropTable op | createIndex op =>
      cases List.mem_singleton.mp member
      exact ⟨nofun, nofun⟩
  | addColumn op =>
      rcases List.mem_cons.mp member with rfl | member
      · exact ⟨nofun, nofun⟩
      · cases List.mem_singleton.mp member
        exact ⟨nofun, nofun⟩
  | dropColumn op =>
      cases op.eq_of_mem_undo member
      exact ⟨nofun, nofun⟩
  | rawSql op =>
      obtain ⟨sql, rfl⟩ := op.eq_of_mem_undo member
      exact ⟨nofun, nofun⟩
  | renameColumn op | dropIndex op => cases member

theorem Operation.ne_dropVersionSchema_of_starts {op : Operation} (name : String)
    (starts : op.Starts ctx statement) : statement ≠ .dropVersionSchema name := by
  rintro rfl
  cases starts

/-! ## Starts that succeed -/

/-- An operation that asks for a change, and whose start succeeds, has had one accepted. -/
theorem Operation.changes_start {op : Operation} (asks : op.startsChange = true) (schema : Schema) :
    (op.start ctx schema).Achieves fun changes _ => changes ≠ [] := by
  cases op with
  | createTable op => exact .behind fun _ => .change_bind _ _
  | dropTable op => exact .change_bind _ _
  | addColumn op => exact .behind fun _ => .behind fun _ => .change_bind _ _
  | dropColumn op =>
      change (op.start ctx schema).Achieves _
      unfold DropColumn.start
      cases down : op.down with
      | none => simp [Operation.startsChange, down] at asks
      | some down => exact .behind fun _ => .change_bind _ _
  | renameColumn op => cases asks
  | createIndex op =>
      change (op.start ctx schema).Achieves _
      unfold CreateIndex.start
      split
      · exact .change_bind _ _
      · split
        · exact .fail _
        · exact .change_bind _ _
  | dropIndex op => cases asks
  | rawSql op =>
      change (op.start ctx schema).Achieves _
      unfold RawSql.start RawSql.runText
      cases waits : op.onComplete with
      | true => simp [Operation.startsChange, waits] at asks
      | false =>
          change (Procedure.bind (Procedure.bind _ _) _).Achieves _
          rw [Procedure.bind_assoc]
          exact .behind fun _ => .change_bind _ _

/-! ## Refusals -/

theorem Refuses.breaks_change (refused : Refuses answer statement) :
    (Procedure.change statement).Breaks (.answering answer) fun events _ =>
      events = [.request (.change statement)] := by
  obtain ⟨cause, refused, lasting⟩ := refused
  refine Ends.send Nat.one_ne_zero (replies_answering answer _) ?_ ?_
  · intro other same
    cases same.trans refused
    exact lasting
  · rintro _ rfl
    rw [refused]
    exact .fail ⟨_, rfl, rfl⟩

/-- The rollback of an operation asks for the first change that undoes it, and fails if that is
refused. -/
theorem Operation.breaks_rollback {op : Operation} {more : List Change}
    (undoes : op.undo ctx = statement :: more) (refused : Refuses answer statement) :
    (op.rollback ctx).Breaks (.answering answer) fun events _ =>
      events = [.request (.change statement)] := by
  have refusedFirst := refused.breaks_change
  cases op with
  | createTable op =>
      cases undoes
      exact refusedFirst
  | dropTable op =>
      cases undoes
      exact refusedFirst
  | addColumn op =>
      cases undoes
      exact .bind refusedFirst
  | dropColumn op =>
      change op.undo ctx = _ at undoes
      change (op.rollback ctx).Breaks _ _
      unfold DropColumn.undo at undoes
      unfold DropColumn.rollback
      split at undoes
      · rename_i computed
        cases undoes
        rw [if_pos computed]
        exact refusedFirst
      · cases undoes
  | renameColumn op => cases undoes
  | createIndex op =>
      cases undoes
      exact refusedFirst
  | dropIndex op => cases undoes
  | rawSql op =>
      change op.undo ctx = _ at undoes
      change (op.rollback ctx).Breaks _ _
      unfold RawSql.undo at undoes
      unfold RawSql.rollback RawSql.runText PhaseContext.transform
      cases down : op.down with
      | none => simp [down] at undoes
      | some sql =>
          cases transformed : ctx.transformer.transform sql with
          | ok sent =>
              simp only [down, transformed, List.cons.injEq] at undoes
              obtain ⟨rfl, _⟩ := undoes
              simp only [transformed]
              exact refusedFirst
          | error reason => simp [down, transformed] at undoes

/-- An operation with nothing to undo, and no SQL that is refused, is passed over. -/
theorem Operation.rollback_eq_done {op : Operation} (nothing : op.undo ctx = [])
    (passes : op.refusesUndo ctx = false) : op.rollback ctx = .done () := by
  cases op with
  | dropColumn op =>
      change op.undo ctx = [] at nothing
      change op.rollback ctx = .done ()
      unfold DropColumn.undo at nothing
      unfold DropColumn.rollback
      split at nothing
      · cases nothing
      · rename_i plain
        rw [if_neg plain]
        rfl
  | renameColumn op => rfl
  | dropIndex op => rfl
  | rawSql op =>
      change op.undo ctx = [] at nothing
      change op.refusesUndo ctx = false at passes
      change op.rollback ctx = .done ()
      unfold RawSql.undo at nothing
      unfold RawSql.refusesUndo at passes
      unfold RawSql.rollback
      cases down : op.down with
      | none => rfl
      | some sql =>
          cases transformed : ctx.transformer.transform sql with
          | ok sent => simp [down, transformed] at nothing
          | error reason => simp [down, transformed, Except.toBool] at passes
  | _ => cases nothing

end ExpandContract
