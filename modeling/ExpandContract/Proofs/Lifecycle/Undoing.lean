import ExpandContract.Proofs.Ledger.Queries
import ExpandContract.Proofs.Lifecycle.Compensation
import ExpandContract.Proofs.Migration.Undoing

/-!
# On whose behalf a rollback asks

A rollback takes the operations of the active migration one after the other. Whatever it asks for,
apart from version schemas, it asks for to undo the operation at some place (`asksToUndo_of_asked`),
and when it succeeds it has come to every operation with something to undo
(`asksToUndo_of_rollback`). It comes to no operation behind one whose SQL the transformer refuses
(`undoable`).
-/

set_option autoImplicit false

namespace ExpandContract

open Session Procedure Sql

/-! ## Parts of a dialogue -/

namespace Session

variable {α β : Type}

/-- The part is run behind a procedure that has given this value, and the share of the notes is its
own. -/
def Behind (first : Procedure α) (value : α) (part : Procedure β) (share notes : List Note) :
    Prop :=
  ∃ earlier later outcome, notes = earlier ++ (share ++ later) ∧
    first.Dialogue earlier (.ok value) ∧ part.Dialogue share outcome

end Session

namespace MigrationSession

variable {s : MigrationSession} {m active : Migration} {notes back : List Note}
  {outcome : Except Error Unit}

/-! ## Rollbacks -/

/-- The rollback goes on with this migration, which the server has told to be active. -/
def RollsBack (s : MigrationSession) (active : Migration) (back : List Note) : Prop :=
  ∃ reading rest, back = reading ++ rest ∧
    (s.ledger.activeMigration s.schema).Dialogue reading (.ok active)

/-- Drops the version schema of a migration, if it has one. -/
def dropOwnVersion (s : MigrationSession) (active : Migration) : Procedure Unit :=
  if s.config.keepsVersionSchema active then
    Procedure.change (.dropVersionSchema (active.versionSchemaName s.schema))
  else .done ()

/-- What a rollback does before it comes to the operation at a place of the active migration. -/
def undoBefore (s : MigrationSession) (place : Nat) : Procedure Migration :=
  (s.ledger.activeMigration s.schema).bind fun active =>
    (s.dropOwnVersion active).bind fun _ =>
      (rollbackOperations (s.phaseContext active) (active.operations.take place)).bind fun _ =>
        .done active

/-- The rollback asks for a change to undo the operation at a place of a migration. -/
def AsksToUndo (s : MigrationSession) (active : Migration) (place : Nat) (back : List Note) :
    Prop :=
  ∃ op share, active.operations[place]? = some op ∧
    Behind (s.undoBefore place) active (op.rollback (s.phaseContext active)) share back ∧
    ∃ statement reply, Note.asked (.change statement) reply ∈ share

/-- The operations that a rollback can come to. -/
def undoable (s : MigrationSession) (active : Migration) : List Operation :=
  active.operations.takeWhile fun op => !op.refusesUndo (s.phaseContext active)

variable {place : Nat} {op : Operation}

theorem rollsBack_unique {other : Migration} (rolls : s.RollsBack active back)
    (also : s.RollsBack other back) : active = other := by
  obtain ⟨reading, rest, rfl, told⟩ := rolls
  obtain ⟨reading', rest', same, told'⟩ := also
  rw [Ledger.activeMigration_eq] at told told'
  obtain ⟨refusals, answer, read, refused, rfl⟩ := dialogue_ask_ok told
  obtain ⟨refusals', answer', read', refused', rfl⟩ := dialogue_ask_ok told'
  have answers : answer' = answer := by
    rw [List.append_assoc refusals'] at same
    rcases split_around same with ⟨between, split, _⟩ | ⟨between, split, _⟩
    · obtain ⟨_, impossible⟩ := refused' (.asked (s.ledger.request (.activeMigration s.schema))
        (.ok answer)) (by simp [split])
      cases impossible
    · have among : .asked (s.ledger.request (.activeMigration s.schema)) (.ok answer') ∈
          refusals ++ [.asked (s.ledger.request (.activeMigration s.schema)) (.ok answer)] := by
        simp [split]
      exact (refused.eq_of_answered among).2
  rw [answers, read] at read'
  exact Except.ok.inj read'

theorem rollbackOperations_append {ctx : PhaseContext} {first rest : List Operation} :
    rollbackOperations ctx (first ++ rest) =
      (rollbackOperations ctx first).bind fun _ => rollbackOperations ctx rest := by
  induction first with
  | nil => rfl
  | cons op others ih =>
      refine Eq.trans ?_ (Procedure.bind_assoc (op.rollback ctx) _ _).symm
      exact congrArg _ (funext fun _ => ih)

theorem not_refusesUndo_of_rollbackOperations {ctx : PhaseContext} {operations : List Operation}
    (dialogue : (rollbackOperations ctx operations).Dialogue notes (.ok ())) :
    ∀ op ∈ operations, op.refusesUndo ctx = false := by
  induction operations generalizing notes with
  | nil =>
      rintro op ⟨⟩
  | cons op rest ih =>
      obtain ⟨first, later, _, rfl, undone, follows⟩ := dialogue_bind_ok.mp dialogue
      exact List.forall_mem_cons.mpr ⟨op.not_refusesUndo undone, ih follows⟩

/-- What a rollback of operations asks for, it asks for one of them. -/
theorem behind_of_asked {ctx : PhaseContext} {operations : List Operation}
    {statement : Change} {reply : Except ServerError Answer}
    (dialogue : (rollbackOperations ctx operations).Dialogue notes outcome)
    (asked : .asked (.change statement) reply ∈ notes) :
    ∃ place op share, operations[place]? = some op ∧
      Behind (rollbackOperations ctx (operations.take place)) () (op.rollback ctx) share notes ∧
      .asked (.change statement) reply ∈ share := by
  induction operations generalizing notes with
  | nil =>
      rw [dialogue.1] at asked
      cases asked
  | cons op rest ih =>
      rcases dialogue_bind.mp dialogue with ⟨first, later, _, rfl, undone, follows⟩ |
        ⟨error, rfl, fails⟩
      · rcases List.mem_append.mp asked with now | afterwards
        · exact ⟨0, op, first, rfl, ⟨[], later, _, rfl, ⟨rfl, rfl⟩, undone⟩, now⟩
        · obtain ⟨place, other, share, found, behind, inside⟩ := ih follows afterwards
          obtain ⟨earlier, last, ended, rfl, before, part⟩ := behind
          refine ⟨place + 1, other, share, found, ?_, inside⟩
          refine ⟨first ++ earlier, last, ended, (List.append_assoc ..).symm, ?_, part⟩
          exact dialogue_bind_ok.mpr ⟨first, earlier, (), rfl, undone, before⟩
      · exact ⟨0, op, notes, rfl, ⟨[], [], _, by simp, ⟨rfl, rfl⟩, fails⟩, asked⟩

theorem undoChanges_eq :
    s.undoChanges m = (s.dropOwnVersion m).bind fun _ =>
      rollbackOperations (s.phaseContext m) m.operations := rfl

theorem getElem?_undoable (found : active.operations[place]? = some op)
    (before : ∀ other ∈ active.operations.take place,
      other.refusesUndo (s.phaseContext active) = false)
    (itself : op.refusesUndo (s.phaseContext active) = false) :
    (s.undoable active)[place]? = some op := by
  unfold undoable
  generalize active.operations = operations at found before
  induction operations generalizing place with
  | nil => cases found
  | cons first rest ih =>
      cases place with
      | zero =>
          cases found
          rw [List.takeWhile_cons_of_pos (by simp [itself])]
          rfl
      | succ place =>
          have now := before first List.mem_cons_self
          rw [List.takeWhile_cons_of_pos (by simp [now])]
          exact ih found fun other member => before other (List.mem_cons_of_mem _ member)

theorem getElem?_of_undoable (found : (s.undoable active)[place]? = some op) :
    active.operations[place]? = some op := by
  obtain ⟨rest, same⟩ : s.undoable active <+: active.operations := List.takeWhile_prefix _
  obtain ⟨below, _⟩ := List.getElem?_eq_some_iff.mp found
  rw [← same, List.getElem?_append_left below]
  exact found

/-- A list with something at a place, taken apart there. -/
theorem split_at_place {α : Type} {list : List α} {item : α} {place : Nat}
    (found : list[place]? = some item) :
    list = list.take place ++ item :: list.drop (place + 1) := by
  obtain ⟨below, rfl⟩ := List.getElem?_eq_some_iff.mp found
  rw [← List.drop_eq_getElem_cons below, List.take_append_drop]

/-- A change that is asked for on behalf of an operation is there to undo it. -/
theorem undo_of_asksToUndo (asks : s.AsksToUndo active place back) :
    s.RollsBack active back ∧ ∃ op, (s.undoable active)[place]? = some op ∧
      op.undo (s.phaseContext active) ≠ [] := by
  obtain ⟨op, share, found, ⟨earlier, later, ended, rfl, before, part⟩, statement, reply, asked⟩ :=
    asks
  have member := op.mem_undo_of_asked part asked
  obtain ⟨reading, rest, told, rfl, read, follows⟩ := dialogue_bind_ok.mp before
  obtain ⟨dropping, undoing, _, rfl, _, follows⟩ := dialogue_bind_ok.mp follows
  obtain ⟨undone, last, _, rfl, rolled, rfl, same⟩ := dialogue_bind_ok.mp follows
  cases same
  refine ⟨⟨reading, _, List.append_assoc .., read⟩, op, ?_, List.ne_nil_of_mem member⟩
  exact getElem?_undoable found (not_refusesUndo_of_rollbackOperations rolled)
    (op.not_refusesUndo_of_mem_undo member)

section Asked

variable {statement : Change} {reply : Except ServerError Answer}
  (kept : ∀ name, statement ≠ .dropVersionSchema name)
include kept

theorem asksToUndo_of_undoChanges {reading undoing : List Note}
    (read : (s.ledger.activeMigration s.schema).Dialogue reading (.ok active))
    (dialogue : (s.undoChanges active).Dialogue undoing outcome)
    (asked : .asked (.change statement) reply ∈ undoing) (rest : List Note) :
    ∃ place, s.AsksToUndo active place (reading ++ (undoing ++ rest)) := by
  have drops : (s.dropOwnVersion active).AsksOnly
      fun request => ∃ name, request = .change (.dropVersionSchema name) := by
    unfold dropOwnVersion
    split
    · exact .change ⟨_, rfl⟩
    · exact .done ()
  have spared {dropping : List Note} {result : Except Error Unit}
      (dialogue : (s.dropOwnVersion active).Dialogue dropping result) :
      .asked (.change statement) reply ∉ dropping := by
    intro member
    obtain ⟨name, same⟩ := drops dropping result dialogue _ reply member
    cases same
    exact kept name rfl
  rw [undoChanges_eq] at dialogue
  rcases dialogue_bind.mp dialogue with ⟨dropping, rolling, _, rfl, dropped, rolled⟩ |
    ⟨_, _, fails⟩
  · rcases List.mem_append.mp asked with early | late
    · exact absurd early (spared dropped)
    · obtain ⟨place, op, share, found, behind, inside⟩ := behind_of_asked rolled late
      obtain ⟨earlier, later, ended, rfl, before, part⟩ := behind
      refine ⟨place, op, share, found, ?_, statement, reply, inside⟩
      refine ⟨reading ++ (dropping ++ earlier), later ++ rest, ended,
        by simp only [List.append_assoc], ?_, part⟩
      refine dialogue_bind_ok.mpr ⟨reading, dropping ++ earlier, active, rfl, read, ?_⟩
      exact dialogue_bind_ok.mpr
        ⟨dropping, earlier, (), rfl, dropped, before.map fun _ => active⟩
  · exact absurd asked (spared fails)

/-- What a rollback asks for, apart from version schemas, it asks for to undo an operation. -/
theorem asksToUndo_of_asked (made : ∀ version, statement ≠ .makeVersionSchema version)
    (dialogue : s.rollback.Dialogue back outcome)
    (asked : .asked (.change statement) reply ∈ back) :
    ∃ active place, s.AsksToUndo active place back := by
  have spared {reading : List Note} {result : Except Error Migration}
      (dialogue : (s.ledger.activeMigration s.schema).Dialogue reading result) :
      .asked (.change statement) reply ∉ reading :=
    unchanging_of_reads (Ledger.asksOnly_activeMigration reading _ dialogue) statement reply
  rw [rollback_eq] at dialogue
  rcases dialogue_bind.mp dialogue with ⟨reading, rest, active, rfl, read, follows⟩ |
    ⟨_, _, fails⟩
  · refine ⟨active, ?_⟩
    rcases List.mem_append.mp asked with early | late
    · exact absurd early (spared read)
    · rcases dialogue_bind.mp follows with ⟨undoing, finishing, _, rfl, undone, finishes⟩ |
        ⟨_, _, fails⟩
      · rcases List.mem_append.mp late with inside | behind
        · exact asksToUndo_of_undoChanges kept read undone inside finishing
        · obtain ⟨version, same⟩ := version_of_finishRollback finishes behind
          exact absurd same (made version)
      · have undone := asksToUndo_of_undoChanges kept read fails late []
        rwa [List.append_nil] at undone
  · exact absurd asked (spared fails)

end Asked

/-- A rollback that succeeds has undone every operation. -/
theorem asksToUndo_of_rollback (dialogue : s.rollback.Dialogue back (.ok ()))
    (rolls : s.RollsBack active back) (found : active.operations[place]? = some op)
    (undoes : op.undo (s.phaseContext active) ≠ []) : s.AsksToUndo active place back := by
  rw [rollback_eq] at dialogue
  obtain ⟨reading, rest, told, rfl, read, follows⟩ := dialogue_bind_ok.mp dialogue
  cases rollsBack_unique rolls ⟨reading, rest, rfl, read⟩
  obtain ⟨undoing, finishing, _, rfl, undone, _⟩ := dialogue_bind_ok.mp follows
  rw [undoChanges_eq] at undone
  obtain ⟨dropping, rolling, _, rfl, dropped, rolled⟩ := dialogue_bind_ok.mp undone
  rw [split_at_place found, rollbackOperations_append] at rolled
  obtain ⟨first, others, _, rfl, before, rolled⟩ := dialogue_bind_ok.mp rolled
  obtain ⟨share, last, _, rfl, part, _⟩ := dialogue_bind_ok.mp rolled
  obtain ⟨statement, member⟩ := List.exists_mem_of_ne_nil _ undoes
  rw [← op.follows_rollback.whole share part] at member
  obtain ⟨answer, asked⟩ := mem_acceptedChanges.mp member
  refine ⟨_, share, found, ?_, statement, _, asked⟩
  refine ⟨reading ++ (dropping ++ first), last ++ finishing, _, by simp only [List.append_assoc],
    ?_, part⟩
  refine dialogue_bind_ok.mpr ⟨reading, dropping ++ first, active, rfl, read, ?_⟩
  exact dialogue_bind_ok.mpr ⟨dropping, first, (), rfl, dropped, before.map fun _ => active⟩

end MigrationSession

end ExpandContract
