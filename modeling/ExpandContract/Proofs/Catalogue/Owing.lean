import ExpandContract.Proofs.Catalogue.Holdings
import ExpandContract.Proofs.Migration.Expansion

/-!
# What a start makes and a rollback owes

The start of an operation brings objects into a table, and its rollback takes them away again, by
their names (`Operation.Brings`). Along a start everything that has been made is owed by an
operation that has been started (`Holdings.Owed`), as long as no table is renamed that holds
something made; and along a rollback it is owed by an operation that is still to be undone, as
long as no table is renamed back that holds something made. A migration whose operations keep to
that order is removable (`Migration.Removable`), and when it has been started and undone nothing
is left (`clean_of_removable`).

An index is owed wherever it is, because it is dropped by its name alone.
-/

set_option autoImplicit false

namespace ExpandContract

open Sql (Change parkedName syncTriggerName)

/-! ## What operations bring -/

namespace Operation

variable {ctx : PhaseContext} {op : Operation} {changes : List Change} {statement : Change}
  {name source target : String} {item : Item}

/-- The start of the operation may bring the object into the table of this name. -/
def Brings (name : String) (item : Item) : Operation → Prop
  | .createTable op => name = op.name ∧ (item = .table ∨ ∃ column, item = .column column)
  | .addColumn op =>
      name = op.table ∧
        (item = .column op.shadow ∨ item = .trigger (syncTriggerName op.table op.shadow))
  | .dropColumn op =>
      op.down ≠ none ∧ name = op.table ∧ item = .trigger (syncTriggerName op.table op.column)
  | .createIndex op => item = .index op.name
  | _ => False

/-- The table in which the start of the operation makes something, apart from indexes. -/
def makesIn : Operation → Option String
  | .createTable op => some op.name
  | .addColumn op => some op.table
  | .dropColumn op => if op.down.isSome then some op.table else none
  | _ => none

/-- An index is brought whatever the table is called. -/
theorem Brings.index {other index : String} (brings : op.Brings name (.index index)) :
    op.Brings other (.index index) := by
  cases op with
  | createIndex op => exact brings
  | createTable op | addColumn op | dropColumn op => simp [Brings] at brings
  | _ => exact brings.elim

/-- Anything but an index is brought into the table in which the operation makes something. -/
theorem Brings.makesIn_eq (brings : op.Brings name item) (other : ∀ index, item ≠ .index index) :
    op.makesIn = some name := by
  cases op with
  | createTable op => exact congrArg some brings.1.symm
  | addColumn op => exact congrArg some brings.1.symm
  | dropColumn op =>
      obtain ⟨computed, rfl, _⟩ := brings
      exact if_pos (Option.isSome_iff_ne_none.mpr computed)
  | createIndex op => exact absurd brings (other op.name)
  | _ => exact brings.elim

/-- What the changes of a start give is brought by the operation. -/
theorem Expands.brings (expands : op.Expands ctx changes) (member : statement ∈ changes)
    (gives : statement.Gives name item) : op.Brings name item := by
  cases expands with
  | createTable =>
      cases List.mem_singleton.mp member
      exact gives
  | dropTable =>
      cases List.mem_singleton.mp member
      exact gives
  | addColumn named =>
      cases List.mem_singleton.mp member
      exact ⟨gives.1, .inl (named ▸ gives.2)⟩
  | fillColumn named =>
      rcases List.mem_cons.mp member with rfl | member
      · exact ⟨gives.1, .inl (named ▸ gives.2)⟩
      · cases List.mem_singleton.mp member
        exact ⟨gives.1, .inr gives.2⟩
  | hideColumn => cases member
  | dropColumn computed =>
      cases List.mem_singleton.mp member
      exact ⟨computed, gives⟩
  | renameColumn => cases member
  | createIndex =>
      cases List.mem_singleton.mp member
      exact gives
  | dropIndex => cases member

/-- A start renames a table only to drop it. -/
theorem Expands.moves (expands : op.Expands ctx changes) (member : statement ∈ changes)
    (moves : statement.Moves source target) :
    ∃ dropped, op = .dropTable dropped ∧ source = dropped.name ∧
      target = parkedName dropped.name := by
  cases expands with
  | @dropTable dropped =>
      cases List.mem_singleton.mp member
      exact ⟨dropped, rfl, moves.1.symm, moves.2.symm⟩
  | fillColumn =>
      rcases List.mem_cons.mp member with rfl | member
      · exact moves.elim
      · cases List.mem_singleton.mp member
        exact moves.elim
  | createTable | addColumn | dropColumn | createIndex =>
      cases List.mem_singleton.mp member
      exact moves.elim
  | hideColumn | renameColumn | dropIndex => cases member

/-- A start takes nothing away. -/
theorem Expands.not_takes (expands : op.Expands ctx changes) (member : statement ∈ changes) :
    ¬statement.Takes name item := by
  cases expands with
  | fillColumn =>
      rcases List.mem_cons.mp member with rfl | member
      · exact id
      · cases List.mem_singleton.mp member
        exact id
  | createTable | dropTable | addColumn | dropColumn | createIndex =>
      cases List.mem_singleton.mp member
      exact id
  | hideColumn | renameColumn | dropIndex => cases member

/-- The rollback of an operation takes away what its start brings. -/
theorem Brings.taken (brings : op.Brings name item) :
    ∃ statement ∈ op.undo ctx, statement.Takes name item := by
  cases op with
  | createTable op => exact ⟨_, List.mem_singleton_self _, brings.1⟩
  | addColumn op =>
      obtain ⟨rfl, rfl | rfl⟩ := brings
      · exact ⟨_, List.mem_cons_of_mem _ (List.mem_singleton_self _), rfl, op.shadow,
          List.mem_cons_self, rfl⟩
      · exact ⟨_, List.mem_cons_self, rfl, rfl⟩
  | dropColumn op =>
      obtain ⟨computed, rfl, rfl⟩ := brings
      refine ⟨.dropSyncTrigger ctx.schema op.table op.column, ?_, rfl, rfl⟩
      change _ ∈ if op.down.isSome then _ else _
      rw [if_pos (Option.isSome_iff_ne_none.mpr computed)]
      exact List.mem_singleton_self _
  | createIndex op => exact ⟨_, List.mem_singleton_self _, brings⟩
  | _ => exact brings.elim

/-- The rollback of an operation gives nothing. -/
theorem not_gives_of_mem_undo (member : statement ∈ op.undo ctx) : ¬statement.Gives name item := by
  cases op with
  | createTable op | dropTable op | createIndex op =>
      cases List.mem_singleton.mp member
      exact id
  | addColumn op =>
      rcases List.mem_cons.mp member with rfl | member
      · exact id
      · cases List.mem_singleton.mp member
        exact id
  | dropColumn op =>
      cases DropColumn.eq_of_mem_undo member
      exact id
  | rawSql op =>
      obtain ⟨_, rfl⟩ := RawSql.eq_of_mem_undo member
      exact id
  | renameColumn op | dropIndex op => cases member

/-- A rollback renames a table only to bring back one that was dropped. -/
theorem moves_of_mem_undo (member : statement ∈ op.undo ctx)
    (moves : statement.Moves source target) :
    ∃ dropped, op = .dropTable dropped ∧ source = parkedName dropped.name ∧
      target = dropped.name := by
  cases op with
  | dropTable op =>
      cases List.mem_singleton.mp member
      exact ⟨op, rfl, moves.1.symm, moves.2.symm⟩
  | createTable op | createIndex op =>
      cases List.mem_singleton.mp member
      exact moves.elim
  | addColumn op =>
      rcases List.mem_cons.mp member with rfl | member
      · exact moves.elim
      · cases List.mem_singleton.mp member
        exact moves.elim
  | dropColumn op =>
      cases DropColumn.eq_of_mem_undo member
      exact moves.elim
  | rawSql op =>
      obtain ⟨_, rfl⟩ := RawSql.eq_of_mem_undo member
      exact moves.elim
  | renameColumn op | dropIndex op => cases member

end Operation

namespace Holdings

open Operation

variable {ctx : PhaseContext} {h : Holdings} {op : Operation} {changes : List Change}
  {name : String} {item : Item} {operations earlier rest : List Operation}

/-- What a table holds after the start of an operation it held before, or the operation has brought
it, or the table has been put aside. -/
theorem holds_of_expands (expands : op.Expands ctx changes)
    (holds : (h.after changes).Holds name item) :
    h.Holds name item ∨ op.Brings name item ∨
      ∃ dropped, op = .dropTable dropped ∧ name = parkedName dropped.name ∧
        h.Holds dropped.name item := by
  by_cases drops : ∃ dropped, op = .dropTable dropped
  · obtain ⟨dropped, rfl⟩ := drops
    cases expands
    rcases holds_of_apply holds with ⟨old, _⟩ | new | ⟨source, ⟨rfl, rfl⟩, _, held⟩
    · exact .inl old
    · exact new.elim
    · exact .inr (.inr ⟨dropped, rfl, rfl, held⟩)
  · have still : ∀ statement ∈ changes, ∀ source, ¬statement.Moves source name := by
      intro statement member source moves
      obtain ⟨dropped, same, _⟩ := expands.moves member moves
      exact drops ⟨dropped, same⟩
    rcases holds_of_after still holds with ⟨old, _⟩ | ⟨statement, member, gives⟩
    · exact .inl old
    · exact .inr (.inl (expands.brings member gives))

/-- What a table holds after the rollback of an operation it held before, and the operation has not
brought it, or the table has been brought back. -/
theorem holds_of_undo (holds : (h.after (op.undo ctx)).Holds name item) :
    h.Holds name item ∧ ¬op.Brings name item ∨
      ∃ dropped, op = .dropTable dropped ∧ name = dropped.name ∧
        h.Holds (parkedName dropped.name) item := by
  by_cases drops : ∃ dropped, op = .dropTable dropped
  · obtain ⟨dropped, rfl⟩ := drops
    rcases holds_of_apply holds with ⟨old, _⟩ | new | ⟨source, ⟨rfl, rfl⟩, _, held⟩
    · exact .inl ⟨old, id⟩
    · exact new.elim
    · exact .inr ⟨dropped, rfl, rfl, held⟩
  · have still : ∀ statement ∈ op.undo ctx, ∀ source, ¬statement.Moves source name := by
      intro statement member source moves
      obtain ⟨dropped, same, _⟩ := moves_of_mem_undo member moves
      exact drops ⟨dropped, same⟩
    rcases holds_of_after still holds with ⟨old, kept⟩ | ⟨statement, member, gives⟩
    · refine .inl ⟨old, fun brings => ?_⟩
      obtain ⟨statement, member, takes⟩ : ∃ statement ∈ op.undo ctx, statement.Takes name item :=
        brings.taken
      exact kept statement member takes
    · exact absurd gives (not_gives_of_mem_undo member)

/-! ## What is owed -/

/-- Everything that has been made was brought by one of the operations, into the
table that has it. -/
def Owed (operations : List Operation) (h : Holdings) : Prop :=
  ∀ name item, h.Holds name item → ∃ op ∈ operations, op.Brings name item

/-- Where nothing is owed, nothing that has been made is left. -/
theorem Owed.clean (owed : h.Owed []) : h.Clean := by
  intro name item holds
  obtain ⟨_, ⟨⟩, _⟩ := owed name item holds

/-- A table that is put aside holds nothing but indexes. -/
def ParksNothing (operations : List Operation) (h : Holdings) : Prop :=
  ∀ op, .dropTable op ∈ operations → ∀ item, h.Holds (parkedName op.name) item →
    ∃ index, item = .index index

end Holdings

/-! ## Migrations that can be removed -/

/-- No operation makes anything in a table that an operation behind it drops, nor in one that has
the name under which a dropped table is put aside. -/
structure Migration.Removable (m : Migration) : Prop where
  undropped : m.operations.Pairwise fun first later =>
    ∀ dropped, later = .dropTable dropped → first.makesIn ≠ some dropped.name
  unparked : ∀ op ∈ m.operations, ∀ dropped, .dropTable dropped ∈ m.operations →
    op.makesIn ≠ some (parkedName dropped.name)

namespace Holdings

open Operation

variable {ctx : PhaseContext} {h : Holdings} {op : Operation} {changes : List Change}
  {m : Migration} {before after : Schema} {earlier rest operations : List Operation}

/-- The start of an operation owes what it brings, and a table that it puts aside holds nothing that
was owed at its old name. -/
theorem Owed.expand (owed : h.Owed earlier) (expands : op.Expands ctx changes)
    (undropped : ∀ first ∈ earlier, ∀ dropped, op = .dropTable dropped →
      first.makesIn ≠ some dropped.name) : (h.after changes).Owed (earlier ++ [op]) := by
  intro name item holds
  rcases holds_of_expands expands holds with old | brings | ⟨dropped, rfl, rfl, held⟩
  · obtain ⟨first, member, brings⟩ := owed name item old
    exact ⟨first, List.mem_append_left _ member, brings⟩
  · exact ⟨op, List.mem_append_right _ (List.mem_singleton_self _), brings⟩
  · obtain ⟨first, member, brings⟩ := owed dropped.name item held
    by_cases isIndex : ∃ index, item = .index index
    · obtain ⟨index, rfl⟩ := isIndex
      exact ⟨first, List.mem_append_left _ member, brings.index⟩
    · have made := brings.makesIn_eq fun index same => isIndex ⟨index, same⟩
      exact absurd made (undropped first member dropped rfl)

/-- Along a start everything that has been made is owed by the operations so far. -/
theorem Owed.unfold (owed : h.Owed earlier) (unfolds : Unfolds ctx before rest changes after)
    (undropped : (earlier ++ rest).Pairwise fun first later =>
      ∀ dropped, later = .dropTable dropped → first.makesIn ≠ some dropped.name) :
    (h.after changes).Owed (earlier ++ rest) := by
  induction unfolds generalizing h earlier with
  | nil => exact (List.append_nil earlier).symm ▸ owed
  | @cons _ _ _ op rest first later _ expands _ ih =>
      have now : ∀ first ∈ earlier, ∀ dropped, op = .dropTable dropped →
          first.makesIn ≠ some dropped.name :=
        fun first member =>
          (List.pairwise_append.mp undropped).2.2 first member op List.mem_cons_self
      have started := ih (owed.expand expands now)
        (by rw [List.append_assoc]; exact undropped)
      rw [after_append]
      rwa [List.append_assoc] at started

/-- The rollback of an operation takes away what it owes. -/
theorem Owed.undo (owed : h.Owed (op :: rest))
    (parks : ∀ dropped, op = .dropTable dropped → ∀ item, h.Holds (parkedName dropped.name) item →
      ∃ index, item = .index index) : (h.after (op.undo ctx)).Owed rest := by
  intro name item holds
  rcases holds_of_undo holds with ⟨old, unbrought⟩ | ⟨dropped, rfl, rfl, held⟩
  · obtain ⟨other, member, brings⟩ := owed name item old
    rcases List.mem_cons.mp member with rfl | member
    · exact absurd brings unbrought
    · exact ⟨other, member, brings⟩
  · obtain ⟨index, rfl⟩ := parks dropped rfl item held
    obtain ⟨other, member, brings⟩ := owed _ _ held
    rcases List.mem_cons.mp member with rfl | member
    · exact brings.elim
    · exact ⟨other, member, brings.index⟩

theorem ParksNothing.undo (parks : h.ParksNothing operations) (member : op ∈ operations) :
    (h.after (op.undo ctx)).ParksNothing operations := by
  intro dropped among item holds
  rcases holds_of_undo holds with ⟨old, _⟩ | ⟨other, rfl, _, held⟩
  · exact parks dropped among item old
  · exact parks other member item held

/-- When all operations are undone nothing is owed any more. -/
theorem Owed.undo_all (owed : h.Owed rest) (parks : h.ParksNothing operations)
    (among : rest ⊆ operations) : (h.after (rest.flatMap (Operation.undo ctx))).Owed [] := by
  induction rest generalizing h with
  | nil => exact owed
  | cons op rest ih =>
      obtain ⟨member, others⟩ := List.cons_subset.mp among
      rw [List.flatMap_cons, after_append]
      refine ih (owed.undo ?_) (parks.undo member) others
      rintro dropped rfl
      exact parks dropped member

/-- A removable migration that has been started and is undone leaves nothing that has been made. -/
theorem clean_of_removable (removable : m.Removable) (clean : h.Clean)
    (unfolds : Unfolds ctx before m.operations changes after) :
    ((h.after changes).after (m.operations.flatMap (Operation.undo ctx))).Clean := by
  have none : h.Owed [] := fun name item holds => absurd holds (clean name item)
  have ordered : (([] : List Operation) ++ m.operations).Pairwise fun first later =>
      ∀ dropped, later = .dropTable dropped → first.makesIn ≠ some dropped.name :=
    removable.undropped
  have owed : (h.after changes).Owed m.operations := none.unfold unfolds ordered
  have parks : (h.after changes).ParksNothing m.operations := by
    intro dropped among item holds
    obtain ⟨op, member, brings⟩ := owed _ _ holds
    by_cases isIndex : ∃ index, item = .index index
    · exact isIndex
    · have made := brings.makesIn_eq fun index same => isIndex ⟨index, same⟩
      exact absurd made (removable.unparked op member dropped among)
  exact (owed.undo_all parks fun _ member => member).clean

end Holdings

end ExpandContract
