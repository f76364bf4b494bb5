import ExpandContract.Proofs.Catalogue.Remnants
import ExpandContract.Proofs.Lifecycle.Restoring
import ExpandContract.Proofs.Lifecycle.Unfolding

/-!
# What a rollback leaves behind

A rollback undoes the operations in the order in which they were started, and a change that finds
nothing to undo does nothing. A table that an operation has dropped waits under another name until
the drop is undone. So what operations before the drop have made in the table is not found when they
are undone, and it comes back with the table.

A migration leaves nothing behind if no operation makes anything in a table that a later one drops
(`Migration.Removable`), and these are the only ones, as long as the server would not refuse the
start (`leaves_nothing_iff_removable`).
-/

set_option autoImplicit false

namespace ExpandContract.MigrationSession

open Session Procedure Sql

variable {s : MigrationSession} {m : Migration} {snapshot played : Schema}
  {first second : List Note}

/-- A start that succeeds and a rollback that succeeds. The servers reply what they like, as long as
the rollback is told this migration. -/
structure Withdraws (s : MigrationSession) (m : Migration) (snapshot : Schema)
    (first second : List Note) : Prop where
  started : ∃ progress, (s.startWith m snapshot).Shows first (.ok progress)
  rolledBack : s.rollback.Shows second (.ok ())
  told : ∀ active, s.ledger.Tells s.schema active second → active = m

/-- Behind the accepted changes no table, column, index or trigger is left that has been made since
the snapshot. -/
def LeavesNothing (snapshot : Schema) (notes : List Note) : Prop :=
  ((Holdings.ofSchema snapshot).after (acceptedChanges notes)).Clean

section Valid

variable (known : ∀ op ∈ m.operations, op.isRawSql = false)
  (validated : m.validated snapshot = .ok played)
include known validated

/-- What the two calls change are the changes of all operations, and then what undoes them. -/
theorem leavesNothing_iff_clean (withdraws : s.Withdraws m snapshot first second) :
    ∃ made, Unfolds (s.phaseContext m) snapshot m.operations made played ∧
      (LeavesNothing snapshot (first ++ second) ↔
        (((Holdings.ofSchema snapshot).after made).after
          (m.operations.flatMap (Operation.undo (s.phaseContext m)))).Clean) := by
  obtain ⟨progress, started⟩ := withdraws.started
  obtain ⟨made, unfolds, began⟩ :=
    (achieves_startWith validated known first progress started.dialogue).after_eq
  obtain ⟨restored, undone, versions⟩ :=
    accepted_of_rollback withdraws.rolledBack.dialogue withdraws.told
  have restoredNeutral : ∀ statement ∈ restored, statement.Neutral := by
    intro statement member
    obtain ⟨version, rfl⟩ := versions statement member
    trivial
  have versionNeutral : ∀ statement ∈ (if s.config.keepsVersionSchema m then
      [Change.dropVersionSchema (m.versionSchemaName s.schema)] else []), statement.Neutral := by
    intro statement member
    cases mem_guarded member
    trivial
  refine ⟨made, unfolds, ?_⟩
  unfold LeavesNothing
  rw [acceptedChanges_append, Holdings.after_append, began, undone, undoPlan]
  simp only [Holdings.after_append, Holdings.after_neutral versionNeutral,
    Holdings.after_neutral restoredNeutral]

/-- A valid migration without SQL of the user that is started and rolled back leaves nothing behind,
if no operation makes anything in a table that a later one drops. If the names of parked tables and
of shadow columns are left alone and no table is created again that was dropped, then no other
migration leaves nothing behind. -/
theorem leaves_nothing_iff_removable :
    (m.Removable → ∀ first second, s.Withdraws m snapshot first second →
      LeavesNothing snapshot (first ++ second)) ∧
    (LeavesParking (.ofSchema snapshot) m → m.LeavesShadows snapshot → m.RecreatesNone →
      ∀ first second, s.Withdraws m snapshot first second →
        (LeavesNothing snapshot (first ++ second) ↔ m.Removable)) := by
  have removed {first second : List Note} (removable : m.Removable)
      (withdraws : s.Withdraws m snapshot first second) :
      LeavesNothing snapshot (first ++ second) := by
    obtain ⟨made, unfolds, same⟩ := leavesNothing_iff_clean known validated withdraws
    exact same.mpr
      (Holdings.clean_of_removable removable (Holdings.clean_ofSchema snapshot) unfolds)
  refine ⟨fun removable first second => removed removable, ?_⟩
  intro leaves shadows recreates first second withdraws
  refine ⟨fun nothing => ?_, fun removable => removed removable withdraws⟩
  obtain ⟨made, unfolds, same⟩ := leavesNothing_iff_clean known validated withdraws
  exact Holdings.removable_of_clean leaves recreates shadows unfolds (same.mp nothing)

end Valid

/-! ## Tables and columns that come and go -/

/-- A migration that adds a column to the table of users, and a table of orders with an index. -/
def addsOrders : Migration :=
  { name := "add_orders"
    versionSchema := none
    operations := [
      .addColumn
        { table := "users"
          column := { ColumnDefinition.ofType "email" "text" with nullable := true }, up := none },
      .createTable { name := "orders", columns := [.ofType "id" "int"], comment := none },
      .createIndex { name := "orders_id", table := "orders", columns := ["id"], unique := false }] }

/-- What is noted of a start and a rollback with a server that accepts every change. -/
def withdrawalNotes (m : Migration) (snapshot : Schema) : List Note × List Note :=
  ((usual.startWith m snapshot).notesWith (reporting snapshot m fun _ => .ok .none),
    usual.rollback.notesWith (reporting snapshot m fun _ => .ok .none))

theorem withdraws_addsOrders :
    usual.Withdraws addsOrders .withUsers (withdrawalNotes addsOrders .withUsers).1
      (withdrawalNotes addsOrders .withUsers).2 where
  started := ⟨_, shows_of_outcomeWith rfl⟩
  rolledBack := shows_of_outcomeWith rfl
  told _ tells := Ledger.eq_of_tells_reporting tells

/-- A column, a table and an index are gone again when the migration that made them is rolled
back. -/
theorem leaves_nothing_of_addsOrders :
    (∀ op ∈ addsOrders.operations, op.isRawSql = false) ∧
      (∃ played, addsOrders.validated .withUsers = .ok played) ∧ addsOrders.Removable ∧
      LeavesNothing .withUsers ((withdrawalNotes addsOrders .withUsers).1 ++
        (withdrawalNotes addsOrders .withUsers).2) := by
  have known : ∀ op ∈ addsOrders.operations, op.isRawSql = false := by decide
  obtain ⟨played, validated⟩ : ∃ played, addsOrders.validated .withUsers = .ok played := ⟨_, rfl⟩
  have keeps : ∀ dropped, .dropTable dropped ∉ addsOrders.operations := by
    intro dropped member
    simp [addsOrders] at member
  have removable : addsOrders.Removable := by
    refine ⟨?_, fun op _ dropped member => absurd member (keeps dropped)⟩
    refine List.pairwise_iff_forall_sublist.mpr ?_
    rintro maker _ sublist dropped rfl
    exact absurd (sublist.subset (List.mem_cons_of_mem _ (List.mem_singleton_self _)))
      (keeps dropped)
  exact ⟨known, ⟨played, validated⟩, removable,
    (leaves_nothing_iff_removable (s := usual) known validated).1 removable _ _
    withdraws_addsOrders⟩

/-- A migration that creates a table of users and drops it. -/
def createsAndDrops : Migration :=
  { name := "create_and_drop"
    versionSchema := none
    operations := [
      .createTable { name := "users", columns := [.ofType "id" "int"], comment := none },
      .dropTable { name := "users" }] }

/-- The changes of its start and of its rollback. The table is looked for while it is aside. -/
def createsAndDropsChanges : List Change :=
  [.createTable "public" "users"
      [{ name := "id", dataType := "int", notNull := true, default := none, unique := false,
         check := none }] [] none [],
    .renameTable "public" "users" "_pgshift_del_users" false,
    .makeVersionSchema
      { name := "public_create_and_drop", source := "public", views := []
        securityInvoker := true },
    .dropVersionSchema "public_create_and_drop", .dropTable "public" "users",
    .renameTable "public" "_pgshift_del_users" "users" true]

theorem acceptedChanges_createsAndDrops :
    acceptedChanges ((withdrawalNotes createsAndDrops (.ofName "public")).1 ++
      (withdrawalNotes createsAndDrops (.ofName "public")).2) = createsAndDropsChanges := rfl

/-- A table that is created and dropped is there when the migration has been rolled back, though the
migration is valid and all that it asked for was accepted. -/
theorem not_leaves_nothing_of_createsAndDrops :
    (∀ op ∈ createsAndDrops.operations, op.isRawSql = false) ∧
      (∃ played, createsAndDrops.validated (.ofName "public") = .ok played) ∧
      usual.Withdraws createsAndDrops (.ofName "public")
        (withdrawalNotes createsAndDrops (.ofName "public")).1
        (withdrawalNotes createsAndDrops (.ofName "public")).2 ∧
      ¬LeavesNothing (.ofName "public") ((withdrawalNotes createsAndDrops (.ofName "public")).1 ++
        (withdrawalNotes createsAndDrops (.ofName "public")).2) := by
  refine ⟨by decide, ⟨_, rfl⟩, ⟨⟨_, shows_of_outcomeWith rfl⟩, shows_of_outcomeWith rfl,
    fun _ tells => Ledger.eq_of_tells_reporting tells⟩, fun nothing => ?_⟩
  unfold LeavesNothing at nothing
  rw [acceptedChanges_createsAndDrops] at nothing
  have there : ∃ t, ((Holdings.ofSchema (.ofName "public")).after
      createsAndDropsChanges).catalogue.tables.find? "users" = some t ∧ t.origin = .created :=
    ⟨.ofSpecs [_], rfl, rfl⟩
  exact nothing "users" .table (.inl there)

end ExpandContract.MigrationSession
