import ExpandContract.Proofs.Lifecycle.Halfway

/-!
# The columns that a finished migration leaves

A migration that adds, drops and renames columns of one table works with two sets of names: those
that its checks expose, which change with every operation, and those of the physical columns, to
which the starts add and which the completions rename and drop. Servers reply here as they like, so
a clause may be accepted whether or not the columns allow for it. All the same, none of the accepted
clauses needs a name that is taken or a column that is missing, and when the migration is finished,
every exposed name is the name of the column behind it (`columns_converge`).
-/

set_option autoImplicit false

namespace ExpandContract

open Session Procedure Sql Check

/-! ## Starts and completions -/

namespace MigrationSession

variable {s : MigrationSession} {m : Migration} {snapshot played : Schema} {name : String}
  {notes first second : List Note}

/-- The clauses about the columns of a table that have been accepted. -/
def columnClauses (table : String) (notes : List Note) : List ColumnClause :=
  viewed (Change.clauses table) notes

theorem clauses_of_neutral {statement : Change} (neutral : statement.Neutral) :
    statement.clauses name = [] := by
  cases statement with
  | makeVersionSchema | dropVersionSchema | raw => rfl
  | _ => exact neutral.elim

section Reshaping

variable (reshape : ∀ op ∈ m.operations, op.reshapes = some name)
include reshape

/-- A start that succeeds has added the columns that wait, and done nothing else to the columns. -/
theorem columnClauses_of_start (validated : m.validated snapshot = .ok played)
    {progress : List Backfill.Progress}
    (dialogue : (s.startWith m snapshot).Dialogue notes (.ok progress)) :
    columnClauses name notes = (shadowNames m.operations).map .add := by
  have known : ∀ op ∈ m.operations, op.isRawSql = false := by
    intro op member
    have reshapes := reshape op member
    cases op with
    | rawSql op => cases reshapes
    | _ => rfl
  obtain ⟨early, made, late, split, earlyNeutral, lateNeutral, unfolds⟩ :=
    achieves_startWith validated known notes progress dialogue
  have quiet {changes : List Change} (neutral : ∀ statement ∈ changes, statement.Neutral) :
      changes.flatMap (Change.clauses name) = [] :=
    List.flatMap_eq_nil_iff.mpr fun statement member =>
      clauses_of_neutral (neutral statement member)
  rw [columnClauses, viewed, split, List.flatMap_append, List.flatMap_append, quiet earlyNeutral,
    quiet lateNeutral, clauses_of_unfolds reshape unfolds, List.nil_append, List.append_nil]

theorem clauses_of_completionPlan :
    (s.completionPlan m).flatMap (Change.clauses name) =
      m.operations.flatMap Operation.completionClauses := by
  have prepares : (m.operations.flatMap (Operation.preparation (s.phaseContext m))).flatMap
      (Change.clauses name) = [] := by
    rw [List.flatMap_assoc]
    exact List.flatMap_eq_nil_iff.mpr fun op _ => op.clauses_of_preparation
  rw [completionPlan, List.flatMap_append, prepares, List.nil_append, List.flatMap_assoc]
  exact List.flatMap_congr fun op member => Operation.clauses_of_contraction (reshape op member)

/-- A migration adds, drops and renames columns of one table. No column of the table and none that
the migration names is called like columns that wait, and no column is added twice. Then no clause
that is accepted needs a name that is taken or a column that is missing. When the migration is
finished, the table has a column of a name if and only if the checks have left the name exposed, and
it is the column that they have left behind it. -/
theorem columns_converge {table : Table} {outcome : Except Error Unit}
    (validated : m.validated snapshot = .ok played)
    (found : snapshot.table? name = some table)
    (settled : table.Settled)
    (plain : ∀ op ∈ m.operations, ∀ column ∈ op.columnNames, ¬IsShadowName column)
    (once : (m.operations.filterMap Operation.addedColumn).Nodup)
    (finishes : s.Finishes m snapshot first second outcome) :
    ∃ final, ColumnClause.replay? table.ownColumns (columnClauses name (first ++ second)) =
        some final ∧
      (outcome = .ok () → ∃ shown, played.table? name = some shown ∧
        ∀ exposed, final.find? exposed = (shown.column? exposed).map (·.name)) := by
  obtain ⟨_, _, checked⟩ := Migration.validated_eq_ok.mp validated
  obtain ⟨_, started⟩ := finishes.started
  have added := columnClauses_of_start reshape validated started.dialogue
  have once := nodup_shadowNames once
  have free : ∀ column ∈ shadowNames m.operations, table.behind.find? column = none :=
    fun column member => settled.unshadowed column (isShadowName_of_mem_shadowNames member)
  obtain ⟨waiting, adds, beside⟩ := Beside.add_all once free
  obtain ⟨last, completes, shown, exposed, _, left⟩ := halfway_of_checks reshape plain once checked
    ⟨table, found, settled.unshadowed, beside⟩
  cases left.eq_of_nil
  have split {rest : List ColumnClause} : ColumnClause.replay? table.ownColumns
      ((shadowNames m.operations).map .add ++ rest) = ColumnClause.replay? waiting rest := by
    rw [ColumnClause.replay?_append, settled.ownColumns_eq_behind, adds]
    rfl
  obtain ⟨begun, finished⟩ := viewed_of_complete (fun _ => clauses_of_neutral)
    finishes.completed.dialogue finishes.told
  rw [clauses_of_completionPlan reshape] at begun finished
  obtain ⟨final, replayed⟩ := ColumnClause.exists_replay?_of_prefix begun completes
  refine ⟨final, ?_, fun succeeds => ⟨shown, exposed, fun column => ?_⟩⟩
  · rw [columnClauses, viewed_append]
    change ColumnClause.replay? _ (columnClauses name first ++ _) = _
    rw [added, split]
    exact replayed
  · rw [finished succeeds, completes] at replayed
    cases replayed
    exact Table.find?_behind

end Reshaping

/-! ## A name that is freed and used again -/

/-- A schema with users that have a name and an address. -/
def namedUsers : Schema :=
  (Schema.ofName "public").exposeTable "users"
    { keyedTable "users" with
      columns := .ofList [
        ("id", { Column.ofType "id" "int" with nullable := false, position := 1 }),
        ("name", { Column.ofType "name" "text" with position := 2 }),
        ("email", { Column.ofType "email" "text" with position := 3 })] }

/-- A migration that renames a column, adds another one under its name, drops a third and gives the
name of that to the first. -/
def swapsNames : Migration :=
  { name := "swap_names"
    versionSchema := none
    operations := [
      .renameColumn { table := "users", source := "name", target := "full_name" },
      .addColumn
        { table := "users"
          column := { ColumnDefinition.ofType "name" "text" with nullable := true }
          up := none },
      .dropColumn { table := "users", column := "email", down := none },
      .renameColumn { table := "users", source := "full_name", target := "email" }] }

/-- In the end the first column has the name of the third, and the new one has its name. -/
theorem columns_converge_of_swapsNames :
    (∀ op ∈ swapsNames.operations, op.reshapes = some "users") ∧
      (∀ op ∈ swapsNames.operations, ∀ column ∈ op.columnNames, ¬IsShadowName column) ∧
      (swapsNames.operations.filterMap Operation.addedColumn).Nodup ∧
      usual.Finishes swapsNames namedUsers (finishingNotes swapsNames namedUsers).1
        (finishingNotes swapsNames namedUsers).2 (.ok ()) ∧
      ∃ played table final, swapsNames.validated namedUsers = .ok played ∧
        namedUsers.table? "users" = some table ∧ table.Settled ∧
        ColumnClause.replay? table.ownColumns (columnClauses "users"
          ((finishingNotes swapsNames namedUsers).1 ++ (finishingNotes swapsNames namedUsers).2)) =
            some final ∧
        final.find? "email" = some "name" ∧ final.find? "name" = some "_pgshift_new_name" := by
  have reshape : ∀ op ∈ swapsNames.operations, op.reshapes = some "users" := by decide
  have plain : ∀ op ∈ swapsNames.operations, ∀ column ∈ op.columnNames, ¬IsShadowName column := by
    decide
  have once : (swapsNames.operations.filterMap Operation.addedColumn).Nodup := by decide
  have finishes : usual.Finishes swapsNames namedUsers (finishingNotes swapsNames namedUsers).1
      (finishingNotes swapsNames namedUsers).2 (.ok ()) :=
    ⟨⟨_, shows_of_outcomeWith rfl⟩, shows_of_outcomeWith rfl, fun _ => eq_of_tells_finishing⟩
  obtain ⟨played, validated, shown, exposed, email, name⟩ : ∃ played,
      swapsNames.validated namedUsers = .ok played ∧ ∃ shown, played.table? "users" = some shown ∧
        (shown.column? "email").map (·.name) = some "name" ∧
        (shown.column? "name").map (·.name) = some "_pgshift_new_name" :=
    ⟨_, rfl, _, rfl, rfl, rfl⟩
  obtain ⟨table, found, settled⟩ : ∃ table, namedUsers.table? "users" = some table ∧
      table.Settled := ⟨_, rfl, by decide⟩
  obtain ⟨final, replayed, converges⟩ :=
    columns_converge reshape validated found settled plain once finishes
  obtain ⟨shown', exposed', same⟩ := converges rfl
  cases exposed.symm.trans exposed'
  exact ⟨reshape, plain, once, finishes, played, table, final, validated, found, settled,
    replayed, (same "email").trans email, (same "name").trans name⟩

end MigrationSession

end ExpandContract
