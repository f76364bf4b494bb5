import ExpandContract.Proofs.Backfill.Outcomes
import ExpandContract.Proofs.Lifecycle.Finishing
import ExpandContract.Proofs.Lifecycle.Reporting

/-!
# Tables that are filled more than once

A start fills the tables that its operations report, one after the other. All triggers are there by
then, so one pass over a table computes all of its new columns. But the list is not a set: a table
stands in it once for each computed column (`Migration.filledTables`), and a start goes through its
rows as many times (`MigrationSession.filled_once_iff`).
-/

set_option autoImplicit false

namespace ExpandContract

open Session Procedure Sql Check

variable {before after : Schema} {op : Operation} {operations : List Operation}
  {names : String → String}

/-! ## The tables of computed columns -/

/-- The table to which the operation adds a computed column, under its exposed name. -/
def Operation.computesIn : Operation → Option String
  | .addColumn op => op.up.map fun _ => op.table
  | _ => none

/-- The physical names behind exposed ones, after an operation. -/
def Operation.namesAfter (names : String → String) : Operation → String → String
  | .createTable op => fun exposed => if exposed = op.name then op.name else names exposed
  | _ => names

/-- The physical tables to which the operations add computed columns, one for each column. -/
def filledFrom : (String → String) → List Operation → List String
  | _, [] => []
  | names, op :: rest => (op.computesIn.map names).toList ++ filledFrom (op.namesAfter names) rest

/-- The physical name behind an exposed one. -/
def Schema.tableName (schema : Schema) (exposed : String) : String :=
  ((schema.table? exposed).map (·.name)).getD exposed

/-- The physical tables to which the migration adds computed columns, one for each column. -/
def Migration.filledTables (m : Migration) (before : Schema) : List String :=
  filledFrom before.tableName m.operations

/-- No table gets more than one computed column. -/
def Migration.FillsOnce (m : Migration) (before : Schema) : Prop :=
  (m.filledTables before).Nodup

/-- The physical names of the tables that a snapshot exposes. -/
def TellsNames (names : String → String) (schema : Schema) : Prop :=
  ∀ exposed table, schema.table? exposed = some table → names exposed = table.name

theorem tellsNames_tableName (schema : Schema) : TellsNames schema.tableName schema := by
  intro exposed table found
  rw [Schema.tableName, found]
  rfl

theorem TellsNames.step (tells : TellsNames names before)
    (checked : op.check.Passes before () after) : TellsNames (op.namesAfter names) after := by
  intro exposed shown found
  cases Operation.produces_of_check checked found with
  | @makes op =>
      rw [op.snapshot_name]
      exact if_pos rfl
  | @turns _ _ table _ there elsewhere turned =>
      rw [turned.name, ← tells exposed table there]
      cases op with
      | createTable created => exact if_neg (elsewhere created rfl).symm
      | _ => rfl

/-- The tables that are reported are those of the computed columns. -/
theorem Reports.names_eq {tables : List Table} (reports : Reports before operations tables after)
    (tells : TellsNames names before) : tables.map (·.name) = filledFrom names operations := by
  induction reports generalizing names with
  | nil => rfl
  | @cons before between after op rest tables checked others ih =>
      rw [List.map_append, filledFrom, ih (tells.step checked)]
      congr 1
      cases op with
      | addColumn op =>
          obtain ⟨_, _, table, found, _, _, _, _, _⟩ := op.passes_check.mp checked
          cases computed : op.up with
          | none => simp [Operation.toFill, Operation.computesIn, computed]
          | some up =>
              have named : (op.extend table).name = names op.table := (tells _ table found).symm
              simp [Operation.toFill, Operation.computesIn, computed, found, named]
      | _ => rfl

/-- Where tables are exposed under their own names, the operations tell which ones are filled. -/
theorem filledFrom_of_own (own : ∀ exposed, names exposed = exposed) :
    filledFrom names operations = operations.filterMap Operation.computesIn := by
  induction operations generalizing names with
  | nil => rfl
  | cons op rest ih =>
      have later : ∀ exposed, op.namesAfter names exposed = exposed := by
        intro exposed
        cases op with
        | createTable created =>
            by_cases same : exposed = created.name
            · exact (if_pos same).trans same.symm
            · exact (if_neg same).trans (own exposed)
        | _ => exact own exposed
      have here : op.computesIn.map names = op.computesIn := by
        cases op.computesIn with
        | none => rfl
        | some exposed => exact congrArg some (own exposed)
      rw [filledFrom, here, ih later, List.filterMap_cons]
      cases op.computesIn <;> rfl

theorem Migration.filledTables_of_ownNames (m : Migration) (own : before.OwnNames) :
    m.filledTables before = m.operations.filterMap Operation.computesIn := by
  refine filledFrom_of_own fun exposed => ?_
  unfold Schema.tableName
  cases found : before.table? exposed with
  | none => rfl
  | some table => exact own exposed table found

namespace MigrationSession

variable {s : MigrationSession} {m : Migration} {notes : List Note}

/-! ## The backfills of a start -/

/-- Each table that is to be filled is gone through once for each time that it
stands in the list. -/
theorem tables_of_fillTables {tables : List Table} {progress : List Backfill.Progress}
    (dialogue : (s.fillTables tables).Dialogue notes (.ok progress)) :
    progress.map (·.table) = tables.map (·.name) := by
  induction tables generalizing notes progress with
  | nil =>
      cases dialogue.2
      rfl
  | cons table rest ih =>
      obtain ⟨filling, others, outcome, rfl, filled, follows⟩ := dialogue_attempt_bind.mp dialogue
      cases outcome with
      | error cause =>
          obtain ⟨_, _, impossible⟩ := dialogue_undoStart follows
          cases impossible
      | ok done =>
          obtain ⟨_, _, later, rfl, begun, _, same⟩ := dialogue_bind_ok.mp follows
          cases same
          have named : done.table = table.name := by
            cases made : Backfill.Batch.ofTable s.schema table with
            | ok batch => exact Backfill.comesTo_run made _ _ filled
            | error cause => exact (Backfill.comesTo_run_of_error made _ _ filled).elim
          rw [List.map_cons, List.map_cons, named, ih begun]

/-- The tables that the expansion of a valid migration returns are those to which the migration adds
computed columns, each as many times as it gets one, and a start goes through each of them as many
times. So they are distinct, and none is gone through twice, if and only if no table gets more than
one computed column. -/
theorem filled_once_iff (validated : m.validated before = .ok after) :
    (∀ notes tables, (s.expandOrUndo m before).Shows notes (.ok tables) →
      tables.map (·.name) = m.filledTables before ∧
        ((tables.map (·.name)).Nodup ↔ m.FillsOnce before)) ∧
    ∀ notes progress, (s.startWith m before).Shows notes (.ok progress) →
      progress.map (·.table) = m.filledTables before ∧
        ((progress.map (·.table)).Nodup ↔ m.FillsOnce before) := by
  have returned {notes : List Note} {tables : List Table}
      (dialogue : (s.expandOrUndo m before).Dialogue notes (.ok tables)) :
      tables.map (·.name) = m.filledTables before :=
    (reports_expandOrUndo validated notes tables dialogue).names_eq (tellsNames_tableName before)
  constructor
  · intro notes tables shown
    have same := returned shown.dialogue
    exact ⟨same, by rw [same]; rfl⟩
  · intro notes progress shown
    obtain ⟨_, _, tables, rfl, expanded, filled⟩ := dialogue_bind_ok.mp shown.dialogue
    have same := (tables_of_fillTables filled).trans (returned expanded)
    exact ⟨same, by rw [same]; rfl⟩

/-- The users get one computed column, and are filled once. -/
theorem filled_once_of_addsAndDrops :
    addsAndDrops.FillsOnce withOrders ∧
    ∃ notes progress, (usual.startWith addsAndDrops withOrders).Shows notes (.ok progress) ∧
      progress.map (·.table) = ["users"] := by
  obtain ⟨played, validated⟩ : ∃ played, addsAndDrops.validated withOrders = .ok played := ⟨_, rfl⟩
  have shown : (usual.startWith addsAndDrops withOrders).Shows
      (finishingNotes addsAndDrops withOrders).1 (.ok _) := shows_of_outcomeWith rfl
  obtain ⟨same, _⟩ := (filled_once_iff (s := usual) validated).2 _ _ shown
  exact ⟨by unfold Migration.FillsOnce; decide, _, _, shown, same⟩

/-- A migration that adds two computed columns to one table. -/
def addsTwice : Migration :=
  { name := "add_twice"
    versionSchema := none
    operations := [
      .addColumn
        { table := "users"
          column := { ColumnDefinition.ofType "email" "text" with nullable := true }
          up := some "lower(name)" },
      .addColumn
        { table := "users"
          column := { ColumnDefinition.ofType "initial" "text" with nullable := true }
          up := some "left(name, 1)" }] }

/-- The migration is valid, and the start goes through the users twice. -/
theorem filled_twice_of_addsTwice :
    addsTwice.validate withOrders = .ok () ∧ withOrders.OwnNames ∧
    (∃ notes tables, (usual.expandOrUndo addsTwice withOrders).Shows notes (.ok tables) ∧
      tables.map (·.name) = ["users", "users"]) ∧
    ∃ notes progress, (usual.startWith addsTwice withOrders).Shows notes (.ok progress) ∧
      progress.map (·.table) = ["users", "users"] :=
  ⟨rfl, ownNames_withOrders,
    ⟨(usual.expandOrUndo addsTwice withOrders).notesWith (finishing addsTwice), _,
      shows_of_outcomeWith rfl, rfl⟩,
    ⟨(finishingNotes addsTwice withOrders).1, _, shows_of_outcomeWith rfl, rfl⟩⟩

end MigrationSession

end ExpandContract
