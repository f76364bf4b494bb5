import ExpandContract.Proofs.Ledger.Answers
import ExpandContract.Proofs.Lifecycle.Courses
import ExpandContract.Proofs.Migration.Simulation

/-!
# Expansions of validated migrations

A start validates its migration against the snapshot, which plays the operations on it, and then
expands the schema, which plays them a second time. Behind a validation the two agree
(`start_plays_validated`): the version schema that a start makes shows the validated schema.
-/

set_option autoImplicit false

namespace ExpandContract.MigrationSession

open Session Procedure Sql

variable {σ : Type} {runner : Runner σ} {s : MigrationSession} {m : Migration}
  {before after : Schema}

/-- Operations that are accepted one after the other are started one after the other, and the last
one leaves the snapshot that the checks have left. -/
theorem gives_startOperations {ctx : PhaseContext} (accepting : Accepting runner)
    (accepts : ctx.transformer.AcceptsAll) {alone : Bool} {operations : List Operation}
    (atOnce : ∀ op ∈ operations, op.standsAlone = false)
    (checked : (checkOperations alone operations).Passes before () after) :
    (s.startOperations ctx operations before).Gives runner fun _ result => result.2 = after := by
  induction operations generalizing before with
  | nil => exact .done (passes_checkOperations_nil.mp checked).symm
  | cons op rest ih =>
      obtain ⟨_, between, first, others⟩ := passes_checkOperations_cons.mp checked
      have known : (op.effectUnknown && op.standsAlone) = false := by
        rw [atOnce op List.mem_cons_self, Bool.and_false]
      refine .bind (op.gives_start accepting accepts first) ?_
      rintro _ started played
      simp only [known, played, Bool.false_eq_true, if_false, pure_bind]
      have later := ih (fun other member => atOnce other (List.mem_cons_of_mem _ member)) others
      exact .bind later fun _ _ same => .done same

/-- The request that makes the version schema of the migration from a snapshot, where the session
keeps version schemas. -/
def versionEvents (s : MigrationSession) (m : Migration) (snapshot : Schema) : List Event :=
  if s.config.keepsVersionSchema m then
    [.request (.change (.makeVersionSchema
      (snapshot.version (m.versionSchemaName s.schema) s.usesSecurityInvoker)))]
  else []

/-- An expansion ends with the version schema of the schema that the checks have left. -/
theorem gives_expand (accepting : Accepting runner) (accepts : s.config.transformer.AcceptsAll)
    (unhooked : s.config.hooks = []) {alone : Bool}
    (atOnce : ∀ op ∈ m.operations, op.standsAlone = false)
    (checked : (checkOperations alone m.operations).Passes before () after) :
    (s.expand m before).Gives runner fun events _ =>
      ∃ changes, events = changes ++ s.versionEvents m after := by
  unfold expand
  simp only [runPhaseHooks_eq unhooked, pure_bind]
  refine .bind (gives_startOperations accepting accepts atOnce checked) ?_
  rintro changes ⟨tables, final⟩ rfl
  unfold versionEvents
  cases s.config.keepsVersionSchema m with
  | false => exact .done ⟨changes, rfl⟩
  | true =>
      have made := (yields_change accepting (.makeVersionSchema
        (final.version (m.versionSchemaName s.schema) s.usesSecurityInvoker)))
      exact Ends.bind_yields made (.done ⟨_, rfl, changes, by rw [List.append_nil]; rfl⟩)

/-- What a start does with a snapshot on which its migration is valid. -/
theorem gives_expandOrUndo (accepting : Accepting runner)
    (accepts : s.config.transformer.AcceptsAll) (unhooked : s.config.hooks = [])
    (atOnce : ∀ op ∈ m.operations, op.standsAlone = false)
    (validated : m.validated before = .ok after) :
    (s.expandOrUndo m before).Gives runner fun events _ =>
      ∃ changes, events = changes ++ s.versionEvents m after := by
  obtain ⟨_, _, checked⟩ := Migration.validated_eq_ok.mp validated
  rw [expandOrUndo_of_validated validated]
  refine Ends.bind (gives_expand accepting accepts unhooked atOnce checked).attempt ?_ ?_
  · rintro _ _ ⟨_, ⟨⟩, tables, rfl, changes, rfl⟩
    exact .done ⟨tables, rfl, changes, List.append_nil _⟩
  · rintro _ _ ⟨_, impossible, _⟩
    cases impossible

/-- On every snapshot on which its migration is valid, and with a server that accepts every change,
a start plays the operations as the validation does: the operations are started without a failure
and leave the validated schema, and the last change of the expansion makes the version schema that
shows it. -/
theorem start_plays_validated (accepting : Accepting runner)
    (accepts : s.config.transformer.AcceptsAll)
    (atOnce : ∀ op ∈ m.operations, op.standsAlone = false)
    (validated : m.validated before = .ok after) :
    ((s.startOperations (s.phaseContext m) m.operations before).Gives runner
      fun _ result => result.2 = after) ∧
    (s.config.hooks = [] → ∀ looking recording,
      (s.ledger.isActive s.schema).Yields runner looking false →
      (s.ledger.start s.schema m).Yields runner recording before →
      (s.startChanges m).Gives runner fun events _ =>
        ∃ changes, events = looking ++ (recording ++ (changes ++ s.versionEvents m after))) := by
  obtain ⟨_, _, checked⟩ := Migration.validated_eq_ok.mp validated
  refine ⟨gives_startOperations accepting accepts atOnce checked, ?_⟩
  intro unhooked looking recording looks records
  rw [startChanges_eq]
  refine Ends.bind_yields looks (Ends.bind_yields records ?_)
  refine (gives_expandOrUndo accepting accepts unhooked atOnce validated).mono ?_
  rintro _ _ ⟨tables, rfl, changes, rfl⟩
  exact ⟨tables, rfl, changes, rfl⟩

/-- A migration that renames the key of the users, gives them a column with an index, and creates a
table of orders. -/
def extendsUsers : Migration :=
  { name := "extend_users"
    versionSchema := none
    operations := [
      .renameColumn { table := "users", source := "id", target := "number" },
      .addColumn
        { table := "users"
          column := { ColumnDefinition.ofType "email" "text" with nullable := true }
          up := none },
      .createIndex
        { name := "users_email", table := "users", columns := ["email", "number"], unique := true },
      .createTable { name := "orders", columns := [.ofType "id" "int"], comment := none }] }

/-- Operations of four kinds are played twice with the same outcome: each finds what those before it
have left, and the version schema shows the columns under their new names. -/
theorem start_plays_extension :
    ∃ after, extendsUsers.validated .withUsers = .ok after ∧
      (after.tables.entries.map fun entry => (entry.1, entry.2.columns.names)) =
        [("orders", ["id"]), ("users", ["email", "number"])] ∧
      (usual.startChanges extendsUsers).Gives
        (.answering (reporting .withUsers extendsUsers fun _ => .ok .none)) fun events _ =>
          ∃ changes, events = [.request (usual.ledger.request (.isActive "public"))] ++
            ([.request (usual.ledger.insertion "public" extendsUsers),
              .request (usual.ledger.request (.readSchema "public"))] ++
            (changes ++ usual.versionEvents extendsUsers after)) := by
  obtain ⟨after, validated⟩ : ∃ after, extendsUsers.validated .withUsers = .ok after := ⟨_, rfl⟩
  have shows : (after.tables.entries.map fun entry => (entry.1, entry.2.columns.names)) =
      [("orders", ["id"]), ("users", ["email", "number"])] := by
    cases validated
    rfl
  have plays := start_plays_validated (s := usual) (accepting_reporting .withUsers extendsUsers)
    (fun sql => ⟨sql, rfl⟩) (by decide) validated
  exact ⟨after, validated, shows, plays.2 rfl _ _ Ledger.yields_isActive Ledger.yields_start⟩

end ExpandContract.MigrationSession
