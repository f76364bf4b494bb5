import ExpandContract.Proofs.Lifecycle.Versions

/-!
# Which version is served after a completion

A completion drops the version schema of the version before, so that of its own migration should be
there by then: the start has made it, or the completion makes it. Both do so only where their
session keeps a version schema for the migration, whereas the drop depends on nothing but whether
there are version schemas at all. A migration that runs nothing but SQL of the user, in a session
that keeps no version schemas for such migrations, therefore takes away the last version that was
served (`unserved_of_rawSql`).
-/

set_option autoImplicit false

namespace ExpandContract.MigrationSession

open Session Procedure Sql

variable {first last : MigrationSession} {m : Migration} {started completed : List Note}
  {progress : List Backfill.Progress} {between : List VersionStep} {before : Bool}

/-- A version schema that is made at the end is there, and any other is left as it was. -/
theorem thereAfter_refreshSteps {name : String} {there : Bool} :
    thereAfter name there (last.refreshSteps m) = true ↔
      there = true ∨
        (name = last.versionName m ∧ m.effectUnknown = true ∧
          last.config.keepsVersionSchema m = true) := by
  unfold refreshSteps
  split
  · rename_i refreshes
    obtain ⟨unknown, keeps⟩ := Bool.and_eq_true_iff.mp refreshes
    by_cases own : last.versionName m = name
    · simp [VersionStep.leaves, own, unknown, keeps]
    · simp [VersionStep.leaves, own, Ne.symm own]
  · rename_i skips
    simp only [thereAfter_nil, iff_self_or]
    rintro ⟨_, unknown, keeps⟩
    exact absurd (by rw [unknown, keeps]; rfl) skips

/-- The version schema of a started migration is there if the session keeps one for it, or if it was
there before. -/
theorem thereAfter_startSteps :
    thereAfter (first.versionName m) before (first.startSteps m) = true ↔
      first.config.keepsVersionSchema m = true ∨ before = true := by
  unfold startSteps
  split
  · rename_i keeps
    simp [VersionStep.leaves, keeps]
  · rename_i skips
    simp [skips]

/-- The version schema that a retirement drops is gone, and any other is left as it was. -/
theorem thereAfter_retired {previous : Option Migration} {name : String} {there : Bool} :
    thereAfter name there (previous.map fun other => .dropped (last.versionName other)).toList =
        true ↔
      there = true ∧ ∀ other ∈ previous, last.versionName other ≠ name := by
  cases previous with
  | none => simp
  | some other => by_cases same : last.versionName other = name <;> simp [VersionStep.leaves, same]

/-- After a completion a version schema is there if it was there before and was not dropped, or if
it was made anew. -/
theorem thereAfter_completion {previous : Option Migration}
    (split : versionSteps completed =
      (previous.map fun other => .dropped (last.versionName other)).toList ++
        last.refreshSteps m)
    (name : String) (there : Bool) :
    thereAfter name there (versionSteps completed) = true ↔
      (there = true ∧ .dropped name ∉ versionSteps completed) ∨
        (name = last.versionName m ∧ m.effectUnknown = true ∧
          last.config.keepsVersionSchema m = true) := by
  rw [dropped_mem_iff split, split, thereAfter_append, thereAfter_refreshSteps, thereAfter_retired]
  simp

/-- After a start and a completion that both succeed, the version schema of the migration is there
if and only if the start made it, or it was there before, and the completion did not drop it, or the
completion made it anew. Any other version schema that the completion has dropped is gone. -/
theorem completed_serves_iff (before : Bool) (same : first.schema = last.schema)
    (starts : (first.start m).Shows started (.ok progress))
    (spared : ∀ step ∈ between, step.name ≠ last.versionName m)
    (completes : last.complete.Shows completed (.ok ()))
    (active : ∀ other, last.ledger.Tells last.schema other completed → other = m) :
    (thereAfter (last.versionName m) before
        (versionSteps started ++ (between ++ versionSteps completed)) = true ↔
      ((first.config.keepsVersionSchema m = true ∨ before = true) ∧
        .dropped (last.versionName m) ∉ versionSteps completed) ∨
      (m.effectUnknown = true ∧ last.config.keepsVersionSchema m = true)) ∧
    ∀ name, .dropped name ∈ versionSteps completed → name ≠ last.versionName m → ∀ there,
      thereAfter name there (versionSteps completed) = false := by
  obtain ⟨_, previous, told, split, _⟩ := dialogue_complete completes.dialogue
  cases active _ told
  have after := thereAfter_completion split
  have ownName : first.versionName m = last.versionName m := by rw [versionName, versionName, same]
  constructor
  · have begun : thereAfter (last.versionName m) before (versionSteps started) = true ↔
        first.config.keepsVersionSchema m = true ∨ before = true := by
      rw [versionSteps_of_start starts.dialogue, ← ownName]
      exact thereAfter_startSteps
    rw [thereAfter_append, thereAfter_append, thereAfter_of_ne spared, after, begun]
    simp only [true_and]
  · intro name drops other there
    refine Bool.eq_false_iff.mpr fun served => ?_
    rcases (after name there).mp served with ⟨_, stays⟩ | ⟨own, _⟩
    · exact stays drops
    · exact other own

/-- A migration that creates a table is served once it is complete, and the version before is
gone. -/
theorem completed_creation_is_served :
    (usual.start .createsUsers).Shows (usual.successionStart (initialVersion none) .createsUsers)
      (.ok []) ∧
    usual.complete.Shows (usual.successionEnd (initialVersion none) .createsUsers) (.ok ()) ∧
    .dropped "public_01_init" ∈
      versionSteps (usual.successionEnd (initialVersion none) .createsUsers) ∧
    thereAfter "public_create_users" false
      (versionSteps (usual.successionStart (initialVersion none) .createsUsers) ++
        ([] ++ versionSteps (usual.successionEnd (initialVersion none) .createsUsers))) = true ∧
    thereAfter "public_01_init" true
      (versionSteps (usual.successionEnd (initialVersion none) .createsUsers)) = false := by
  have started : (usual.start .createsUsers).Shows
      (usual.successionStart (initialVersion none) .createsUsers) (.ok []) :=
    shows_of_outcomeWith rfl
  have completed : usual.complete.Shows
      (usual.successionEnd (initialVersion none) .createsUsers) (.ok ()) :=
    shows_of_outcomeWith rfl
  have steps : versionSteps (usual.successionEnd (initialVersion none) .createsUsers) =
      [.dropped "public_01_init"] := rfl
  have dropped : .dropped "public_01_init" ∈
      versionSteps (usual.successionEnd (initialVersion none) .createsUsers) :=
    steps ▸ List.mem_singleton_self _
  have kept : usual.config.keepsVersionSchema .createsUsers = true := rfl
  have serves := completed_serves_iff false rfl started (List.forall_mem_nil _) completed
    fun _ => eq_of_tells_succeeding
  refine ⟨started, completed, dropped, serves.1.mpr (.inl ⟨.inl kept, ?_⟩),
    serves.2 _ dropped (by decide) true⟩
  rw [steps]
  decide

/-- A session that keeps no version schemas for migrations that only run SQL of the user. -/
def withoutRawVersions : MigrationSession :=
  { usual with config := { usual.config with noVersionSchemaForRawSql := true } }

/-- A migration that only runs SQL of the user. -/
def runsSql : Migration :=
  { name := "02_raw"
    versionSchema := none
    operations := [.rawSql { up := "CREATE TABLE audit (id int)", down := none,
                             onComplete := false }] }

/-- Starting and completing such a migration in such a session drops the version schema of the
version before, and makes none: no version schema is left. -/
theorem unserved_of_rawSql :
    withoutRawVersions.config.disableVersionSchemas = false ∧
    (withoutRawVersions.start runsSql).Shows
      (withoutRawVersions.successionStart (initialVersion none) runsSql) (.ok []) ∧
    withoutRawVersions.complete.Shows
      (withoutRawVersions.successionEnd (initialVersion none) runsSql) (.ok ()) ∧
    (∀ other, withoutRawVersions.ledger.Tells withoutRawVersions.schema other
      (withoutRawVersions.successionEnd (initialVersion none) runsSql) → other = runsSql) ∧
    .dropped "public_01_init" ∈
      versionSteps (withoutRawVersions.successionEnd (initialVersion none) runsSql) ∧
    withoutRawVersions.versionName runsSql ≠ "public_01_init" ∧
    ∀ name, thereAfter name (name == "public_01_init")
      (versionSteps (withoutRawVersions.successionStart (initialVersion none) runsSql) ++
        versionSteps (withoutRawVersions.successionEnd (initialVersion none) runsSql)) =
      false := by
  have noneMade :
      versionSteps (withoutRawVersions.successionStart (initialVersion none) runsSql) = [] := rfl
  have dropped : versionSteps (withoutRawVersions.successionEnd (initialVersion none) runsSql) =
      [.dropped "public_01_init"] := rfl
  refine ⟨rfl, shows_of_outcomeWith rfl, shows_of_outcomeWith rfl,
    fun _ => eq_of_tells_succeeding, dropped ▸ List.mem_singleton_self _, by decide, fun name => ?_⟩
  rw [noneMade, dropped]
  by_cases same : name = "public_01_init" <;> simp [VersionStep.leaves, same, Ne.symm]

end ExpandContract.MigrationSession
