import ExpandContract.Migration.Validation

/-!
# What checks demand

A check passes on a schema if it does not reject; it then leaves the schema with the operation
played on it. For each operation this module says when its check passes and what it leaves, without
mention of how the check is written (`Operation.passes_check`).
-/

set_option autoImplicit false

namespace ExpandContract

/-- The check accepts the schema; it gives a value and leaves another schema. -/
def Check.Passes {α : Type} (c : Check α) (before : Schema) (value : α) (after : Schema) : Prop :=
  c.run.run before = (.ok value, after)

namespace Check

variable {α β : Type} {before after : Schema}

/-! ## Parts of checks -/

theorem passes_pure {given value : α} :
    (pure given : Check α).Passes before value after ↔ given = value ∧ before = after := by
  constructor
  · rintro ⟨⟩
    exact ⟨rfl, rfl⟩
  · rintro ⟨rfl, rfl⟩
    rfl

theorem passes_throw {e : ValidationError} {value : α} :
    (throw e : Check α).Passes before value after ↔ False := by
  constructor
  · rintro ⟨⟩
  · rintro ⟨⟩

/-- What follows a check is run on the schema that the check leaves, unless the check rejects. -/
theorem run_bind (c : Check α) (f : α → Check β) (before : Schema) :
    (c >>= f).run.run before = match c.run.run before with
      | (.ok given, between) => (f given).run.run between
      | (.error e, between) => (.error e, between) := by
  rw [ExceptT.run_bind, StateT.run_bind]
  rcases c.run.run before with ⟨e | given, between⟩ <;> rfl

theorem passes_bind {c : Check α} {f : α → Check β} {value : β} :
    (c >>= f).Passes before value after ↔
      ∃ given between, c.Passes before given between ∧ (f given).Passes between value after := by
  unfold Passes
  rw [run_bind]
  constructor
  · intro passed
    rcases ran : c.run.run before with ⟨e | given, between⟩
    · rw [ran] at passed
      cases passed
    · rw [ran] at passed
      exact ⟨given, between, rfl, passed⟩
  · rintro ⟨given, between, ran, passed⟩
    rw [ran]
    exact passed

/-- A refusal is passed where its condition does not hold. -/
theorem passes_refusal {c : Prop} [Decidable c] {e : ValidationError} {given : β → Check α}
    {rest : Check α} {value : α} :
    (if c then (throw e : Check β) >>= given else rest).Passes before value after ↔
      ¬c ∧ rest.Passes before value after := by
  by_cases holds : c
  · rw [if_pos holds, passes_bind]
    simp [passes_throw, holds]
  · simp [holds]

theorem passes_get {value : Schema} :
    (get : Check Schema).Passes before value after ↔ value = before ∧ after = before := by
  constructor
  · rintro ⟨⟩
    exact ⟨rfl, rfl⟩
  · rintro ⟨rfl, rfl⟩
    rfl

theorem passes_modify {f : Schema → Schema} {value : Unit} :
    (modify f : Check Unit).Passes before value after ↔ after = f before := by
  constructor
  · rintro ⟨⟩
    rfl
  · rintro rfl
    rfl

theorem passes_set {schema : Schema} {value : Unit} :
    (set schema : Check Unit).Passes before value after ↔ after = schema := by
  constructor
  · rintro ⟨⟩
    rfl
  · rintro rfl
    rfl

theorem passes_refuseBlank {operation field text : String} {value : Unit} :
    (refuseBlank operation field text).Passes before value after ↔
      Text.isBlank text = false ∧ after = before := by
  unfold refuseBlank
  by_cases blank : Text.isBlank text = true
  · rw [if_pos blank, passes_throw]
    simp [blank]
  · rw [if_neg blank, passes_pure]
    simp [blank, eq_comm]

theorem passes_exposedTable {name : String} {table : Table} :
    (exposedTable name).Passes before table after ↔
      before.table? name = some table ∧ after = before := by
  unfold exposedTable
  rw [passes_bind]
  constructor
  · rintro ⟨_, _, got, passed⟩
    obtain ⟨rfl, rfl⟩ := passes_get.mp got
    split at passed
    · rename_i table found
      obtain ⟨rfl, rfl⟩ := passes_pure.mp passed
      exact ⟨found, rfl⟩
    · exact (passes_throw.mp passed).elim
  · rintro ⟨found, rfl⟩
    refine ⟨_, _, passes_get.mpr ⟨rfl, rfl⟩, ?_⟩
    rw [found]
    exact passes_pure.mpr ⟨rfl, rfl⟩

theorem passes_putTable {name : String} {table : Table} {value : Unit} :
    (putTable name table).Passes before value after ↔ after = before.exposeTable name table :=
  passes_modify

end Check

open Check

variable {before after : Schema}

/-! ## Operations -/

theorem CreateTable.passes_checkColumns (op : CreateTable) {seen : List String}
    {columns : List ColumnDefinition} {value : Unit} :
    (op.checkColumns seen columns).Passes before value after ↔
      (∀ c ∈ columns, Text.isBlank c.name = false ∧ Text.isBlank c.dataType = false ∧
        c.name ∉ seen) ∧ (columns.map (·.name)).Nodup ∧ after = before := by
  induction columns generalizing seen before value with
  | nil =>
      rw [checkColumns, passes_pure]
      constructor
      · rintro ⟨_, rfl⟩
        exact ⟨by simp, .nil, rfl⟩
      · rintro ⟨_, _, rfl⟩
        exact ⟨rfl, rfl⟩
  | cons c rest ih =>
      simp only [checkColumns, ↓passes_bind, ↓passes_refuseBlank, ↓passes_refusal, ih]
      constructor
      · rintro ⟨_, _, ⟨named, rfl⟩, _, _, ⟨typed, rfl⟩, fresh, others, distinct, rfl⟩
        refine ⟨?_, ?_, rfl⟩
        · intro other member
          rcases List.mem_cons.mp member with rfl | member
          · exact ⟨named, typed, by simpa using fresh⟩
          · obtain ⟨otherNamed, otherTyped, unseen⟩ := others other member
            exact ⟨otherNamed, otherTyped, fun seen => unseen (List.mem_cons_of_mem _ seen)⟩
        · refine List.nodup_cons.mpr ⟨fun again => ?_, distinct⟩
          obtain ⟨other, member, same⟩ := List.mem_map.mp again
          exact (others other member).2.2 (same ▸ List.mem_cons_self)
      · rintro ⟨all, distinct, rfl⟩
        obtain ⟨notAgain, distinct⟩ := List.nodup_cons.mp distinct
        obtain ⟨named, typed, unseen⟩ := all c List.mem_cons_self
        refine ⟨(), _, ⟨named, rfl⟩, (), _, ⟨typed, rfl⟩, by simpa using unseen, ?_, distinct, rfl⟩
        intro other member
        obtain ⟨otherNamed, otherTyped, otherUnseen⟩ := all other (List.mem_cons_of_mem _ member)
        refine ⟨otherNamed, otherTyped, fun seen => ?_⟩
        rcases List.mem_cons.mp seen with same | before
        · exact notAgain (List.mem_map.mpr ⟨other, member, same⟩)
        · exact otherUnseen before

/-- The creation of a table demands a free name, and columns whose names differ. -/
theorem CreateTable.passes_check (op : CreateTable) :
    op.check.Passes before () after ↔
      Text.isBlank op.name = false ∧ before.table? op.name = none ∧ op.columns ≠ [] ∧
        (∀ c ∈ op.columns, Text.isBlank c.name = false ∧ Text.isBlank c.dataType = false) ∧
        (op.columns.map (·.name)).Nodup ∧ after = before.exposeTable op.name op.snapshot := by
  simp only [CreateTable.check, ↓passes_bind, ↓passes_refuseBlank, ↓passes_refusal, ↓passes_get,
    ↓passes_modify, passes_checkColumns]
  constructor
  · rintro ⟨_, _, ⟨named, rfl⟩, _, _, ⟨rfl, rfl⟩, free, some, _, _, ⟨all, distinct, rfl⟩, rfl⟩
    exact ⟨named, by simpa using free, by simpa using some,
      fun c member => ⟨(all c member).1, (all c member).2.1⟩, distinct, rfl⟩
  · rintro ⟨named, free, some, all, distinct, rfl⟩
    exact ⟨(), _, ⟨named, rfl⟩, _, _, ⟨rfl, rfl⟩, by simpa using free, by simpa using some, (), _,
      ⟨fun c member => ⟨(all c member).1, (all c member).2, by simp⟩, distinct, rfl⟩, rfl⟩

/-- The drop of a table demands that there is one. -/
theorem DropTable.passes_check (op : DropTable) :
    op.check.Passes before () after ↔
      (∃ table, before.table? op.name = some table) ∧ after = before.hideTable op.name := by
  simp only [DropTable.check, ↓passes_bind, ↓passes_exposedTable, ↓passes_modify]
  constructor
  · rintro ⟨table, _, ⟨found, rfl⟩, rfl⟩
    exact ⟨⟨table, found⟩, rfl⟩
  · rintro ⟨⟨table, found⟩, rfl⟩
    exact ⟨table, _, ⟨found, rfl⟩, rfl⟩

/-- The addition of a column demands a free name in a table that is there, and a way to fill it. -/
theorem AddColumn.passes_check (op : AddColumn) :
    op.check.Passes before () after ↔
      Text.isBlank op.column.name = false ∧ Text.isBlank op.column.dataType = false ∧
        ∃ table, before.table? op.table = some table ∧ table.column? op.column.name = none ∧
          op.column.pk = false ∧
          (op.column.nullable = false → op.column.default = none → op.up ≠ none) ∧
          (op.up ≠ none → table.primaryKey ≠ []) ∧
          after = before.exposeTable op.table (op.extend table) := by
  simp only [AddColumn.check, ↓passes_bind, ↓passes_refuseBlank, ↓passes_refusal,
    ↓passes_exposedTable, ↓passes_putTable]
  constructor
  · rintro ⟨_, _, ⟨named, rfl⟩, _, _, ⟨typed, rfl⟩, table, _, ⟨found, rfl⟩, free, outside, filled,
      keyed, rfl⟩
    refine ⟨named, typed, table, found, by simpa using free, by simpa using outside, ?_, ?_, rfl⟩
    · simpa using filled
    · simpa [Option.isSome_iff_ne_none] using keyed
  · rintro ⟨named, typed, table, found, free, outside, filled, keyed, rfl⟩
    refine ⟨(), _, ⟨named, rfl⟩, (), _, ⟨typed, rfl⟩, table, _, ⟨found, rfl⟩, by simpa using free,
      by simpa using outside, ?_, ?_, rfl⟩
    · simpa using filled
    · simpa [Option.isSome_iff_ne_none] using keyed

/-- The drop of a column demands that there is one. -/
theorem DropColumn.passes_check (op : DropColumn) :
    op.check.Passes before () after ↔
      ∃ table, before.table? op.table = some table ∧ table.column? op.column ≠ none ∧
        after = before.exposeTable op.table (table.hideColumn op.column) := by
  simp only [DropColumn.check, ↓passes_bind, ↓passes_exposedTable, ↓passes_putTable]
  constructor
  · rintro ⟨table, _, ⟨found, rfl⟩, _, _, rfl, passed⟩
    split at passed
    · exact (passes_throw.mp passed).elim
    · rename_i taken
      exact ⟨table, found, by simpa using taken, (passes_pure.mp passed).2.symm⟩
  · rintro ⟨table, found, taken, rfl⟩
    refine ⟨table, _, ⟨found, rfl⟩, (), _, rfl, ?_⟩
    rw [if_neg (by simpa using taken)]
    exact passes_pure.mpr ⟨rfl, rfl⟩

/-- The renaming of a column demands that it can be played. -/
theorem RenameColumn.passes_check (op : RenameColumn) :
    op.check.Passes before () after ↔
      Text.isBlank op.target = false ∧ op.rename before = .ok after := by
  simp only [RenameColumn.check, ↓passes_bind, ↓passes_refuseBlank, ↓passes_get]
  constructor
  · rintro ⟨_, _, ⟨named, rfl⟩, _, _, ⟨rfl, rfl⟩, passed⟩
    split at passed
    · rename_i schema renamed
      exact ⟨named, (passes_set.mp passed) ▸ renamed⟩
    · exact (passes_throw.mp passed).elim
  · rintro ⟨named, renamed⟩
    refine ⟨(), _, ⟨named, rfl⟩, _, _, ⟨rfl, rfl⟩, ?_⟩
    rw [renamed]
    exact passes_set.mpr rfl

/-- A renaming can be played if the table has the column, and none of the new name. -/
theorem RenameColumn.rename_eq_ok (op : RenameColumn) :
    op.rename before = .ok after ↔
      ∃ table column, before.table? op.table = some table ∧ table.column? op.target = none ∧
        table.column? op.source = some column ∧
        after = before.exposeTable op.table
          { table with columns := (table.columns.erase op.source).insert op.target column } := by
  unfold rename
  cases found : before.table? op.table with
  | none => simp
  | some table =>
      cases taken : table.column? op.target with
      | some column => simp [taken]
      | none =>
          cases there : table.column? op.source with
          | none => simp [taken, there, Table.renameColumn?]
          | some column => simp [taken, there, Table.renameColumn?, eq_comm]

/-- The creation of an index demands a free name, and columns that are there. -/
theorem CreateIndex.passes_check (op : CreateIndex) :
    op.check.Passes before () after ↔
      Text.isBlank op.name = false ∧ op.columns ≠ [] ∧ before.findIndex? op.name = none ∧
        ∃ table columns, before.table? op.table = some table ∧
          op.physicalNames table = .ok columns ∧
          after = before.exposeTable op.table (table.addIndex (op.snapshot columns)) := by
  simp only [CreateIndex.check, ↓passes_bind, ↓passes_refuseBlank, ↓passes_refusal, ↓passes_get,
    ↓passes_exposedTable]
  constructor
  · rintro ⟨_, _, ⟨named, rfl⟩, some, _, _, ⟨rfl, rfl⟩, free, table, _, ⟨found, rfl⟩, passed⟩
    split at passed
    · rename_i columns physical
      exact ⟨named, by simpa using some, by simpa using free, table, columns, found, physical,
        passes_putTable.mp passed⟩
    · exact (passes_throw.mp passed).elim
  · rintro ⟨named, some, free, table, columns, found, physical, rfl⟩
    refine ⟨(), _, ⟨named, rfl⟩, by simpa using some, _, _, ⟨rfl, rfl⟩, by simpa using free, table,
      _, ⟨found, rfl⟩, ?_⟩
    rw [physical]
    exact passes_putTable.mpr rfl

/-- The drop of an index demands that some table has it. -/
theorem DropIndex.passes_check (op : DropIndex) :
    op.check.Passes before () after ↔ op.remove? before = some after := by
  simp only [DropIndex.check, ↓passes_bind, ↓passes_get]
  constructor
  · rintro ⟨_, _, ⟨rfl, rfl⟩, passed⟩
    split at passed
    · rename_i schema removed
      exact (passes_set.mp passed) ▸ removed
    · exact (passes_throw.mp passed).elim
  · intro removed
    refine ⟨_, _, ⟨rfl, rfl⟩, ?_⟩
    rw [removed]
    exact passes_set.mpr rfl

/-- An index is taken out of a table that is exposed. -/
theorem DropIndex.remove?_eq_some (op : DropIndex) (removed : op.remove? before = some after) :
    ∃ owner table, before.table? owner = some table ∧
      after = before.exposeTable owner (table.removeIndex op.name) := by
  simp only [remove?, Option.bind_eq_bind, Option.bind_eq_some_iff, Option.pure_def,
    Option.some.injEq] at removed
  obtain ⟨⟨owner, index⟩, _, table, found, rfl⟩ := removed
  exact ⟨owner, table, found, rfl⟩

/-- SQL of the user leaves the schema as it is; what waits for the completion is not undone. -/
theorem RawSql.passes_check (op : RawSql) :
    op.check.Passes before () after ↔
      Text.isBlank op.up = false ∧ (op.onComplete = true → op.down = none) ∧ after = before := by
  simp only [RawSql.check, ↓passes_bind, ↓passes_refuseBlank]
  constructor
  · rintro ⟨_, _, ⟨given, rfl⟩, passed⟩
    split at passed
    · exact (passes_throw.mp passed).elim
    · rename_i kept
      exact ⟨given, by simpa using kept, (passes_pure.mp passed).2.symm⟩
  · rintro ⟨given, kept, rfl⟩
    refine ⟨(), _, ⟨given, rfl⟩, ?_⟩
    rw [if_neg (by simpa using kept)]
    exact passes_pure.mpr ⟨rfl, rfl⟩

/-! ## Migrations -/

theorem passes_checkOperations_nil {alone : Bool} :
    (checkOperations alone []).Passes before () after ↔ after = before := by
  rw [checkOperations, passes_pure]
  constructor
  · rintro ⟨_, rfl⟩
    rfl
  · rintro rfl
    exact ⟨rfl, rfl⟩

/-- Operations are checked one after the other, each in the schema that the one before it leaves. -/
theorem passes_checkOperations_cons {alone : Bool} {op : Operation} {rest : List Operation} :
    (checkOperations alone (op :: rest)).Passes before () after ↔
      (op.standsAlone = true → alone = true) ∧ ∃ between, op.check.Passes before () between ∧
        (checkOperations alone rest).Passes between () after := by
  simp only [checkOperations, ↓passes_refusal, ↓passes_bind]
  constructor
  · rintro ⟨isolated, _, between, checked, others⟩
    exact ⟨by simpa using isolated, between, checked, others⟩
  · rintro ⟨isolated, between, checked, others⟩
    exact ⟨by simpa using isolated, (), between, checked, others⟩

/-- A migration is accepted if it has operations, a name for its version schema that the server
keeps, and if all its operations are accepted. -/
theorem Migration.validated_eq_ok {m : Migration} {schema played : Schema} :
    m.validated schema = .ok played ↔
      m.operations ≠ [] ∧ Sql.nameFault? (m.versionSchemaName schema.name) = none ∧
        (checkOperations (m.operations.length == 1) m.operations).Passes schema () played := by
  unfold Migration.validated
  by_cases none : m.operations.isEmpty = true
  · rw [if_pos none]
    simp [List.isEmpty_iff.mp none]
  · rw [if_neg none]
    have some : m.operations ≠ [] := fun empty => none (List.isEmpty_iff.mpr empty)
    cases fault : Sql.nameFault? (m.versionSchemaName schema.name) with
    | some fault => simp
    | none =>
        constructor
        · intro accepted
          refine ⟨some, rfl, ?_⟩
          unfold Check.Passes
          dsimp only at accepted
          split at accepted
          · rename_i value left ran
            cases accepted
            exact ran
          · cases accepted
        · rintro ⟨_, _, passes⟩
          dsimp only
          rw [passes]

/-- A migration that is validated is accepted. -/
theorem Migration.validate_of_validated {m : Migration} {schema played : Schema}
    (accepted : m.validated schema = .ok played) : m.validate schema = .ok () := by
  rw [Migration.validate, accepted]
  rfl

end ExpandContract
